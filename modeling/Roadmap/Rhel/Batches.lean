import Roadmap.Rhel.Integrity
import Roadmap.Base.Keyed

/-! Responses for batches of hosts and the merge that the host-id endpoint documents:
installed rows that share a key are added up, a related version is dropped when any
batch has it installed, and the metadata is recalculated. -/
namespace Roadmap
open Dict

def System.version (row : System) : Int × Option Int := (row.major,row.minor)

def addCounts (left right : System) : System := {left with count := left.count + right.count}

namespace RelevantSystemsResponse

def mergeInstalled (first second : RelevantSystemsResponse) : List System :=
  Keyed.merge System.rowKey addCounts (first.installed.map (·.withoutSystems))
    (second.installed.map (·.withoutSystems))

def mergeRelated (first second : RelevantSystemsResponse) : List System :=
  (Keyed.merge System.version (fun left _ => left) first.related second.related).filter
    (fun row => decide (row.version ∉ (first.installed ++ second.installed).map System.version))

def merge (first second : RelevantSystemsResponse) : RelevantSystemsResponse :=
  let rows := mergeInstalled first second ++ mergeRelated first second
  ⟨recount rows,rows⟩

end RelevantSystemsResponse

theorem recount_perm {left right : List System} (same : left.Perm right) : recount left = recount right := by
  rw [recount,recount,same.length_eq,(same.map _).sum_eq]

section Merge

variable (today : Date) (table : LifecycleTable)

private def plainSystem (countKey : HostCount) (count : Nat) : System :=
  (installedSystem today table ⟨.empty,.empty⟩ (countKey,count)).withoutSystems

private theorem plainSystem_add (countKey : HostCount) (left right : Nat) (first : left ≠ 0)
    (second : right ≠ 0) : addCounts (plainSystem today table countKey left)
      (plainSystem today table countKey right) = plainSystem today table countKey (left + right) := by
  simp [addCounts,plainSystem,installedSystem,System.create,System.withoutSystems,System.status,first,second]

private theorem find_installed (related : Bool) (systems : List HostRow) (wanted : HostCount) :
    Keyed.find System.rowKey
      ((relevantSystems today table related systems).installed.map (·.withoutSystems)) wanted =
        if (hostsCounted systems wanted).length = 0 then none
        else some (plainSystem today table wanted (hostsCounted systems wanted).length) := by
  split
  next zero =>
    rw [Keyed.find_eq_none]
    rintro row member rfl
    obtain ⟨listed,inside,rfl⟩ := List.mem_map.mp member
    obtain ⟨countKey,found,rfl⟩ := (mem_installed today table related systems listed).mp inside
    exact found (List.length_eq_zero_iff.mp zero)
  next found =>
    rw [Keyed.find_eq_some]
    · have nonempty : hostsCounted systems wanted ≠ [] := fun empty => found (by rw [empty]; rfl)
      exact ⟨List.mem_map.mpr ⟨_,(mem_installed today table related systems _).mpr
        ⟨wanted,nonempty,rfl⟩,rfl⟩,rfl⟩
    · rw [Keyed.Distinct,List.map_map]
      exact installed_distinct today table related systems

theorem installed_merge (A B : List HostRow) :
    ((relevantSystems today table true (A ++ B)).installed.map (·.withoutSystems)).Perm
      ((relevantSystems today table true A).mergeInstalled (relevantSystems today table true B)) := by
  have distinct : ∀ systems, Keyed.Distinct System.rowKey
      ((relevantSystems today table true systems).installed.map (·.withoutSystems)) := by
    intro systems
    rw [Keyed.Distinct,List.map_map]
    exact installed_distinct today table true systems
  have keeps : ∀ left right, (addCounts left right).rowKey = left.rowKey := fun _ _ => rfl
  apply Keyed.perm_merge keeps (distinct A) (distinct B) (distinct (A ++ B))
  intro wanted
  have joined : hostsCounted (A ++ B) wanted = hostsCounted A wanted ++ hostsCounted B wanted := by
    rw [hostsCounted,countedHosts_append,itemsAt_append]
    rfl
  rw [find_installed,find_installed,find_installed,joined,List.length_append]
  by_cases first : (hostsCounted A wanted).length = 0 <;>
    by_cases second : (hostsCounted B wanted).length = 0
  · simp [first,second]
  · simp [first,second]
  · simp [first,second]
  · have added := plainSystem_add today table wanted _ _ first second
    have sum : (hostsCounted A wanted).length + (hostsCounted B wanted).length ≠ 0 := by omega
    rw [if_neg first,if_neg second,if_neg sum,Option.merge_some_some,added]

/-! Related versions. -/

theorem mem_related (systems : List HostRow) (row : System) :
    row ∈ (relevantSystems today table true systems).related ↔
      ∃ entry ∈ table.dates.items, row = relatedSystem today entry.2 ∧
        (∃ host ∈ countedHosts systems, isRelated today host.1 entry.2 = true) ∧
        ∀ host ∈ countedHosts systems, host.1.key ≠ entry.1 := by
  rw [(related_perm today table systems).mem_iff,List.mem_map]
  have keys : ∀ found : HostCount → Prop, (∃ countKey ∈ (countSystems systems).systemCounts.keys,
      found countKey) ↔ ∃ host ∈ countedHosts systems, found host.1 := by
    intro found
    constructor
    · rintro ⟨countKey,member,holds⟩
      obtain ⟨host,inside,rfl⟩ := (mem_countKeys systems countKey).mp member
      exact ⟨host,inside,holds⟩
    · rintro ⟨host,inside,holds⟩
      exact ⟨host.1,(mem_countKeys systems host.1).mpr ⟨host,inside,rfl⟩,holds⟩
  have listed : ∀ entry, entry ∈ relateds today table (countSystems systems).systemCounts.keys ↔
      entry ∈ table.dates.items ∧ (∃ host ∈ countedHosts systems, isRelated today host.1 entry.2 = true) ∧
        ∀ host ∈ countedHosts systems, host.1.key ≠ entry.1 := by
    intro entry
    have absent := keys (fun countKey => countKey.key = entry.1)
    have present := keys (fun countKey => isRelated today countKey entry.2 = true)
    simp only [relateds,List.mem_filter,Bool.and_eq_true,List.any_eq_true,Bool.not_eq_true',
      decide_eq_false_iff_not,List.mem_map,present,absent,not_exists,not_and,ne_eq]
  constructor
  · rintro ⟨entry,member,rfl⟩
    obtain ⟨inside,holds⟩ := (listed entry).mp member
    exact ⟨entry,inside,rfl,holds⟩
  · rintro ⟨entry,inside,rfl,holds⟩
    exact ⟨entry,(listed entry).mpr ⟨inside,holds⟩,rfl⟩

/-- The table files one release under each version. -/
private theorem entry_of_version {first second : String × RHELLifecycle}
    (inFirst : first ∈ table.dates.items) (inSecond : second ∈ table.dates.items)
    (same : (relatedSystem today first.2).version = (relatedSystem today second.2).version) :
    first = second := by
  have versions := Prod.mk.inj same
  have keys : first.1 = second.1 := by
    rw [table.keyed first inFirst,table.keyed second inSecond,versionKey_inj]
    exact versions
  have one := (mem_items table.dates first).mp inFirst
  rw [keys] at one
  exact Prod.ext keys (Option.some.inj (one.symm.trans ((mem_items table.dates second).mp inSecond)))

theorem related_distinct (systems : List HostRow) :
    Keyed.Distinct System.version (relevantSystems today table true systems).related := by
  apply ((related_perm today table systems).map _).nodup_iff.mpr
  rw [List.map_map]
  refine List.Nodup.map_on ?_ ((table.dates.keys_nodup.of_map _).filter _)
  intro first inFirst second inSecond same
  exact entry_of_version today table (List.mem_filter.mp inFirst).1 (List.mem_filter.mp inSecond).1 same

private theorem version_installed (systems : List HostRow) (version : Int × Option Int) :
    version ∈ (relevantSystems today table true systems).installed.map System.version ↔
      ∃ host ∈ countedHosts systems, (host.1.major,host.1.minor) = version := by
  have keys : ∀ key, key ∈ (relevantSystems today table true systems).installed.map System.rowKey ↔
      key ∈ (countSystems systems).systemCounts.keys :=
    fun key => (installed_keys today table true systems).mem_iff
  have split : (relevantSystems today table true systems).installed.map System.version =
      ((relevantSystems today table true systems).installed.map System.rowKey).map
        (fun key => (key.major,key.minor)) := by
    rw [List.map_map]
    rfl
  rw [split,List.mem_map]
  constructor
  · rintro ⟨key,member,rfl⟩
    obtain ⟨host,inside,rfl⟩ := (mem_countKeys systems key).mp ((keys key).mp member)
    exact ⟨host,inside,rfl⟩
  · rintro ⟨host,inside,rfl⟩
    exact ⟨host.1,(keys host.1).mpr ((mem_countKeys systems host.1).mpr ⟨host,inside,rfl⟩),rfl⟩

private theorem mem_mergeRelated (A B : List HostRow) (row : System) :
    row ∈ (relevantSystems today table true A).mergeRelated (relevantSystems today table true B) ↔
      (row ∈ (relevantSystems today table true A).related ∨
        row ∈ (relevantSystems today table true B).related) ∧
      ∀ host ∈ countedHosts (A ++ B), (host.1.major,host.1.minor) ≠ row.version := by
  have absent : row.version ∉ ((relevantSystems today table true A).installed ++
      (relevantSystems today table true B).installed).map System.version ↔
        ∀ host ∈ countedHosts (A ++ B), (host.1.major,host.1.minor) ≠ row.version := by
    rw [List.map_append,List.mem_append,version_installed,version_installed,countedHosts_append]
    simp only [List.mem_append,not_or,not_exists,not_and,ne_eq,or_imp,forall_and]
  rw [RelevantSystemsResponse.mergeRelated,List.mem_filter,decide_eq_true_eq,absent]
  refine and_congr_left (fun _ => Keyed.mem_merge_left System.version ?_ row)
  intro first inFirst second inSecond same
  obtain ⟨one,inOne,rfl,-⟩ := (mem_related today table A first).mp inFirst
  obtain ⟨two,inTwo,rfl,-⟩ := (mem_related today table B second).mp inSecond
  rw [entry_of_version today table inOne inTwo same]

/-- Related rows of two batches: the union, without the versions installed in either. -/
theorem related_merge (A B : List HostRow) :
    (relevantSystems today table true (A ++ B)).related.Perm
      ((relevantSystems today table true A).mergeRelated (relevantSystems today table true B)) := by
  have merged : ((relevantSystems today table true A).mergeRelated
      (relevantSystems today table true B)).Nodup :=
    (Keyed.distinct_merge (fun _ _ => rfl) (related_distinct today table A)
      (related_distinct today table B)).of_map.filter _
  apply (List.perm_ext_iff_of_nodup (related_distinct today table (A ++ B)).of_map merged).mpr
  intro row
  rw [mem_mergeRelated,mem_related,mem_related,mem_related]
  have keyed : ∀ entry ∈ table.dates.items, ∀ host : HostCount × SystemInfo, host.1.key = entry.1 ↔
      (host.1.major,host.1.minor) = (relatedSystem today entry.2).version := by
    intro entry inside host
    rw [HostCount.key,table.keyed entry inside,versionKey_inj]
    exact Prod.mk.injEq .. |>.symm ▸ Iff.rfl
  constructor
  · rintro ⟨entry,inside,rfl,⟨host,counted,close⟩,fresh⟩
    refine ⟨?_,fun other member => (keyed entry inside other).not.mp (fresh other member)⟩
    rw [countedHosts_append] at counted fresh
    rcases List.mem_append.mp counted with inA | inB
    · exact Or.inl ⟨entry,inside,rfl,⟨host,inA,close⟩,
        fun other member => fresh other (List.mem_append_left _ member)⟩
    · exact Or.inr ⟨entry,inside,rfl,⟨host,inB,close⟩,
        fun other member => fresh other (List.mem_append_right _ member)⟩
  · rintro ⟨⟨entry,inside,rfl,⟨host,counted,close⟩,-⟩ | ⟨entry,inside,rfl,⟨host,counted,close⟩,-⟩,fresh⟩
    all_goals
      refine ⟨entry,inside,rfl,⟨host,?_,close⟩,
        fun other member => (keyed entry inside other).not.mpr (fresh other member)⟩
      rw [countedHosts_append]
      simp [counted]

private theorem data_perm (systems : List HostRow) :
    ((relevantSystems today table true systems).data.map (·.withoutSystems)).Perm
      ((relevantSystems today table true systems).installed.map (·.withoutSystems) ++
        (relevantSystems today table true systems).related) := by
  have plain : (relevantSystems today table true systems).related.map (·.withoutSystems) =
      (relevantSystems today table true systems).related := by
    refine (List.map_congr_left (fun row member => ?_)).trans (List.map_id _)
    obtain ⟨entry,-,rfl,-⟩ := (mem_related today table systems row).mp member
    rfl
  have split := List.filter_append_perm (fun row : System => !row.related)
    (relevantSystems today table true systems).data
  simp only [Bool.not_not] at split
  refine (split.symm.map _).trans (List.Perm.of_eq ?_)
  rw [List.map_append]
  exact congrArg _ plain

private theorem meta_recount (systems : List HostRow) :
    (relevantSystems today table true systems).metaData =
      recount ((relevantSystems today table true systems).data.map (·.withoutSystems)) := by
  have counts : ∀ rows : List System, recount (rows.map (·.withoutSystems)) = recount rows := by
    intro rows
    rw [recount,recount,List.length_map,List.map_map]
    rfl
  rw [counts]
  exact (recount_perm (List.mergeSort_perm _ _)).symm

private theorem installed_agree {A B : List HostRow} {left right : System}
    (inLeft : left ∈ (relevantSystems today table true A).installed)
    (inRight : right ∈ (relevantSystems today table true B).installed)
    (same : left.rowKey = right.rowKey) : left.startDate = right.startDate ∧
      left.endDate = right.endDate ∧ left.supportStatus = right.supportStatus := by
  obtain ⟨leftKey,leftFound,rfl⟩ := (mem_installed today table true A left).mp inLeft
  obtain ⟨rightKey,rightFound,rfl⟩ := (mem_installed today table true B right).mp inRight
  have equal : leftKey = rightKey := same
  subst equal
  refine ⟨rfl,rfl,?_⟩
  simp [installedSystem,System.create,System.status,leftFound,rightFound]

/-- Batch responses determine the response for all their hosts: apart from the host
lists it has the merged rows, in some order, and the metadata of these rows. -/
theorem batches_merge (A B : List HostRow) :
    ((relevantSystems today table true (A ++ B)).data.map (·.withoutSystems)).Perm
      ((relevantSystems today table true A).merge (relevantSystems today table true B)).data ∧
    (relevantSystems today table true (A ++ B)).metaData =
      ((relevantSystems today table true A).merge (relevantSystems today table true B)).metaData ∧
    (∀ left ∈ (relevantSystems today table true A).installed,
      ∀ right ∈ (relevantSystems today table true B).installed, left.rowKey = right.rowKey →
        left.startDate = right.startDate ∧ left.endDate = right.endDate ∧
          left.supportStatus = right.supportStatus) ∧
    ((relevantSystems today table true (A ++ B)).related.map System.version).Nodup ∧
    ∀ row ∈ (relevantSystems today table true (A ++ B)).related,
      row.lifecycleType = .mainline ∧ row.count = 0 := by
  have rows : ((relevantSystems today table true (A ++ B)).data.map (·.withoutSystems)).Perm
      ((relevantSystems today table true A).merge (relevantSystems today table true B)).data :=
    (data_perm today table (A ++ B)).trans
      ((installed_merge today table A B).append (related_merge today table A B))
  refine ⟨rows,?_,?_,related_distinct today table (A ++ B),?_⟩
  · rw [meta_recount,recount_perm rows]
    rfl
  · exact fun _ inLeft _ inRight same => installed_agree today table inLeft inRight same
  · intro row member
    obtain ⟨entry,-,rfl,-⟩ := (mem_related today table (A ++ B) row).mp member
    exact ⟨rfl,rfl⟩

end Merge

end Roadmap
