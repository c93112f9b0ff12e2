import Roadmap.Rhel.Relevant
import Roadmap.Data.Systems

/-! What the two accumulators hold after the loop, and the rows built from them. -/
namespace Roadmap
open Dict

def countedHosts (systems : List HostRow) : List (HostCount × SystemInfo) := systems.filterMap counted

theorem countedHosts_append (first second : List HostRow) :
    countedHosts (first ++ second) = countedHosts first ++ countedHosts second := by
  simp [countedHosts]

private theorem fold_tally (systems : List HostRow) (tally : Tally) : systems.foldl countSystem tally =
    ⟨group increment ((countedHosts systems).map (fun host => (host.1,()))) tally.systemCounts,
      group addTo ((countedHosts systems).map (fun host => (host.1.systemIdKey,host.2)))
        tally.systemsByVersionLifecycle⟩ := by
  induction systems generalizing tally with
  | nil => rfl
  | cons system rest ih =>
    rw [List.foldl_cons,ih]
    unfold countSystem countedHosts
    rw [List.filterMap_cons]
    cases counted system <;> rfl

theorem tally_counts (systems : List HostRow) : (countSystems systems).systemCounts =
    group increment ((countedHosts systems).map (fun host => (host.1,()))) .empty :=
  congrArg Tally.systemCounts (fold_tally systems ⟨.empty,.empty⟩)

theorem tally_systems (systems : List HostRow) : (countSystems systems).systemsByVersionLifecycle =
    group addTo ((countedHosts systems).map (fun host => (host.1.systemIdKey,host.2))) .empty :=
  congrArg Tally.systemsByVersionLifecycle (fold_tally systems ⟨.empty,.empty⟩)

def hostsCounted (systems : List HostRow) (countKey : HostCount) : List SystemInfo :=
  itemsAt (countedHosts systems) countKey

theorem mem_hostsCounted (systems : List HostRow) (countKey : HostCount) (info : SystemInfo) :
    info ∈ hostsCounted systems countKey ↔ (countKey,info) ∈ countedHosts systems := by
  simp only [hostsCounted,mem_itemsAt,beq_iff_eq]
  constructor
  · rintro ⟨⟨key,other⟩,member,rfl,rfl⟩
    exact member
  · exact fun member => ⟨_,member,rfl,rfl⟩

theorem get?_counts (systems : List HostRow) (countKey : HostCount) :
    (countSystems systems).systemCounts.get? countKey =
      if (hostsCounted systems countKey).isEmpty then none
      else some (hostsCounted systems countKey).length := by
  have units : itemsAt ((countedHosts systems).map (fun host => (host.1,()))) countKey =
      (hostsCounted systems countKey).map (fun _ => ()) := by
    simp [itemsAt,hostsCounted,List.filter_map,Function.comp_def]
  rw [tally_counts,get?_group_increment,units,List.isEmpty_map,List.length_map]

theorem mem_counts (systems : List HostRow) (entry : HostCount × Nat) :
    entry ∈ (countSystems systems).systemCounts.items ↔
      hostsCounted systems entry.1 ≠ [] ∧ entry.2 = (hostsCounted systems entry.1).length := by
  rw [mem_items,get?_counts]
  cases hostsCounted systems entry.1 <;> simp [eq_comm]

theorem mem_countKeys (systems : List HostRow) (countKey : HostCount) :
    countKey ∈ (countSystems systems).systemCounts.keys ↔ ∃ host ∈ countedHosts systems, host.1 = countKey := by
  rw [mem_keys,get?_counts]
  cases same : hostsCounted systems countKey with
  | nil =>
    simp only [List.isEmpty_nil,if_true,Option.isSome_none,Bool.false_eq_true,false_iff]
    rintro ⟨host,member,rfl⟩
    have inside := (mem_hostsCounted systems host.1 host.2).mpr member
    simp [same] at inside
  | cons info rest =>
    have inside := (mem_hostsCounted systems countKey info).mp (by simp [same])
    simp only [List.isEmpty_cons,Bool.false_eq_true,if_false,Option.isSome_some,true_iff]
    exact ⟨_,inside,rfl⟩

theorem mem_systemsDetail (systems : List HostRow) (key : String × LifecycleType) (info : SystemInfo) :
    info ∈ ((countSystems systems).systemsByVersionLifecycle.get? key).getD ∅ ↔
      ∃ host ∈ countedHosts systems, host.1.systemIdKey = key ∧ host.2 = info := by
  rw [tally_systems,get?_group_addTo]
  have members : ∀ item, item ∈ itemsAt ((countedHosts systems).map
      (fun host => (host.1.systemIdKey,host.2))) key ↔
        ∃ host ∈ countedHosts systems, host.1.systemIdKey = key ∧ host.2 = item := by
    intro item
    simp
  rw [← members info]
  split
  next empty => simp [List.isEmpty_iff.mp empty]
  next => simp

/-- The counts of some of the keys add up to the number of hosts counted under them. -/
theorem counts_sum (wanted : HostCount → Bool) (systems : List HostRow) :
    (((countSystems systems).systemCounts.items.filter (fun entry => wanted entry.1)).map Prod.snd).sum =
      ((countedHosts systems).filter (fun host => wanted host.1)).length := by
  rw [tally_counts,sum_group_increment,List.filter_map,List.length_map]
  simp [empty,Function.comp_def]

def System.rowKey (row : System) : HostCount := ⟨row.name,row.major,row.minor,row.lifecycleType⟩

namespace RelevantSystemsResponse

def installed (response : RelevantSystemsResponse) : List System := response.data.filter (!·.related)

def related (response : RelevantSystemsResponse) : List System := response.data.filter (·.related)

end RelevantSystemsResponse

section Rows

variable (today : Date) (table : LifecycleTable) (related : Bool) (systems : List HostRow)

private theorem all_installed (row : System)
    (member : row ∈ (countSystems systems).systemCounts.items.map
      (installedSystem today table (countSystems systems))) : row.related = false := by
  obtain ⟨entry,_,rfl⟩ := List.mem_map.mp member
  rfl

private theorem all_related (oses : List (String × RHELLifecycle)) (row : System)
    (member : row ∈ oses.map (fun os => relatedSystem today os.2)) : row.related = true := by
  obtain ⟨os,_,rfl⟩ := List.mem_map.mp member
  rfl

theorem installed_perm : (relevantSystems today table related systems).installed.Perm
    ((countSystems systems).systemCounts.items.map
      (installedSystem today table (countSystems systems))) := by
  have installed : ∀ row ∈ (countSystems systems).systemCounts.items.map
      (installedSystem today table (countSystems systems)), (!row.related) = true := by
    intro row member
    simp [all_installed today table systems row member]
  have dropped : ∀ row ∈ (relateds today table (countSystems systems).systemCounts.keys).map
      (fun os => relatedSystem today os.2), ¬ (!row.related) = true := by
    intro row member
    simp [all_related today _ row member]
  refine ((List.mergeSort_perm _ _).filter _).trans (List.Perm.of_eq ?_)
  split
  · rw [List.filter_append,List.filter_eq_self.mpr installed,List.filter_eq_nil_iff.mpr dropped,
      List.append_nil]
  · exact List.filter_eq_self.mpr installed

theorem related_perm : (relevantSystems today table true systems).related.Perm
    ((relateds today table (countSystems systems).systemCounts.keys).map
      (fun os => relatedSystem today os.2)) := by
  have kept : ∀ row ∈ (relateds today table (countSystems systems).systemCounts.keys).map
      (fun os => relatedSystem today os.2), row.related = true := all_related today _
  have dropped : ∀ row ∈ (countSystems systems).systemCounts.items.map
      (installedSystem today table (countSystems systems)), ¬ row.related = true := by
    intro row member
    simp [all_installed today table systems row member]
  refine ((List.mergeSort_perm _ _).filter _).trans (List.Perm.of_eq ?_)
  rw [if_pos rfl,List.filter_append,List.filter_eq_self.mpr kept,List.filter_eq_nil_iff.mpr dropped,
    List.nil_append]

theorem installed_keys : ((relevantSystems today table related systems).installed.map System.rowKey).Perm
    (countSystems systems).systemCounts.keys := by
  refine ((installed_perm today table related systems).map _).trans (List.Perm.of_eq ?_)
  rw [List.map_map]
  rfl

theorem installed_distinct :
    ((relevantSystems today table related systems).installed.map System.rowKey).Nodup :=
  (installed_keys today table related systems).nodup_iff.mpr (keys_nodup _)

theorem mem_installed (row : System) : row ∈ (relevantSystems today table related systems).installed ↔
    ∃ countKey, hostsCounted systems countKey ≠ [] ∧
      row = installedSystem today table (countSystems systems)
        (countKey,(hostsCounted systems countKey).length) := by
  rw [(installed_perm today table related systems).mem_iff,List.mem_map]
  constructor
  · rintro ⟨⟨countKey,count⟩,member,rfl⟩
    obtain ⟨found,size⟩ := (mem_counts systems _).mp member
    exact ⟨countKey,found,by rw [← size]⟩
  · rintro ⟨countKey,found,rfl⟩
    exact ⟨_,(mem_counts systems _).mpr ⟨found,rfl⟩,rfl⟩

theorem installed_sum (wanted : HostCount → Bool) :
    (((relevantSystems today table related systems).installed.filter (fun row => wanted row.rowKey)).map
      (·.count)).sum = ((countedHosts systems).filter (fun host => wanted host.1)).length := by
  have rows := ((installed_perm today table related systems).filter (fun row => wanted row.rowKey)).map
    (·.count)
  rw [rows.sum_eq,List.filter_map,List.map_map,← counts_sum wanted systems]
  rfl

theorem installed_total : ((relevantSystems today table related systems).installed.map (·.count)).sum =
    (countedHosts systems).length := by
  have all := installed_sum today table related systems (fun _ => true)
  simpa using all

theorem meta_total : (relevantSystems today table related systems).metaData.total =
    (countedHosts systems).length := by
  have zero : (((relateds today table (countSystems systems).systemCounts.keys).map
      (fun os => relatedSystem today os.2)).map (·.count)).sum = 0 := by
    refine List.sum_eq_zero (fun count member => ?_)
    obtain ⟨row,inside,rfl⟩ := List.mem_map.mp member
    obtain ⟨os,_,rfl⟩ := List.mem_map.mp inside
    rfl
  rw [← installed_total today table related systems,
    ((installed_perm today table related systems).map _).sum_eq]
  simp only [relevantSystems,recount]
  split
  · rw [List.map_append,List.sum_append,zero,Nat.add_zero]
  · rfl

end Rows

/-- The host of a row in the words of the row it is listed in. -/
def hostOf (system : HostRow) (name : String) (version : Int × Option Int) (lifecycle : LifecycleType) :
    Prop :=
  system.osName = some name ∧ rhelMajorMinor system = some version ∧
    getLifecycleType (productsOr system.products) = lifecycle

theorem counted_iff (system : HostRow) (countKey : HostCount) (info : SystemInfo) :
    counted system = some (countKey,info) ↔
      hostOf system countKey.name (countKey.major,countKey.minor) countKey.lifecycle ∧
        info = ⟨system.id,system.displayName,countKey.major,countKey.minor⟩ := by
  obtain ⟨name,major,minor,lifecycle⟩ := countKey
  unfold counted hostOf
  cases named : system.osName with
  | none => simp
  | some osName =>
    rcases version : rhelMajorMinor system with _ | ⟨osMajor,osMinor⟩
    · simp
    · simp only [Option.some.injEq,Prod.mk.injEq,HostCount.mk.injEq]
      constructor
      · rintro ⟨⟨rfl,rfl,rfl,rfl⟩,rfl⟩
        exact ⟨⟨rfl,⟨rfl,rfl⟩,rfl⟩,rfl⟩
      · rintro ⟨⟨rfl,⟨rfl,rfl⟩,rfl⟩,rfl⟩
        exact ⟨⟨rfl,rfl,rfl,rfl⟩,rfl⟩

theorem counted_isSome (system : HostRow) : (counted system).isSome =
    (system.osName.isSome && (rhelMajorMinor system).isSome) := by
  unfold counted
  cases system.osName <;> rcases rhelMajorMinor system with _ | ⟨_,_⟩ <;> rfl

theorem countedHosts_length (systems : List HostRow) : (countedHosts systems).length =
    (systems.filter (fun system => system.osName.isSome && (rhelMajorMinor system).isSome)).length := by
  have same : (fun system => system.osName.isSome && (rhelMajorMinor system).isSome) =
      fun system => (counted system).isSome := funext (fun system => (counted_isSome system).symm)
  rw [same]
  unfold countedHosts
  induction systems with
  | nil => rfl
  | cons system rest ih =>
    rw [List.filterMap_cons,List.filter_cons]
    cases counted system <;> simp [ih]

theorem mem_countedHosts (systems : List HostRow) (host : HostCount × SystemInfo) :
    host ∈ countedHosts systems ↔ ∃ system ∈ systems,
      hostOf system host.1.name (host.1.major,host.1.minor) host.1.lifecycle ∧
        host.2 = ⟨system.id,system.displayName,host.1.major,host.1.minor⟩ := by
  simp [countedHosts,← counted_iff]

theorem countedHosts_ids {systems : List HostRow} (distinct : (systems.map (·.id)).Nodup) :
    ((countedHosts systems).map (·.2.id)).Nodup := by
  apply List.Nodup.sublist _ distinct
  clear distinct
  induction systems with
  | nil => exact .slnil
  | cons system rest ih =>
    unfold countedHosts at *
    rw [List.filterMap_cons]
    cases found : counted system with
    | none => exact ih.cons system.id
    | some host =>
      have same := ((counted_iff system host.1 host.2).mp found).2
      simp only [List.map_cons,same]
      exact ih.cons_cons system.id

theorem hostsCounted_ids {systems : List HostRow} (distinct : (systems.map (·.id)).Nodup)
    (countKey : HostCount) : ((hostsCounted systems countKey).map (·.id)).Nodup := by
  rw [hostsCounted,itemsAt,List.map_map]
  exact (countedHosts_ids distinct).sublist (List.filter_sublist.map _)

theorem systemIdKey_inj {left right : HostCount} : left.systemIdKey = right.systemIdKey ↔
    left.major = right.major ∧ left.minor = right.minor ∧ left.lifecycle = right.lifecycle := by
  simp [HostCount.systemIdKey,HostCount.key,versionKey_inj,and_assoc]

/-- No two counted hosts agree on version and lifecycle type and differ in os name. -/
def NamesAgree (systems : List HostRow) : Prop :=
  ∀ first ∈ systems, ∀ second ∈ systems, ∀ name other version lifecycle,
    hostOf first name version lifecycle → hostOf second other version lifecycle → name = other

private theorem names_agree_counted {systems : List HostRow} (agree : NamesAgree systems)
    {left right : HostCount × SystemInfo} (first : left ∈ countedHosts systems)
    (second : right ∈ countedHosts systems) (same : left.1.systemIdKey = right.1.systemIdKey) :
    left.1 = right.1 := by
  obtain ⟨one,inOne,isOne,-⟩ := (mem_countedHosts systems left).mp first
  obtain ⟨two,inTwo,isTwo,-⟩ := (mem_countedHosts systems right).mp second
  obtain ⟨major,minor,lifecycle⟩ := systemIdKey_inj.mp same
  rw [major,minor,lifecycle] at isOne
  have name := agree one inOne two inTwo _ _ _ _ isOne isTwo
  rcases left with ⟨⟨_,_,_,_⟩,_⟩
  rcases right with ⟨⟨_,_,_,_⟩,_⟩
  simp_all

/-- What the counts and the host sets of the installed rows should say about the hosts. -/
structure RowIntegrity (systems : List HostRow) (response : RelevantSystemsResponse) : Prop where
  counts : ∀ row ∈ response.installed,
    row.count = row.systemsDetail.card ∧ row.count = row.systems.card
  hosts : ∀ row ∈ response.installed, ∀ info, info ∈ row.systemsDetail ↔ ∃ system ∈ systems,
    hostOf system row.name (row.major,row.minor) row.lifecycleType ∧
      info = ⟨system.id,system.displayName,row.major,row.minor⟩
  distinct : (response.installed.map System.rowKey).Nodup
  sum : (response.installed.map (·.count)).sum = response.metaData.total
  total : response.metaData.total =
    (systems.filter (fun system => system.osName.isSome && (rhelMajorMinor system).isSome)).length

section Integrity

variable (today : Date) (table : LifecycleTable) (related : Bool) {systems : List HostRow}

private theorem detail_of_agree (agree : NamesAgree systems) (countKey : HostCount)
    (found : hostsCounted systems countKey ≠ []) :
    ((countSystems systems).systemsByVersionLifecycle.get? countKey.systemIdKey).getD ∅ =
      (hostsCounted systems countKey).toFinset := by
  obtain ⟨one,member⟩ := List.exists_mem_of_ne_nil _ found
  have witness := (mem_hostsCounted systems countKey one).mp member
  ext info
  rw [mem_systemsDetail,List.mem_toFinset,mem_hostsCounted]
  constructor
  · rintro ⟨host,counted,same,rfl⟩
    have equal : host.1 = countKey := names_agree_counted agree counted witness same
    rw [← equal]
    exact counted
  · exact fun counted => ⟨_,counted,rfl,rfl⟩

/-- A row that lists another name's host breaks the integrity of the rows. -/
theorem integrity_names (distinct : (systems.map (·.id)).Nodup)
    (integrity : RowIntegrity systems (relevantSystems today table related systems)) :
    NamesAgree systems := by
  intro first inFirst second inSecond name other version lifecycle isFirst isSecond
  have one : (⟨name,version.1,version.2,lifecycle⟩,⟨first.id,first.displayName,version.1,version.2⟩) ∈
      countedHosts systems := (mem_countedHosts systems _).mpr ⟨first,inFirst,isFirst,rfl⟩
  have two : (⟨other,version.1,version.2,lifecycle⟩,
      ⟨second.id,second.displayName,version.1,version.2⟩) ∈ countedHosts systems :=
    (mem_countedHosts systems _).mpr ⟨second,inSecond,isSecond,rfl⟩
  have found := List.ne_nil_of_mem ((mem_hostsCounted systems _ _).mpr one)
  have row := (mem_installed today table related systems _).mpr ⟨_,found,rfl⟩
  have listed := (integrity.hosts _ row ⟨second.id,second.displayName,version.1,version.2⟩).mp
    ((mem_systemsDetail systems _ _).mpr ⟨_,two,systemIdKey_inj.mpr ⟨rfl,rfl,rfl⟩,rfl⟩)
  obtain ⟨system,inside,named,same⟩ := listed
  have equal : system = second :=
    List.inj_on_of_nodup_map distinct inside inSecond (congrArg SystemInfo.id same).symm
  rw [equal] at named
  exact Option.some.inj (named.1.symm.trans isSecond.1)

/-- The rows have integrity exactly when no version and lifecycle type occurs under two
os names: the host sets are collected without the name, the counts with it. -/
theorem row_integrity (distinct : (systems.map (·.id)).Nodup) :
    RowIntegrity systems (relevantSystems today table related systems) ↔ NamesAgree systems := by
  constructor
  · exact integrity_names today table related distinct
  · intro agree
    refine ⟨?_,?_,installed_distinct today table related systems,?_,?_⟩
    · intro row member
      obtain ⟨countKey,found,rfl⟩ := (mem_installed today table related systems row).mp member
      have ids := hostsCounted_ids distinct countKey
      have detail := detail_of_agree agree countKey found
      have size : (hostsCounted systems countKey).toFinset.card = (hostsCounted systems countKey).length :=
        List.toFinset_card_of_nodup ids.of_map
      have uuids : (getSystemUuids (hostsCounted systems countKey).toFinset).card =
          (hostsCounted systems countKey).length := by
        have image : getSystemUuids (hostsCounted systems countKey).toFinset =
            ((hostsCounted systems countKey).map (·.id)).toFinset := by
          ext id
          simp [getSystemUuids]
        rw [image,List.toFinset_card_of_nodup ids,List.length_map]
      simp only [installedSystem,System.create,detail,size,uuids,and_self]
    · intro row member info
      obtain ⟨countKey,found,rfl⟩ := (mem_installed today table related systems row).mp member
      simp only [installedSystem,System.create,detail_of_agree agree countKey found,List.mem_toFinset,
        mem_hostsCounted,mem_countedHosts]
    · rw [installed_total,meta_total]
    · rw [meta_total,countedHosts_length]

end Integrity

private def hostNamed (id : Nat) (osName : String) : HostRow :=
  ⟨⟨id⟩,"host",some osName,some 9,some 4,none,none⟩

theorem row_integrity_two_hosts :
    RowIntegrity [hostNamed 1 "RHEL",hostNamed 2 "RHEL"]
      (relevantSystems (.mk 2025 6 1) osLifecycleDates true [hostNamed 1 "RHEL",hostNamed 2 "RHEL"]) := by
  refine (row_integrity (.mk 2025 6 1) osLifecycleDates true (by decide)).mpr ?_
  have named : ∀ system ∈ [hostNamed 1 "RHEL",hostNamed 2 "RHEL"], system.osName = some "RHEL" := by
    decide
  intro first inFirst second inSecond name other version lifecycle isFirst isSecond
  have one := (named first inFirst).symm.trans isFirst.1
  have two := (named second inSecond).symm.trans isSecond.1
  exact Option.some.inj (one.symm.trans two)

/-- A RHEL host and a CentOS host of one version: both rows list both hosts. -/
theorem two_names_mixed : ¬ RowIntegrity [hostNamed 1 "RHEL",hostNamed 2 "CentOS Linux"]
    (relevantSystems (.mk 2025 6 1) osLifecycleDates false
      [hostNamed 1 "RHEL",hostNamed 2 "CentOS Linux"]) := by
  intro integrity
  have agree := integrity_names (.mk 2025 6 1) osLifecycleDates false (by decide) integrity
  have equal := agree (hostNamed 1 "RHEL") (by simp) (hostNamed 2 "CentOS Linux") (by simp)
    "RHEL" "CentOS Linux" (9,some 4) .mainline ⟨rfl,rfl,rfl⟩ ⟨rfl,rfl,rfl⟩
  simp at equal

end Roadmap
