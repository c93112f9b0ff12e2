import Roadmap.Base.Batches
import Roadmap.Rhel.Batches

/-! Any number of batches of hosts, merged one response after the other. -/
namespace Roadmap
open Dict

section StandsFor

variable (today : Date) (table : LifecycleTable)

/-- The response for the hosts, apart from the order of its rows and the hosts they list. -/
structure StandsFor (systems : List HostRow) (response : RelevantSystemsResponse) : Prop where
  installed : (response.installed.map (·.withoutSystems)).Perm
    ((relevantSystems today table true systems).installed.map (·.withoutSystems))
  related : response.related.Perm (relevantSystems today table true systems).related
  metaData : response.metaData = (relevantSystems today table true systems).metaData

theorem recount_withoutSystems (rows : List System) : recount (rows.map (·.withoutSystems)) = recount rows := by
  rw [recount,recount,List.length_map,List.map_map]
  rfl

theorem data_split (response : RelevantSystemsResponse) :
    (response.installed ++ response.related).Perm response.data := by
  have split := List.filter_append_perm (fun row : System => !row.related) response.data
  simp only [Bool.not_not] at split
  exact split

theorem metaData_split (systems : List HostRow) : (relevantSystems today table true systems).metaData =
    recount ((relevantSystems today table true systems).installed.map (·.withoutSystems) ++
      (relevantSystems today table true systems).related) := by
  let response := relevantSystems today table true systems
  have counted : response.metaData = recount (response.installed ++ response.related) :=
    (recount_perm (List.mergeSort_perm _ _)).symm.trans (recount_perm (data_split response).symm)
  rw [← recount_withoutSystems] at counted
  rw [counted,recount,recount]
  simp only [List.map_append,List.map_map,List.length_append,List.length_map]
  rfl

/-! The order of the hosts. -/

private theorem hostsCounted_perm {systems others : List HostRow} (same : systems.Perm others)
    (countKey : HostCount) : (hostsCounted systems countKey).Perm (hostsCounted others countKey) :=
  ((same.filterMap counted).filter _).map _

private theorem installed_subset {systems others : List HostRow} (same : systems.Perm others) (row : System)
    (member : row ∈ (relevantSystems today table true systems).installed.map (·.withoutSystems)) :
    row ∈ (relevantSystems today table true others).installed.map (·.withoutSystems) := by
  obtain ⟨full,listed,rfl⟩ := List.mem_map.mp member
  obtain ⟨countKey,found,rfl⟩ := (mem_installed today table true systems full).mp listed
  have hosts := hostsCounted_perm same countKey
  have kept : hostsCounted others countKey ≠ [] := fun empty => found (empty ▸ hosts).eq_nil
  have listed := (mem_installed today table true others _).mpr ⟨countKey,kept,rfl⟩
  refine List.mem_map.mpr ⟨_,listed,?_⟩
  rw [hosts.length_eq]
  rfl

private theorem installed_plain_nodup (systems : List HostRow) :
    ((relevantSystems today table true systems).installed.map (·.withoutSystems)).Nodup := by
  have distinct : Keyed.Distinct System.rowKey
      ((relevantSystems today table true systems).installed.map (·.withoutSystems)) := by
    rw [Keyed.Distinct,List.map_map]
    exact installed_distinct today table true systems
  exact distinct.of_map

theorem standsFor_perm {systems others : List HostRow} (same : systems.Perm others) :
    StandsFor today table systems (relevantSystems today table true others) := by
  have installed : ((relevantSystems today table true others).installed.map (·.withoutSystems)).Perm
      ((relevantSystems today table true systems).installed.map (·.withoutSystems)) := by
    refine (List.perm_ext_iff_of_nodup (installed_plain_nodup today table others)
      (installed_plain_nodup today table systems)).mpr (fun row => ?_)
    exact ⟨installed_subset today table same.symm row,installed_subset today table same row⟩
  have related : (relevantSystems today table true others).related.Perm
      (relevantSystems today table true systems).related := by
    have keys : ∀ countKey, countKey ∈ (countSystems others).systemCounts.keys ↔
        countKey ∈ (countSystems systems).systemCounts.keys := by
      intro countKey
      rw [mem_countKeys,mem_countKeys]
      exact exists_congr (fun host => and_congr_left (fun _ => (same.filterMap counted).mem_iff.symm))
    refine (related_perm today table others).trans (List.Perm.trans (List.Perm.of_eq ?_)
      (related_perm today table systems).symm)
    congr 1
    refine List.filter_congr (fun entry _ => Bool.eq_iff_iff.mpr ?_)
    simp only [Bool.and_eq_true,List.any_eq_true,Bool.not_eq_true',decide_eq_false_iff_not,List.mem_map,keys]
  refine ⟨installed,related,?_⟩
  rw [metaData_split,metaData_split]
  exact recount_perm (installed.append related)

/-! Merging. -/

section Rows

variable (first second : RelevantSystemsResponse)

private theorem mergeInstalled_rows : ∀ row ∈ first.mergeInstalled second,
    row.related = false ∧ row.withoutSystems = row := by
  have plain : ∀ response : RelevantSystemsResponse, ∀ row ∈ response.installed.map (·.withoutSystems),
      row.related = false ∧ row.withoutSystems = row := by
    intro response row member
    obtain ⟨full,listed,rfl⟩ := List.mem_map.mp member
    have own := (List.mem_filter.mp listed).2
    exact ⟨by simpa [System.withoutSystems] using own,rfl⟩
  refine Keyed.forall_merge System.rowKey (plain first) (plain second) ?_
  rintro one other ⟨installed,same⟩ -
  exact ⟨installed,by rw [← same]; rfl⟩

private theorem mergeRelated_rows : ∀ row ∈ first.mergeRelated second, row.related = true := by
  intro row member
  have related : ∀ response : RelevantSystemsResponse, ∀ row ∈ response.related, row.related = true :=
    fun response row listed => (List.mem_filter.mp listed).2
  exact Keyed.forall_merge System.version (related first) (related second) (fun _ _ holds _ => holds) row
    (List.mem_filter.mp member).1

theorem merge_installed : (first.merge second).installed = first.mergeInstalled second := by
  have kept : (first.mergeInstalled second).filter (!·.related) = first.mergeInstalled second :=
    List.filter_eq_self.mpr (fun row member => by simp [(mergeInstalled_rows first second row member).1])
  have dropped : (first.mergeRelated second).filter (!·.related) = [] :=
    List.filter_eq_nil_iff.mpr (fun row member => by simp [mergeRelated_rows first second row member])
  rw [RelevantSystemsResponse.installed,RelevantSystemsResponse.merge,List.filter_append,kept,dropped,
    List.append_nil]

theorem merge_related : (first.merge second).related = first.mergeRelated second := by
  have dropped : (first.mergeInstalled second).filter (·.related) = [] :=
    List.filter_eq_nil_iff.mpr (fun row member => by simp [(mergeInstalled_rows first second row member).1])
  have kept : (first.mergeRelated second).filter (·.related) = first.mergeRelated second :=
    List.filter_eq_self.mpr (fun row member => mergeRelated_rows first second row member)
  rw [RelevantSystemsResponse.related,RelevantSystemsResponse.merge,List.filter_append,dropped,kept,
    List.nil_append]

end Rows

variable {A B : List HostRow} {first second : RelevantSystemsResponse}

private theorem StandsFor.versions (stands : StandsFor today table A first) :
    (first.installed.map System.version).Perm
      ((relevantSystems today table true A).installed.map System.version) := by
  have plain := stands.installed.map System.version
  rwa [List.map_map,List.map_map] at plain

theorem StandsFor.merge (inFirst : StandsFor today table A first) (inSecond : StandsFor today table B second) :
    StandsFor today table (A ++ B) (first.merge second) := by
  have keeps : ∀ left right, (addCounts left right).rowKey = left.rowKey := fun _ _ => rfl
  have distinct : ∀ systems, Keyed.Distinct System.rowKey
      ((relevantSystems today table true systems).installed.map (·.withoutSystems)) := by
    intro systems
    rw [Keyed.Distinct,List.map_map]
    exact installed_distinct today table true systems
  have installed : (first.mergeInstalled second).Perm
      ((relevantSystems today table true (A ++ B)).installed.map (·.withoutSystems)) :=
    (Keyed.merge_perm keeps (distinct A) (distinct B) inFirst.installed.symm inSecond.installed.symm).symm.trans
      (installed_merge today table A B).symm
  have related : (first.mergeRelated second).Perm (relevantSystems today table true (A ++ B)).related := by
    refine List.Perm.trans ?_ (related_merge today table A B).symm
    have kept : ∀ left _ : System, left.version = left.version := fun _ _ => rfl
    have merged := Keyed.merge_perm kept (related_distinct today table A) (related_distinct today table B)
      inFirst.related.symm inSecond.related.symm
    have versions : ∀ version : Int × Option Int, version ∈ (first.installed ++ second.installed).map System.version ↔
        version ∈ ((relevantSystems today table true A).installed ++
          (relevantSystems today table true B).installed).map System.version := by
      intro version
      rw [List.map_append,List.map_append]
      exact (inFirst.versions.append inSecond.versions).mem_iff
    refine (List.Perm.of_eq (List.filter_congr (fun row _ => ?_))).trans (merged.symm.filter _)
    rw [decide_eq_decide,versions]
  refine ⟨?_,?_,?_⟩
  · rw [merge_installed]
    refine (List.Perm.of_eq ((List.map_congr_left (fun row member => ?_)).trans (List.map_id _))).trans installed
    exact (mergeInstalled_rows first second row member).2
  · rw [merge_related]
    exact related
  · rw [metaData_split]
    exact recount_perm (installed.append related)

theorem StandsFor.of_perm {systems others : List HostRow} {response : RelevantSystemsResponse}
    (stands : StandsFor today table systems response) (same : systems.Perm others) :
    StandsFor today table others response := by
  have whole := standsFor_perm today table same.symm
  exact ⟨stands.installed.trans whole.installed,stands.related.trans whole.related,
    stands.metaData.trans whole.metaData⟩

theorem StandsFor.data {systems : List HostRow} {response : RelevantSystemsResponse}
    (stands : StandsFor today table systems response) :
    ((relevantSystems today table true systems).data.map (·.withoutSystems)).Perm
      (response.data.map (·.withoutSystems)) := by
  refine ((data_split _).symm.map _).trans (List.Perm.trans ?_ ((data_split response).map _))
  rw [List.map_append,List.map_append]
  exact stands.installed.symm.append (stands.related.symm.map _)

private theorem standsFor_nothing : StandsFor today table [] ⟨⟨0,0⟩,[]⟩ := by
  have nothing : relevantSystems today table true [] = ⟨⟨0,0⟩,[]⟩ := by
    simp [relevantSystems,countSystems,relateds,Dict.keys,Dict.empty,recount]
  refine ⟨?_,?_,?_⟩ <;> rw [nothing]

def RelevantSystemsResponse.mergeAll (parts : List RelevantSystemsResponse) : RelevantSystemsResponse :=
  parts.foldl RelevantSystemsResponse.merge ⟨⟨0,0⟩,[]⟩

/-- The responses for the batches, merged one after the other, stand for the hosts of all of them
in any order. -/
theorem standsFor_batches {batches : List (List HostRow)} {systems : List HostRow}
    (cut : batches.flatten.Perm systems) : StandsFor today table systems
      (.mergeAll (batches.map (relevantSystems today table true))) := by
  have merges : Batches.Merges (fun _ => True) (StandsFor today table) RelevantSystemsResponse.merge := {
    start := fun _ _ _ => trivial
    both := fun _ _ _ _ _ inFirst inSecond => inFirst.merge today table inSecond
  }
  have each : List.Forall₂ (StandsFor today table) batches
      (batches.map (relevantSystems today table true)) := by
    rw [List.forall₂_map_right_iff]
    exact List.forall₂_same.mpr (fun _ _ => standsFor_perm today table (.refl _))
  exact (merges.fold each (standsFor_nothing today table) trivial).of_perm today table cut

end StandsFor

end Roadmap
