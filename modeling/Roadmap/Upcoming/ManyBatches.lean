import Roadmap.Base.Batches
import Roadmap.Upcoming.Batches

/-! Any number of batches of hosts, whose upcoming changes are merged one response after the
other. -/
namespace Roadmap
open Dict

section Affected

theorem affects_each {systems : List HostRowWithPackages} (distinct : (systems.map (·.id)).Nodup)
    (upcoming : UpcomingInput) (info : SystemInfo) :
    Affects systems upcoming info ↔ ∃ system ∈ systems, Affects [system] upcoming info := by
  induction systems with
  | nil => simp [Affects,namesOfSystem,itemsAt]
  | cons system rest ih =>
    obtain ⟨apart,tail⟩ := List.nodup_cons.mp distinct
    have disjoint : Disjoint [system] rest := by
      intro first inFirst second inSecond same
      rw [List.mem_singleton.mp inFirst] at same
      exact apart (List.mem_map.mpr ⟨second,inSecond,same.symm⟩)
    have split := affects_append disjoint upcoming info
    rw [List.singleton_append] at split
    rw [split,ih tail,List.exists_mem_cons_iff]

theorem affected_perm {systems others : List HostRowWithPackages} (distinct : (systems.map (·.id)).Nodup)
    (same : systems.Perm others) (upcoming : UpcomingInput) :
    affectedSystems (group (fun _ names => names) (systems.filterMap hostPackages) .empty) upcoming =
      affectedSystems (group (fun _ names => names) (others.filterMap hostPackages) .empty) upcoming := by
  ext info
  rw [mem_affectedSystems,mem_affectedSystems,affects_each distinct,
    affects_each ((same.map _).nodup_iff.mp distinct)]
  exact exists_congr (fun system => and_congr_left (fun _ => same.mem_iff))

end Affected

section StandsFor

variable (file : List UpcomingInput) (all : Bool)

def upcomingRows (systems : List HostRowWithPackages) : List UpcomingOutput :=
  file.filterMap (listedItem all
    (affectedSystems (group (fun _ names => names) (systems.filterMap hostPackages) .empty)))

theorem upcoming_answer {systems : List HostRowWithPackages}
    (formed : ∀ system ∈ systems, WellFormedPackages system) :
    ∃ response, getRelevantUpcomingForHosts file all systems = .ok response ∧
      response.data = upcomingRows file all systems ∧
      response.metaData = ⟨response.data.length,response.data.length⟩ := by
  refine ⟨_,?_,response_data file all _,rfl⟩
  rw [getRelevantUpcomingForHosts,packagesBySystem_ok systems formed]
  rfl

/-- The rows for the hosts, in some order. -/
structure UpcomingFor (systems : List HostRowWithPackages) (response : WrappedUpcomingOutput) : Prop where
  data : response.data.Perm (upcomingRows file all systems)
  metaData : response.metaData = ⟨response.data.length,response.data.length⟩

variable {file} (records : Keyed.Distinct UpcomingInput.record file)

include records

theorem UpcomingFor.merge {A B : List HostRowWithPackages} {first second : WrappedUpcomingOutput}
    (distinct : ((A ++ B).map (·.id)).Nodup) (inFirst : UpcomingFor file all A first)
    (inSecond : UpcomingFor file all B second) :
    UpcomingFor file all (A ++ B) (first.merge all second) := by
  have disjoint : Disjoint A B := by
    intro left inLeft right inRight same
    rw [List.map_append] at distinct
    have apart := (List.nodup_append'.mp distinct).2.2
    exact apart (List.mem_map_of_mem inLeft) (same ▸ List.mem_map_of_mem inRight)
  have union : ∀ upcoming, affectedSystems
      (group (fun _ names => names) ((A ++ B).filterMap hostPackages) .empty) upcoming =
        affectedSystems (group (fun _ names => names) (A.filterMap hostPackages) .empty) upcoming ∪
        affectedSystems (group (fun _ names => names) (B.filterMap hostPackages) .empty) upcoming := by
    intro upcoming
    ext info
    rw [Finset.mem_union,mem_affectedSystems,mem_affectedSystems,mem_affectedSystems]
    exact affects_append disjoint upcoming info
  have rows := merge_listed all records _ _ _ union
  rw [← merged_affected all] at rows
  have listed : ∀ systems, Keyed.Distinct UpcomingOutput.record (upcomingRows file all systems) :=
    fun systems => Keyed.distinct_filterMap _ (listedItem_record all _) records
  have keeps : ∀ left right, (uniteSystems left right).record = left.record := fun _ _ => rfl
  have merged := Keyed.merge_perm keeps (listed A) (listed B) inFirst.data.symm inSecond.data.symm
  exact ⟨(merged.symm.filter _).trans rows.symm,rfl⟩

omit records in
theorem UpcomingFor.merge_first {B : List HostRowWithPackages} {second : WrappedUpcomingOutput}
    (inSecond : UpcomingFor file all B second) :
    UpcomingFor file all B ((⟨⟨0,0⟩,[]⟩ : WrappedUpcomingOutput).merge all second) := by
  have shown : ∀ row ∈ second.data, (all || decide row.affected.Nonempty) = true := by
    intro row member
    obtain ⟨upcoming,-,listed⟩ := List.mem_filterMap.mp (inSecond.data.mem_iff.mp member)
    rw [listedItem] at listed
    split at listed
    next wanted => rw [← Option.some.inj listed]; exact wanted
    next => contradiction
  have same : ((⟨⟨0,0⟩,[]⟩ : WrappedUpcomingOutput).merge all second).data = second.data := by
    have fresh : second.data.filter (fun row =>
        (Keyed.find UpcomingOutput.record [] row.record).isNone) = second.data :=
      List.filter_eq_self.mpr (fun _ _ => rfl)
    rw [WrappedUpcomingOutput.merge,Keyed.merge,fresh,List.map_nil,List.nil_append]
    exact List.filter_eq_self.mpr shown
  exact ⟨(List.Perm.of_eq same).trans inSecond.data,rfl⟩

omit records in
def WrappedUpcomingOutput.mergeAll (all : Bool) (parts : List WrappedUpcomingOutput) : WrappedUpcomingOutput :=
  parts.foldl (WrappedUpcomingOutput.merge all) ⟨⟨0,0⟩,[]⟩

/-- With `all` every response lists every item, so there must be some batch. -/
theorem upcomingFor_batches {batches : List (List HostRowWithPackages)} {parts : List WrappedUpcomingOutput}
    (distinct : (batches.flatten.map (·.id)).Nodup) (nonempty : all = true → batches ≠ [])
    (each : List.Forall₂ (UpcomingFor file all) batches parts) :
    UpcomingFor file all batches.flatten (.mergeAll all parts) := by
  have merges : Batches.Merges (fun systems : List HostRowWithPackages => (systems.map (·.id)).Nodup)
      (UpcomingFor file all) (WrappedUpcomingOutput.merge all) := {
    start := fun left right together => (List.nodup_append.mp (List.map_append ▸ together)).1
    both := fun _ _ _ _ together inFirst inSecond => inFirst.merge all records together inSecond
  }
  cases each with
  | nil =>
    have off : all = false := Bool.eq_false_iff.mpr (fun on => nonempty on rfl)
    have nothing : upcomingRows file all [] = [] := by
      simp [upcomingRows,listedItem,off,affectedSystems,group,Dict.empty]
    exact ⟨by rw [List.flatten_nil,nothing]; rfl,rfl⟩
  | cons first rest => exact merges.fold rest first.merge_first distinct

omit records in
theorem UpcomingFor.of_perm {systems others : List HostRowWithPackages} {response : WrappedUpcomingOutput}
    (stands : UpcomingFor file all systems response) (distinct : (systems.map (·.id)).Nodup)
    (same : systems.Perm others) : UpcomingFor file all others response := by
  refine ⟨stands.data.trans (List.Perm.of_eq ?_),stands.metaData⟩
  rw [upcomingRows,upcomingRows]
  simp only [funext (affected_perm distinct same)]

end StandsFor

end Roadmap
