import Roadmap.Base.Keyed
import Roadmap.Upcoming.Relevant

/-! Responses for batches of hosts and the merge that the host-id endpoint documents: rows
of one roadmap record are matched, and their affected systems are united. -/
namespace Roadmap
open Dict

structure RecordIdentity where
  name : String
  type : UpcomingType
  release : String
  date : Date
  packages : Finset String
  details : UpcomingDetails
  deriving DecidableEq

def UpcomingInput.record (upcoming : UpcomingInput) : RecordIdentity :=
  ⟨upcoming.name,upcoming.type,upcoming.release,upcoming.date,upcoming.packages,upcoming.details⟩

def UpcomingOutput.record (row : UpcomingOutput) : RecordIdentity :=
  ⟨row.name,row.type,row.release,row.date,row.packages,row.details.toUpcomingDetails⟩

def UpcomingOutput.affected (row : UpcomingOutput) : Finset SystemInfo :=
  row.details.potentiallyAffectedSystemsDetail

def uniteSystems (left right : UpcomingOutput) : UpcomingOutput :=
  let systems := left.affected ∪ right.affected
  {left with details := ⟨left.details.toUpcomingDetails,systems.card,systems,getSystemUuids systems⟩}

namespace WrappedUpcomingOutput

def merge (all : Bool) (first second : WrappedUpcomingOutput) : WrappedUpcomingOutput :=
  let rows := (Keyed.merge UpcomingOutput.record uniteSystems first.data second.data).filter
    (fun row => all || decide row.affected.Nonempty)
  ⟨⟨rows.length,rows.length⟩,rows⟩

end WrappedUpcomingOutput

section Affected

variable (systems : List HostRowWithPackages)

/-- The package names of a host, by its last row. -/
def namesOfSystem (info : SystemInfo) : Option (Finset String) :=
  (itemsAt (systems.filterMap hostPackages) info).getLast?

def Affects (upcoming : UpcomingInput) (info : SystemInfo) : Prop :=
  info.osMajor = upcoming.osMajor ∧
    ∃ names, namesOfSystem systems info = some names ∧ (upcoming.packages ∩ names).Nonempty

theorem get?_packages (info : SystemInfo) :
    (group (fun _ names => names) (systems.filterMap hostPackages) (.empty : PackagesBySystem)).get? info =
      namesOfSystem systems info :=
  get?_group_assign _ info

theorem mem_affectedSystems (upcoming : UpcomingInput) (info : SystemInfo) :
    info ∈ affectedSystems (group (fun _ names => names) (systems.filterMap hostPackages) .empty) upcoming ↔
      Affects systems upcoming info := by
  simp only [affectedSystems,List.mem_toFinset,List.mem_map,List.mem_filter,decide_eq_true_eq,Affects,
    ← get?_packages]
  constructor
  · rintro ⟨entry,⟨member,major,shared⟩,rfl⟩
    exact ⟨major,entry.2,(mem_items _ entry).mp member,shared⟩
  · rintro ⟨major,names,found,shared⟩
    exact ⟨(info,names),⟨(mem_items _ _).mpr found,major,shared⟩,rfl⟩

end Affected

/-- A host of one batch is in no row of the other. -/
def Disjoint (A B : List HostRowWithPackages) : Prop := ∀ first ∈ A, ∀ second ∈ B, first.id ≠ second.id

private theorem host_row {systems : List HostRowWithPackages} {info : SystemInfo} {names : Finset String}
    (found : namesOfSystem systems info = some names) : ∃ system ∈ systems, system.id = info.id := by
  have member := List.mem_of_getLast? found
  obtain ⟨event,listed,same,-⟩ := (mem_itemsAt _ _ _).mp member
  obtain ⟨system,present,packages⟩ := List.mem_filterMap.mp listed
  obtain ⟨version,-,built⟩ := Option.bind_eq_some_iff.mp packages
  refine ⟨system,present,?_⟩
  rw [← beq_iff_eq.mp same]
  split at built
  · contradiction
  · rw [← Option.some.inj built]

theorem affects_append {A B : List HostRowWithPackages} (disjoint : Disjoint A B)
    (upcoming : UpcomingInput) (info : SystemInfo) :
    Affects (A ++ B) upcoming info ↔ Affects A upcoming info ∨ Affects B upcoming info := by
  have joined : namesOfSystem (A ++ B) info = (namesOfSystem B info).or (namesOfSystem A info) := by
    rw [namesOfSystem,List.filterMap_append,itemsAt_append,List.getLast?_append]
    rfl
  simp only [Affects,joined,← and_or_left]
  refine and_congr_right (fun _ => ?_)
  cases inA : namesOfSystem A info with
  | none => simp
  | some first =>
    cases inB : namesOfSystem B info with
    | none => simp
    | some second =>
      obtain ⟨one,presentOne,sameOne⟩ := host_row inA
      obtain ⟨two,presentTwo,sameTwo⟩ := host_row inB
      exact absurd (sameOne.trans sameTwo.symm) (disjoint one presentOne two presentTwo)

section Merge

variable (file : List UpcomingInput) (all : Bool)

def listedItem (affected : UpcomingInput → Finset SystemInfo) (upcoming : UpcomingInput) :
    Option UpcomingOutput :=
  if all || decide (affected upcoming).Nonempty then some (outputOf upcoming (affected upcoming)) else none

theorem listedItem_record (affected : UpcomingInput → Finset SystemInfo) (upcoming : UpcomingInput)
    (row : UpcomingOutput) (listed : listedItem all affected upcoming = some row) :
    row.record = upcoming.record := by
  unfold listedItem at listed
  split at listed
  · rw [← Option.some.inj listed]; rfl
  · contradiction

/-- The early filter by major version drops no item that the later filter keeps. -/
theorem response_data (packages : PackagesBySystem) :
    (getUpcomingRelevant (getUpcomingDataWithHosts packages file all) all).data =
      file.filterMap (listedItem all (affectedSystems packages)) := by
  cases all with
  | true => rfl
  | false =>
    have major : ∀ upcoming, (affectedSystems packages upcoming).Nonempty →
        upcoming.osMajor ∈ packages.keys.map (·.osMajor) := by
      rintro upcoming ⟨info,inside⟩
      simp only [affectedSystems,List.mem_toFinset,List.mem_map,List.mem_filter,decide_eq_true_eq] at inside
      obtain ⟨entry,⟨member,same,-⟩,-⟩ := inside
      exact List.mem_map.mpr ⟨entry.1,List.mem_map.mpr ⟨entry,member,rfl⟩,same⟩
    simp only [getUpcomingRelevant,getUpcomingDataWithHosts,Bool.false_eq_true,if_false,Bool.not_false,
      Bool.true_and,List.filter_filterMap]
    refine List.filterMap_congr (fun upcoming _ => ?_)
    by_cases nonempty : (affectedSystems packages upcoming).Nonempty
    · simp [listedItem,nonempty,major upcoming nonempty,outputOf,Option.filter]
    · by_cases known : upcoming.osMajor ∈ packages.keys.map (·.osMajor) <;>
        simp [listedItem,nonempty,known,outputOf,Option.filter]

variable {file} (records : Keyed.Distinct UpcomingInput.record file)

include records

theorem merge_listed (first second both : UpcomingInput → Finset SystemInfo)
    (union : ∀ upcoming, both upcoming = first upcoming ∪ second upcoming) :
    (file.filterMap (listedItem all both)).Perm
      (Keyed.merge UpcomingOutput.record uniteSystems (file.filterMap (listedItem all first))
        (file.filterMap (listedItem all second))) := by
  have keeps : ∀ left right, (uniteSystems left right).record = left.record := fun _ _ => rfl
  have distinct : ∀ affected, Keyed.Distinct UpcomingOutput.record
      (file.filterMap (listedItem all affected)) :=
    fun affected => Keyed.distinct_filterMap _ (listedItem_record all affected) records
  refine Keyed.perm_merge keeps (distinct first) (distinct second) (distinct both) (fun wanted => ?_)
  rw [Keyed.find_filterMap _ (listedItem_record all both) records,
    Keyed.find_filterMap _ (listedItem_record all first) records,
    Keyed.find_filterMap _ (listedItem_record all second) records]
  cases Keyed.find UpcomingInput.record file wanted with
  | none => rfl
  | some upcoming =>
    simp only [Option.bind_some,listedItem,union]
    cases all with
    | true => rfl
    | false =>
      by_cases one : (first upcoming).Nonempty <;> by_cases two : (second upcoming).Nonempty
      · simp only [Finset.Nonempty.inl one,one,two,decide_true,Bool.or_true,if_true]
        rfl
      · simp [Finset.not_nonempty_iff_eq_empty.mp two,one]
      · simp [Finset.not_nonempty_iff_eq_empty.mp one,two]
      · simp [Finset.not_nonempty_iff_eq_empty.mp one,Finset.not_nonempty_iff_eq_empty.mp two]

omit records in
theorem merged_affected (first second : UpcomingInput → Finset SystemInfo) :
    (Keyed.merge UpcomingOutput.record uniteSystems (file.filterMap (listedItem all first))
      (file.filterMap (listedItem all second))).filter (fun row => all || decide row.affected.Nonempty) =
    Keyed.merge UpcomingOutput.record uniteSystems (file.filterMap (listedItem all first))
      (file.filterMap (listedItem all second)) := by
  have kept : ∀ affected, ∀ row ∈ file.filterMap (listedItem all affected),
      (all || decide row.affected.Nonempty) = true := by
    intro affected row member
    obtain ⟨upcoming,-,listed⟩ := List.mem_filterMap.mp member
    unfold listedItem at listed
    split at listed
    next wanted => rw [← Option.some.inj listed]; exact wanted
    next => contradiction
  refine List.filter_eq_self.mpr (fun row member => ?_)
  rcases List.mem_append.mp member with inLeft | inRight
  · obtain ⟨left,listed,rfl⟩ := List.mem_map.mp inLeft
    have wanted := kept first left listed
    unfold Keyed.absorb
    split
    · rw [Bool.or_eq_true,decide_eq_true_eq] at wanted ⊢
      exact wanted.imp_right Finset.Nonempty.inl
    · exact wanted
  · exact kept second row (List.mem_filter.mp inRight).1

/-- The response for disjoint batches is the merge of their responses, up to the order of
the rows. -/
theorem upcoming_batches_merge {A B : List HostRowWithPackages} (disjoint : Disjoint A B)
    (formedA : ∀ system ∈ A, WellFormedPackages system)
    (formedB : ∀ system ∈ B, WellFormedPackages system) :
    ∃ first second whole, getRelevantUpcomingForHosts file all A = .ok first ∧
      getRelevantUpcomingForHosts file all B = .ok second ∧
      getRelevantUpcomingForHosts file all (A ++ B) = .ok whole ∧
      whole.data.Perm (first.merge all second).data ∧
      whole.metaData = (first.merge all second).metaData := by
  have formed : ∀ system ∈ A ++ B, WellFormedPackages system := by
    intro system member
    exact (List.mem_append.mp member).elim (formedA system) (formedB system)
  have union : ∀ upcoming, affectedSystems
      (group (fun _ names => names) ((A ++ B).filterMap hostPackages) .empty) upcoming =
        affectedSystems (group (fun _ names => names) (A.filterMap hostPackages) .empty) upcoming ∪
        affectedSystems (group (fun _ names => names) (B.filterMap hostPackages) .empty) upcoming := by
    intro upcoming
    ext info
    rw [Finset.mem_union,mem_affectedSystems,mem_affectedSystems,mem_affectedSystems]
    exact affects_append disjoint upcoming info
  have rows := merge_listed all records _ _ _ union
  rw [← merged_affected all,← response_data,← response_data,← response_data] at rows
  refine ⟨_,_,_,?_,?_,?_,rows,?_⟩
  · rw [getRelevantUpcomingForHosts,packagesBySystem_ok A formedA]
    rfl
  · rw [getRelevantUpcomingForHosts,packagesBySystem_ok B formedB]
    rfl
  · rw [getRelevantUpcomingForHosts,packagesBySystem_ok (A ++ B) formed]
    rfl
  · exact congrArg (fun size => Meta.mk size size) rows.length_eq

end Merge

private def nodeItem (type : UpcomingType) (details : String) : UpcomingInput where
  name := "Node.js"
  type := type
  packages := {"nodejs"}
  release := "9.6"
  osMajor := 9
  date := .mk 2025 11 1
  details := ⟨none,1,details,"",.mk 2025 9 1,.mk 2025 9 2,none⟩

private def nodeItems : List UpcomingInput :=
  [nodeItem .addition "Node.js 24 is added",nodeItem .deprecation "Node.js 18 is deprecated"]

private def nodeHost (id : Nat) (package : String) : HostRowWithPackages :=
  ⟨⟨⟨id⟩,"host",some "RHEL",some 9,some 6,none,none⟩,none,some [package]⟩

/-- Both records list a host of each batch. -/
theorem upcoming_batches_merge_nodejs :
    let A := [nodeHost 1 "nodejs-1:24.1-1.el9.x86_64"]
    let B := [nodeHost 2 "nodejs-1:18.2-1.el9.x86_64"]
    ∃ first second whole, getRelevantUpcomingForHosts nodeItems false A = .ok first ∧
      getRelevantUpcomingForHosts nodeItems false B = .ok second ∧
      getRelevantUpcomingForHosts nodeItems false (A ++ B) = .ok whole ∧
      whole.data.Perm (first.merge false second).data ∧
      whole.metaData = (first.merge false second).metaData ∧
      whole.data.map (fun row => row.details.potentiallyAffectedSystems.card) = [2,2] := by
  intro A B
  have records : Keyed.Distinct UpcomingInput.record nodeItems :=
    show (nodeItems.map UpcomingInput.record).Nodup by decide
  have formed : ∀ system ∈ A ++ B,WellFormedPackages system := by
    have parsed : ∀ system ∈ A ++ B,∀ package ∈ system.packages.getD [],
        (NEVRA.fromString package).toBool = true := by decide +kernel
    exact fun system member package inside => Except.exists_ok (parsed system member package inside)
  have apart : ∀ first ∈ A,∀ second ∈ B,first.id ≠ second.id := by decide
  obtain ⟨first,second,whole,one,two,both,data,size⟩ := upcoming_batches_merge false records apart
    (fun system member => formed system (List.mem_append_left B member))
    (fun system member => formed system (List.mem_append_right A member))
  have counted : (getRelevantUpcomingForHosts nodeItems false (A ++ B)).map (fun response =>
      response.data.map (fun row => row.details.potentiallyAffectedSystems.card)) = .ok [2,2] := by decide +kernel
  rw [both] at counted
  exact ⟨first,second,whole,one,two,both,data,size,Except.ok.inj counted⟩

end Roadmap
