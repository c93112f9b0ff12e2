import Roadmap.Base.InvertedIndex
import Roadmap.Upcoming.Batches

/-! The monthly count of upcoming changes. The notificator matches each host against an
index of the items while it streams, instead of keeping the packages of all hosts. -/
namespace Roadmap
open Dict

namespace Notificator

/-- The major version and the packages of an item, in the order in which the index takes them. -/
def termsOf (item : UpcomingInput) : List (Int × String) :=
  (item.packages.sort (· ≤ ·)).map (fun pkgName => (item.osMajor,pkgName))

def reverseIndex (upcomingItems : List UpcomingInput) : Dict (Int × String) (Finset Nat) :=
  InvertedIndex.build termsOf upcomingItems

structure Matching where
  affectedCounts : Dict Nat Nat
  osMajorVersions : Finset Int

section Stream

variable (index : Dict (Int × String) (Finset Nat))

def matchPackages (osMajor : Int) (packages : List String) : Except PyError (Finset Nat) :=
  packages.foldlM (fun matchedItems package => do
    let nevra ← NEVRA.fromString package
    return matchedItems ∪ index.heldAt (osMajor,nevra.name)) ∅

def matchHost (matching : Matching) (system : HostRowWithPackages) : Except PyError Matching :=
  let packages := system.packages.getD []
  match rhelMajorMinor system.toHostRow with
  | none => .ok matching
  | some (osMajor,_) =>
    if packages.isEmpty then .ok matching
    else (matchPackages index osMajor packages).map (fun matchedItems =>
      ⟨(matchedItems.sort (· ≤ ·)).foldl (fun counts idx => counts.update (fun old => increment old ()) idx)
        matching.affectedCounts,insert osMajor matching.osMajorVersions⟩)

def streamAndMatchHosts (systems : List HostRowWithPackages) : Except PyError Matching :=
  systems.foldlM (matchHost index) ⟨.empty,∅⟩

end Stream

def upcomingCutoffDate (referenceDate : Date) : Date :=
  referenceDate.firstOfMonth.previousDay.firstOfMonth

def countItem (matching : Matching) (today : Date) (counts : Dict UpcomingType Nat)
    (entry : UpcomingInput × Nat) : Dict UpcomingType Nat :=
  let (item,idx) := entry
  if (matching.affectedCounts.get? idx).getD 0 = 0 then counts
  else if item.osMajor ∉ matching.osMajorVersions then counts
  else
    let deployedDate := item.details.deployedDate.getD today
    if upcomingCutoffDate today ≤ deployedDate ∧ deployedDate ≤ today then
      counts.update (fun old => increment old ()) item.type
    else counts

def getRelevantUpcoming (upcomingItems : List UpcomingInput) (systems : List HostRowWithPackages)
    (today : Date) : Except PyError (Dict UpcomingType Nat) :=
  (streamAndMatchHosts (reverseIndex upcomingItems) systems).map (fun matching =>
    upcomingItems.zipIdx.foldl (countItem matching today) .empty)

/-! A host affects an item or not, whichever way it is matched. -/

/-- The packages of a host meet those of an item of its major version. -/
def Hit (item : UpcomingInput) (packages : SystemInfo × Finset String) : Prop :=
  packages.1.osMajor = item.osMajor ∧ (item.packages ∩ packages.2).Nonempty

instance (item : UpcomingInput) (packages : SystemInfo × Finset String) : Decidable (Hit item packages) :=
  inferInstanceAs (Decidable (_ ∧ _))

def AffectedBy (item : UpcomingInput) (system : HostRowWithPackages) : Prop :=
  ∃ packages, hostPackages system = some packages ∧ Hit item packages

instance (item : UpcomingInput) (system : HostRowWithPackages) : Decidable (AffectedBy item system) :=
  decidable_of_iff ((hostPackages system).any (fun packages => decide (Hit item packages)) = true) (by
    cases found : hostPackages system <;> simp [AffectedBy,found])

section Stream

variable (items : List UpcomingInput)

def matchedBy (index : Dict (Int × String) (Finset Nat)) (packages : SystemInfo × Finset String) :
    Finset Nat :=
  packages.2.biUnion (fun name => index.heldAt (packages.1.osMajor,name))

theorem mem_matchedBy (packages : SystemInfo × Finset String) (position : Nat) :
    position ∈ matchedBy (reverseIndex items) packages ↔
      ∃ item, items[position]? = some item ∧ Hit item packages := by
  simp only [matchedBy,Finset.mem_biUnion,reverseIndex,InvertedIndex.mem_build,termsOf,List.mem_map,
    Finset.mem_sort,Prod.mk.injEq,Hit]
  constructor
  · rintro ⟨name,installed,item,found,pkgName,bears,major,rfl⟩
    exact ⟨item,found,major.symm,pkgName,Finset.mem_inter.mpr ⟨bears,installed⟩⟩
  · rintro ⟨item,found,major,name,shared⟩
    obtain ⟨bears,installed⟩ := Finset.mem_inter.mp shared
    exact ⟨name,installed,item,found,name,bears,major.symm,rfl⟩

theorem matchPackages_ok (index : Dict (Int × String) (Finset Nat)) (osMajor : Int)
    {packages : List String} (formed : ∀ package ∈ packages, NEVRA.WellFormed package) :
    matchPackages index osMajor packages =
      .ok ((packages.map NEVRA.nameOf).toFinset.biUnion (fun name => index.heldAt (osMajor,name))) := by
  have reads : ∀ package ∈ packages, ∀ matchedItems, (do
      let nevra ← NEVRA.fromString package
      return matchedItems ∪ index.heldAt (osMajor,nevra.name)) =
        Except.ok ((some (NEVRA.nameOf package)).toList.foldl
          (fun items name => items ∪ index.heldAt (osMajor,name)) matchedItems) := by
    intro package member matchedItems
    obtain ⟨nevra,read⟩ := formed package member
    rw [read,NEVRA.nameOf,read]
    rfl
  have unite : ∀ (names : List String) (start : Finset Nat),
      names.foldl (fun items name => items ∪ index.heldAt (osMajor,name)) start =
        start ∪ names.toFinset.biUnion (fun name => index.heldAt (osMajor,name)) := by
    intro names
    induction names with
    | nil => simp
    | cons name rest ih =>
      intro start
      rw [List.foldl_cons,ih,List.toFinset_cons,Finset.biUnion_insert,Finset.union_assoc]
  refine (Except.foldlM_events packages reads ∅).trans (congrArg Except.ok ?_)
  rw [unite,Finset.empty_union,List.filterMap_eq_map']

private def countHost (index : Dict (Int × String) (Finset Nat)) (matching : Matching)
    (packages : SystemInfo × Finset String) : Matching :=
  ⟨group increment (((matchedBy index packages).sort (· ≤ ·)).map (fun idx => (idx,())))
    matching.affectedCounts,insert packages.1.osMajor matching.osMajorVersions⟩

/-- Only the packages of hosts that have a version are read. -/
def ReadablePackages (system : HostRowWithPackages) : Prop :=
  (hostPackages system).isSome → WellFormedPackages system

private theorem matchHost_ok (index : Dict (Int × String) (Finset Nat)) (matching : Matching)
    {system : HostRowWithPackages} (readable : ReadablePackages system) :
    matchHost index matching system =
      .ok ((hostPackages system).toList.foldl (countHost index) matching) := by
  unfold ReadablePackages hostPackages at readable
  unfold matchHost hostPackages
  cases version : rhelMajorMinor system.toHostRow with
  | none => rfl
  | some version' =>
    by_cases empty : (system.packages.getD []).isEmpty
    · simp [empty]
    · have formed : WellFormedPackages system := readable (by simp [version,empty])
      simp only [empty,matchPackages_ok index version'.1 formed,Except.map,Option.bind_some,
        Bool.false_eq_true,if_false,Option.toList_some,List.foldl_cons,List.foldl_nil,countHost,
        group,List.foldl_map]
      rfl

private theorem count_hosts (index : Dict (Int × String) (Finset Nat))
    (hosts : List (SystemInfo × Finset String)) (start : Matching) :
    hosts.foldl (countHost index) start =
      ⟨group increment (InvertedIndex.hits (hosts.map (matchedBy index))) start.affectedCounts,
        start.osMajorVersions ∪ (hosts.map (·.1.osMajor)).toFinset⟩ := by
  induction hosts generalizing start with
  | nil => simp [InvertedIndex.hits]
  | cons packages rest ih =>
    rw [List.foldl_cons,ih]
    simp only [countHost,List.map_cons,InvertedIndex.hits_cons,group_append,List.toFinset_cons,
      Finset.insert_union,Finset.union_insert]

theorem streamAndMatchHosts_ok (index : Dict (Int × String) (Finset Nat))
    {systems : List HostRowWithPackages} (readable : ∀ system ∈ systems, ReadablePackages system) :
    streamAndMatchHosts index systems = .ok
      ⟨group increment (InvertedIndex.hits ((systems.filterMap hostPackages).map (matchedBy index))) .empty,
        ((systems.filterMap hostPackages).map (·.1.osMajor)).toFinset⟩ := by
  have reads : ∀ system ∈ systems, ∀ matching, matchHost index matching system =
      .ok ((hostPackages system).toList.foldl (countHost index) matching) :=
    fun system member matching => matchHost_ok index matching (readable system member)
  refine (Except.foldlM_events systems reads ⟨.empty,∅⟩).trans (congrArg Except.ok ?_)
  rw [count_hosts,Finset.empty_union]

end Stream

section Counts

variable {systems : List HostRowWithPackages}

private theorem hostPackages_id (system : HostRowWithPackages) (packages : SystemInfo × Finset String)
    (found : hostPackages system = some packages) : packages.1.id = system.id := by
  obtain ⟨version,-,built⟩ := Option.bind_eq_some_iff.mp found
  split at built
  · contradiction
  · rw [← Option.some.inj built]

private theorem infos_nodup (distinct : (systems.map (·.id)).Nodup) :
    ((systems.filterMap hostPackages).map Prod.fst).Nodup := by
  have ids : Keyed.Distinct (fun packages : SystemInfo × Finset String => packages.1.id)
      (systems.filterMap hostPackages) := Keyed.distinct_filterMap _ hostPackages_id distinct
  apply List.Nodup.of_map SystemInfo.id
  rw [List.map_map]
  exact ids

private theorem namesOfSystem_iff (distinct : (systems.map (·.id)).Nodup) (info : SystemInfo)
    (names : Finset String) : namesOfSystem systems info = some names ↔
      (info,names) ∈ systems.filterMap hostPackages := by
  constructor
  · intro found
    obtain ⟨packages,listed,same,rfl⟩ := (mem_itemsAt _ _ _).mp (List.mem_of_getLast? found)
    rwa [← beq_iff_eq.mp same]
  · intro listed
    rw [namesOfSystem,itemsAt_of_nodup (infos_nodup distinct) listed]
    rfl

theorem affectedSystems_card (distinct : (systems.map (·.id)).Nodup) (item : UpcomingInput) :
    (affectedSystems (group (fun _ names => names) (systems.filterMap hostPackages) .empty) item).card =
      ((systems.filterMap hostPackages).filter (Hit item)).length := by
  have same : affectedSystems (group (fun _ names => names) (systems.filterMap hostPackages) .empty) item =
      (((systems.filterMap hostPackages).filter (Hit item)).map Prod.fst).toFinset := by
    ext info
    rw [mem_affectedSystems,Affects,List.mem_toFinset,List.mem_map]
    simp only [namesOfSystem_iff distinct,List.mem_filter,decide_eq_true_eq]
    constructor
    · rintro ⟨major,names,listed,shared⟩
      exact ⟨(info,names),⟨listed,major,shared⟩,rfl⟩
    · rintro ⟨⟨_,names⟩,⟨listed,major,shared⟩,rfl⟩
      exact ⟨major,names,listed,shared⟩
  have nodup := (infos_nodup distinct).sublist ((List.filter_sublist (p := Hit item)).map Prod.fst)
  rw [same,List.toFinset_card_of_nodup nodup,List.length_map]

/-- The count of an item is the number of hosts with packages that hit it. -/
theorem count_matched (items : List UpcomingInput) (hosts : List (SystemInfo × Finset String))
    (position : Nat) :
    ((group increment (InvertedIndex.hits (hosts.map (matchedBy (reverseIndex items))))
      (empty : Dict Nat Nat)).get? position).getD 0 =
        (items[position]?.map (fun item => (hosts.filter (Hit item)).length)).getD 0 := by
  rw [InvertedIndex.count_hits,List.filter_map,List.length_map]
  cases found : items[position]? with
  | none =>
    have missed : ∀ packages ∈ hosts, ¬ position ∈ matchedBy (reverseIndex items) packages := by
      intro packages _ matched
      obtain ⟨item,listed,-⟩ := (mem_matchedBy items packages position).mp matched
      exact nomatch found.symm.trans listed
    simpa using missed
  | some item =>
    have same : ∀ packages ∈ hosts,
        ((fun matched : Finset Nat => decide (position ∈ matched)) ∘ matchedBy (reverseIndex items))
          packages = decide (Hit item packages) := by
      intro packages _
      refine decide_eq_decide.mpr ((mem_matchedBy items packages position).trans ?_)
      simp [found]
    rw [List.filter_congr same]
    rfl

/-- An item is affected by a host when its count is positive, and then a host has been seen
of its major version. -/
theorem affected_of_count (item : UpcomingInput) :
    (((systems.filterMap hostPackages).filter (Hit item)).length ≠ 0 ↔
      ∃ system ∈ systems, AffectedBy item system) ∧
    ((∃ system ∈ systems, AffectedBy item system) →
      item.osMajor ∈ ((systems.filterMap hostPackages).map (·.1.osMajor)).toFinset) := by
  constructor
  · rw [Ne,List.length_eq_zero_iff,List.filter_eq_nil_iff]
    simp only [decide_eq_true_eq,not_forall,not_not,exists_prop,List.mem_filterMap]
    constructor
    · rintro ⟨packages,⟨system,listed,found⟩,hit⟩
      exact ⟨system,listed,packages,found,hit⟩
    · rintro ⟨system,listed,packages,found,hit⟩
      exact ⟨packages,⟨system,listed,found⟩,hit⟩
  · rintro ⟨system,listed,packages,found,hit⟩
    rw [List.mem_toFinset]
    exact List.mem_map.mpr ⟨packages,List.mem_filterMap.mpr ⟨system,listed,found⟩,hit.1⟩

end Counts

section Report

private theorem previousMonth_valid (today : Date) (later : 1 < today.month) :
    validDate today.year (today.month - 1) 1 = true :=
  Date.valid_first today.year (by omega) (Nat.le_trans (Nat.sub_le _ _) today.valid_bounds.2.1)

def firstOfPreviousMonth (today : Date) : Date :=
  if later : 1 < today.month then ⟨today.year,today.month - 1,1,previousMonth_valid today later⟩
  else ⟨today.year - 1,12,1,Eq.refl true⟩

theorem upcomingCutoffDate_eq (today : Date) : upcomingCutoffDate today = firstOfPreviousMonth today := by
  unfold upcomingCutoffDate firstOfPreviousMonth Date.previousDay
  by_cases later : 1 < today.month <;> simp [Date.firstOfMonth,later]

/-- The item was deployed in the reporting window; one not yet deployed counts as of today. -/
def Reported (today : Date) (item : UpcomingInput) : Prop :=
  firstOfPreviousMonth today ≤ item.details.deployedDate.getD today ∧
    item.details.deployedDate.getD today ≤ today

instance (today : Date) (item : UpcomingInput) : Decidable (Reported today item) :=
  inferInstanceAs (Decidable (_ ∧ _))

private def counted (matching : Matching) (today : Date) (entry : UpcomingInput × Nat) : Prop :=
  (matching.affectedCounts.get? entry.2).getD 0 ≠ 0 ∧ entry.1.osMajor ∈ matching.osMajorVersions ∧
    Reported today entry.1

private instance (matching : Matching) (today : Date) (entry : UpcomingInput × Nat) :
    Decidable (counted matching today entry) :=
  inferInstanceAs (Decidable (_ ∧ _))

private theorem countItem_eq (matching : Matching) (today : Date) (counts : Dict UpcomingType Nat)
    (entry : UpcomingInput × Nat) : countItem matching today counts entry =
      if counted matching today entry then counts.update (fun old => increment old ()) entry.1.type
      else counts := by
  simp only [countItem,counted,Reported,upcomingCutoffDate_eq,ite_not]
  by_cases zero : (matching.affectedCounts.get? entry.2).getD 0 = 0
  · simp [zero]
  · by_cases seen : entry.1.osMajor ∈ matching.osMajorVersions <;> simp [zero,seen]

private theorem count_items (matching : Matching) (today : Date) (items : List UpcomingInput)
    (type : UpcomingType) (wanted : UpcomingInput → Prop) [DecidablePred wanted]
    (agrees : ∀ entry ∈ items.zipIdx, counted matching today entry ↔ wanted entry.1) :
    ((items.zipIdx.foldl (countItem matching today) .empty).get? type).getD 0 =
      (items.filter (fun item => item.type = type ∧ wanted item)).length := by
  have grouped : items.zipIdx.foldl (countItem matching today) .empty =
      group increment ((items.zipIdx.filter (fun entry => wanted entry.1)).map
        (fun entry => (entry.1.type,()))) .empty := by
    rw [group,List.foldl_map,List.foldl_filter]
    refine List.foldl_ext _ _ _ (fun counts entry member => ?_)
    rw [countItem_eq]
    simp [agrees entry member]
  have events : (itemsAt ((items.zipIdx.filter (fun entry => wanted entry.1)).map
      (fun entry => (entry.1.type,()))) type).length =
        (items.filter (fun item => item.type = type ∧ wanted item)).length := by
    have listed : items.filter (fun item => item.type = type ∧ wanted item) =
        ((items.zipIdx.map Prod.fst).filter (fun item => item.type = type ∧ wanted item)) := by
      rw [List.zipIdx_map_fst]
    rw [listed,List.filter_map,List.length_map,itemsAt,List.length_map,List.filter_map,List.length_map,
      List.filter_filter]
    refine congrArg List.length (List.filter_congr (fun entry _ => ?_))
    simp [Function.comp,beq_eq_decide]
  rw [grouped,get?_group_increment,← events]
  cases itemsAt ((items.zipIdx.filter (fun entry => wanted entry.1)).map
    (fun entry => (entry.1.type,()))) type <;> simp

/-- The report counts by type the affected items of the window. -/
theorem getRelevantUpcoming_ok (items : List UpcomingInput) {systems : List HostRowWithPackages}
    (readable : ∀ system ∈ systems, ReadablePackages system) (today : Date) :
    ∃ counts, getRelevantUpcoming items systems today = .ok counts ∧
      ∀ type, (counts.get? type).getD 0 = (items.filter (fun item =>
        item.type = type ∧ (∃ system ∈ systems, AffectedBy item system) ∧ Reported today item)).length := by
  refine ⟨_,by rw [getRelevantUpcoming,streamAndMatchHosts_ok (reverseIndex items) readable]; rfl,fun type => ?_⟩
  refine count_items _ today items type _ (fun entry member => ?_)
  obtain ⟨positive,major⟩ := @affected_of_count systems entry.1
  have found := List.mem_zipIdx_iff_getElem?.mp member
  simp only [counted,count_matched,found,Option.map_some,Option.getD_some,positive]
  exact ⟨fun ⟨hit,_,window⟩ => ⟨hit,window⟩,fun ⟨hit,window⟩ => ⟨hit,major hit,window⟩⟩

/-- The count of every item is the one that the endpoint for all items shows, and the
report counts by type the affected items of the window. -/
theorem fused_pass_agrees (items : List UpcomingInput) {systems : List HostRowWithPackages}
    (distinct : (systems.map (·.id)).Nodup) (formed : ∀ system ∈ systems, WellFormedPackages system)
    (today : Date) :
    ∃ matching packages counts,
      streamAndMatchHosts (reverseIndex items) systems = .ok matching ∧
      packagesBySystem systems = .ok packages ∧
      getRelevantUpcoming items systems today = .ok counts ∧
      (getUpcomingDataWithHosts packages items true).map UpcomingOutput.record =
        items.map UpcomingInput.record ∧
      (∀ position, (matching.affectedCounts.get? position).getD 0 =
        ((getUpcomingDataWithHosts packages items true)[position]?.map
          (·.details.potentiallyAffectedSystemsCount)).getD 0) ∧
      ∀ type, (counts.get? type).getD 0 = (items.filter (fun item =>
        item.type = type ∧ (∃ system ∈ systems, AffectedBy item system) ∧ Reported today item)).length := by
  have readable : ∀ system ∈ systems, ReadablePackages system := fun system member _ => formed system member
  have streamed := streamAndMatchHosts_ok (reverseIndex items) readable
  have rows : ∀ packages, getUpcomingDataWithHosts packages items true =
      items.map (fun item => outputOf item (affectedSystems packages item)) :=
    fun packages => congrFun List.filterMap_eq_map' items
  obtain ⟨counts,answered,reported⟩ := getRelevantUpcoming_ok items readable today
  refine ⟨_,_,counts,streamed,packagesBySystem_ok systems formed,answered,?_,fun position => ?_,reported⟩
  · rw [rows,List.map_map]
    rfl
  · rw [count_matched,rows,List.getElem?_map,Option.map_map]
    cases items[position]? with
    | none => rfl
    | some item => exact (affectedSystems_card distinct item).symm

end Report

private def phpItem : UpcomingInput where
  name := "PHP 8.3"
  type := .deprecation
  packages := {"php","php-cli"}
  release := "9.6"
  osMajor := 9
  date := .mk 2025 11 1
  details := ⟨none,1,"PHP 8.3 is deprecated","",.mk 2025 9 1,.mk 2025 9 2,some (.mk 2025 10 7)⟩

private def phpHosts : List HostRowWithPackages := [
  ⟨⟨⟨1⟩,"host",some "RHEL",some 9,some 4,none,none⟩,none,
    some ["php-0:8.3-1.el9.x86_64","php-cli-0:8.3-1.el9.x86_64"]⟩,
  ⟨⟨⟨2⟩,"host",some "RHEL",some 8,some 9,none,none⟩,none,some ["php-0:8.3-1.el8.x86_64"]⟩]

theorem fused_pass_agrees_php :
    ∃ matching packages counts,
      streamAndMatchHosts (reverseIndex [phpItem]) phpHosts = .ok matching ∧
      packagesBySystem phpHosts = .ok packages ∧
      getRelevantUpcoming [phpItem] phpHosts (.mk 2025 11 20) = .ok counts ∧
      (getUpcomingDataWithHosts packages [phpItem] true).map UpcomingOutput.record =
        [phpItem].map UpcomingInput.record ∧
      (∀ position, (matching.affectedCounts.get? position).getD 0 =
        ((getUpcomingDataWithHosts packages [phpItem] true)[position]?.map
          (·.details.potentiallyAffectedSystemsCount)).getD 0) ∧
      ∀ type, (counts.get? type).getD 0 = ([phpItem].filter (fun item => item.type = type ∧
        (∃ system ∈ phpHosts, AffectedBy item system) ∧ Reported (.mk 2025 11 20) item)).length := by
  refine fused_pass_agrees [phpItem] (by decide) (fun system present package listed => ?_) _
  simp only [phpHosts,List.mem_cons,List.not_mem_nil,or_false] at present
  rcases present with rfl | rfl
  · simp only [Option.getD_some,List.mem_cons,List.not_mem_nil,or_false] at listed
    rcases listed with rfl | rfl <;> exact ⟨_,rfl⟩
  · rw [List.mem_singleton.mp listed]
    exact ⟨_,rfl⟩

end Notificator

end Roadmap
