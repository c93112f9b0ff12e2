import Roadmap.AppStreams.PerHost
import Roadmap.Base.Keyed

/-! The keys that stand for the streams in the mapping. Of keys with one identity the pass
keeps the first, and a batch whose hosts do not use the stream has no say in it. -/
namespace Roadmap
open Dict

section Kept

variable (casing : Casing) (catalogue : Catalogue)

def usedKeys (systems : List HostRowWithPackages) : List AppStreamKey :=
  systems.flatMap (usedStreams casing catalogue)

private theorem parsed_of_scan {system : HostRowWithPackages} {scan next : Scan}
    (stepped : scanSystem casing catalogue scan system = .ok next) (told : (hostInfo system).isSome) :
    WellFormedPackages system := by
  cases version : rhelMajorMinor system.toHostRow with
  | none => simp [hostInfo,version] at told
  | some found =>
    rw [scanSystem,version] at stepped
    obtain ⟨names,parsed,-⟩ := Except.bind_ok.mp stepped
    exact NEVRA.formed_of_names parsed

theorem systemsByAppStream_ok {systems : List HostRowWithPackages} {result : SystemsByStream}
    (passed : systemsByAppStream casing catalogue systems = .ok result) :
    Parsed systems ∧ result = mappingOf casing catalogue systems := by
  have parsed : Parsed systems := by
    obtain ⟨scan,scanned,-⟩ := Except.bind_ok.mp passed
    intro system member
    obtain ⟨_,_,stepped⟩ := Except.foldlM_steps scanned system member
    exact parsed_of_scan casing catalogue stepped
  exact ⟨parsed,Except.ok.inj (passed.symm.trans (systemsByAppStream_group casing catalogue parsed))⟩

/-! The keys in their order. -/

private theorem mem_usedKeys (systems : List HostRowWithPackages) (key : AppStreamKey) :
    key ∈ usedKeys casing catalogue systems ↔ ∃ event ∈ passEvents casing catalogue systems, event.1 = key := by
  rw [usedKeys,List.mem_flatMap]
  constructor
  · rintro ⟨system,present,used⟩
    have recorded : ∃ info, hostInfo system = some info := by
      rw [usedStreams] at used
      cases told : hostInfo system with
      | none => simp [told] at used
      | some info => exact ⟨info,rfl⟩
    obtain ⟨info,recorded⟩ := recorded
    obtain ⟨event,member,same,-⟩ := (mem_passEvents casing catalogue systems key info).mpr
      ⟨system,present,recorded,used⟩
    exact ⟨event,member,same⟩
  · rintro ⟨event,member,same⟩
    obtain ⟨info,inside⟩ := passEvents_nonempty casing catalogue systems event member
    obtain ⟨system,present,-,used⟩ := (mem_passEvents casing catalogue systems key info).mp
      ⟨event,member,same,inside⟩
    exact ⟨system,present,used⟩

def keptKeys (systems : List HostRowWithPackages) : List AppStreamKey :=
  (mappingOf casing catalogue systems).keys

private theorem keptKeys_eq (systems : List HostRowWithPackages) :
    keptKeys casing catalogue systems = ((passEvents casing catalogue systems).map Prod.fst).eraseDups := by
  rw [keptKeys,mappingOf,keys_group]
  simp [keys,empty]

theorem used_of_kept {systems : List HostRowWithPackages} {key : AppStreamKey}
    (kept : key ∈ keptKeys casing catalogue systems) : key ∈ usedKeys casing catalogue systems := by
  rw [keptKeys_eq] at kept
  obtain ⟨event,member,same⟩ := List.mem_map.mp (mem_of_mem_eraseDups kept)
  exact (mem_usedKeys casing catalogue systems key).mpr ⟨event,member,same⟩

theorem kept_of_used {systems : List HostRowWithPackages} {key : AppStreamKey}
    (used : key ∈ usedKeys casing catalogue systems) :
    ∃ kept ∈ keptKeys casing catalogue systems, kept.identity = key.identity := by
  obtain ⟨event,member,same⟩ := (mem_usedKeys casing catalogue systems key).mp used
  obtain ⟨kept,listed,equal⟩ := exists_eraseDups (List.mem_map.mpr ⟨event,member,same⟩)
  rw [keptKeys_eq]
  exact ⟨kept,listed,(AppStreamKey.beq_iff kept key).mp equal⟩

/-- The hosts of two batches, in either order. -/
def EitherOrder (first second whole : List HostRowWithPackages) : Prop :=
  whole = first ++ second ∨ whole = second ++ first

theorem EitherOrder.symm {first second whole : List HostRowWithPackages}
    (order : EitherOrder first second whole) : EitherOrder second first whole := Or.symm order

private theorem passEvents_keys (systems : List HostRowWithPackages) :
    (passEvents casing catalogue systems).map Prod.fst =
      systems.flatMap (fun system => (moduleEvents casing catalogue system).map Prod.fst) ++
        (packageData systems).keys.filterMap (fun key => packageStream catalogue key.1 key.2) := by
  have packages : ∀ entry, (packageEvent catalogue entry).map Prod.fst =
      packageStream catalogue entry.1.1 entry.1.2 := by
    intro entry
    rw [packageEvent,Option.map_map]
    exact Option.map_id'
  rw [passEvents,List.map_append,List.map_flatMap,List.map_filterMap,keys,List.filterMap_map]
  simp only [packages]
  rfl

section Alone

variable {first second whole : List HostRowWithPackages} (order : EitherOrder first second whole)
  {own : AppStreamKey → Bool} (foreign : ∀ key ∈ usedKeys casing catalogue second, own key = false)

include order foreign

private theorem moduleKeys_alone :
    (whole.flatMap (fun system => (moduleEvents casing catalogue system).map Prod.fst)).filter own =
      (first.flatMap (fun system => (moduleEvents casing catalogue system).map Prod.fst)).filter own := by
  have nothing : (second.flatMap (fun system =>
      (moduleEvents casing catalogue system).map Prod.fst)).filter own = [] := by
    refine List.filter_eq_nil_iff.mpr (fun key member kept => ?_)
    obtain ⟨system,present,listed⟩ := List.mem_flatMap.mp member
    obtain ⟨event,inside,same⟩ := List.mem_map.mp listed
    have used := (mem_usedKeys casing catalogue second key).mpr
      ⟨event,List.mem_append_left _ (List.mem_flatMap.mpr ⟨system,present,inside⟩),same⟩
    exact Bool.false_ne_true ((foreign key used).symm.trans kept)
  rcases order with rfl | rfl
  · rw [List.flatMap_append,List.filter_append,nothing,List.append_nil]
  · rw [List.flatMap_append,List.filter_append,nothing,List.nil_append]

private theorem packageKeys_alone :
    ((packageData whole).keys.filterMap (fun key => packageStream catalogue key.1 key.2)).filter own =
      ((packageData first).keys.filterMap (fun key => packageStream catalogue key.1 key.2)).filter own := by
  let lines := fun systems : List HostRowWithPackages => (systems.flatMap packageLines).map Prod.fst
  -- Packages of the other batch lead to no stream of this one.
  let ownStream := fun key : String × Int => (packageStream catalogue key.1 key.2).filter own
  have other : ∀ key ∈ lines second, ownStream key = none := by
    intro key member
    obtain ⟨line,listed,rfl⟩ := List.mem_map.mp member
    obtain ⟨system,present,recorded,package,major⟩ := (mem_packageLines second line).mp listed
    refine Option.filter_eq_none_iff.mpr (fun stream found kept => ?_)
    have used : stream ∈ usedKeys casing catalogue second := by
      refine List.mem_flatMap.mpr ⟨system,present,?_⟩
      rw [usedStreams,recorded]
      exact List.mem_append_right _ (List.mem_filterMap.mpr ⟨_,package,major ▸ found⟩)
    exact Bool.false_ne_true ((foreign stream used).symm.trans kept)
  have alone : ∀ systems, (packageData systems).keys = (lines systems).eraseDups := by
    intro systems
    rw [packageData,keys_group]
    simp [keys,empty,lines]
  have joined : ∀ left right, (packageData (left ++ right)).keys = (packageData left).keys ++
      ((lines right).filter (fun key => !(packageData left).keys.any (· == key))).eraseDups := by
    intro left right
    rw [packageData,List.flatMap_append,group_append,keys_group]
    rfl
  have inside : ∀ key ∈ (packageData second).keys, ownStream key = none :=
    fun key member => other key (mem_of_mem_eraseDups (alone second ▸ member))
  simp only [List.filter_filterMap]
  rcases order with rfl | rfl
  · rw [joined,List.filterMap_append]
    refine (congrArg (_ ++ ·) (List.filterMap_eq_nil_iff.mpr (fun key member => ?_))).trans (List.append_nil _)
    exact other key (List.mem_filter.mp (mem_of_mem_eraseDups member)).1
  · rw [joined,List.filterMap_append,List.filterMap_eq_nil_iff.mpr inside,List.nil_append,alone first,
      eraseDups_filter _ (fun left right same => by rw [beq_iff_eq.mp same]),List.filterMap_filter]
    refine List.filterMap_congr (fun key _ => ?_)
    split
    · rfl
    next known =>
      rw [Bool.not_eq_true',Bool.not_eq_false,List.any_eq_true] at known
      obtain ⟨held,member,same⟩ := known
      rw [beq_iff_eq.mp same] at member
      exact (inside key member).symm

/-- Keys of streams that the other batch does not use are kept as in the batch alone. -/
theorem keptKeys_alone (respects : ∀ left right : AppStreamKey, left.identity = right.identity →
    own left = own right) :
    (keptKeys casing catalogue whole).filter own = (keptKeys casing catalogue first).filter own := by
  have kept : ∀ systems, (keptKeys casing catalogue systems).filter own =
      (((passEvents casing catalogue systems).map Prod.fst).filter own).eraseDups := by
    intro systems
    rw [keptKeys_eq,eraseDups_filter own (fun left right same =>
      respects left right ((AppStreamKey.beq_iff left right).mp same))]
  rw [kept,kept,passEvents_keys,passEvents_keys,List.filter_append,List.filter_append,
    moduleKeys_alone casing catalogue order foreign,packageKeys_alone casing catalogue order foreign]

end Alone

/-! The key and the hosts at an identity. -/

def Unused (systems : List HostRowWithPackages) (identity : StreamIdentity) : Prop :=
  ∀ key ∈ usedKeys casing catalogue systems, key.identity ≠ identity

def keptAt (systems : List HostRowWithPackages) (identity : StreamIdentity) : Option AppStreamKey :=
  Keyed.find AppStreamKey.identity (keptKeys casing catalogue systems) identity

theorem keptAt_some {systems : List HostRowWithPackages} {identity : StreamIdentity} {key : AppStreamKey}
    (kept : keptAt casing catalogue systems identity = some key) :
    key ∈ usedKeys casing catalogue systems ∧ key.identity = identity :=
  ⟨used_of_kept casing catalogue (Keyed.find_mem _ kept),Keyed.find_key _ kept⟩

theorem keptAt_none {systems : List HostRowWithPackages} {identity : StreamIdentity} :
    keptAt casing catalogue systems identity = none ↔ Unused casing catalogue systems identity := by
  rw [keptAt,Keyed.find_eq_none]
  constructor
  · intro unkept key used same
    obtain ⟨kept,listed,equal⟩ := kept_of_used casing catalogue used
    exact unkept kept listed (equal.trans same)
  · exact fun unused key kept => unused key (used_of_kept casing catalogue kept)

theorem mem_usedKeys_either {first second whole : List HostRowWithPackages}
    (order : EitherOrder first second whole) (key : AppStreamKey) :
    key ∈ usedKeys casing catalogue whole ↔
      key ∈ usedKeys casing catalogue first ∨ key ∈ usedKeys casing catalogue second := by
  rcases order with rfl | rfl
  · rw [usedKeys,List.flatMap_append,List.mem_append]
    rfl
  · rw [usedKeys,List.flatMap_append,List.mem_append,or_comm]
    rfl

theorem keptAt_alone {first second whole : List HostRowWithPackages}
    (order : EitherOrder first second whole) {identity : StreamIdentity}
    (unused : Unused casing catalogue second identity) :
    keptAt casing catalogue whole identity = keptAt casing catalogue first identity := by
  let own := fun key : AppStreamKey => decide (key.identity = identity)
  have foreign : ∀ key ∈ usedKeys casing catalogue second, own key = false :=
    fun key used => decide_eq_false (unused key used)
  have kept := keptKeys_alone casing catalogue order foreign (fun left right same => by simp only [own,same])
  rw [keptAt,Keyed.find,← List.head?_filter,kept,List.head?_filter]
  rfl

theorem heldAt_either {first second whole : List HostRowWithPackages}
    (order : EitherOrder first second whole) (key : AppStreamKey) :
    (mappingOf casing catalogue whole).heldAt key =
      (mappingOf casing catalogue first).heldAt key ∪ (mappingOf casing catalogue second).heldAt key := by
  ext info
  rw [Finset.mem_union,mem_mappingOf,mem_mappingOf,mem_mappingOf]
  rcases order with rfl | rfl
  · simp [or_and_right,exists_or]
  · simp [or_and_right,exists_or,or_comm]

theorem heldAt_unused {systems : List HostRowWithPackages} {key : AppStreamKey}
    (unused : Unused casing catalogue systems key.identity) :
    (mappingOf casing catalogue systems).heldAt key = ∅ := by
  refine Finset.eq_empty_of_forall_notMem (fun info held => ?_)
  obtain ⟨system,present,-,stream,used,same⟩ := (mem_mappingOf casing catalogue systems key info).mp held
  exact unused stream (List.mem_flatMap.mpr ⟨system,present,used⟩) ((AppStreamKey.beq_iff _ _).mp same)

theorem heldAt_used {systems : List HostRowWithPackages} {key : AppStreamKey}
    (used : key ∈ usedKeys casing catalogue systems) :
    ((mappingOf casing catalogue systems).heldAt key).Nonempty := by
  obtain ⟨system,present,listed⟩ := List.mem_flatMap.mp used
  cases recorded : hostInfo system with
  | none => simp [usedStreams,recorded] at listed
  | some info =>
    have holds : Records casing catalogue system key info :=
      ⟨recorded,key,listed,(AppStreamKey.beq_iff key key).mpr rfl⟩
    exact ⟨info,(mem_mappingOf casing catalogue systems key info).mpr ⟨system,present,holds⟩⟩

end Kept

end Roadmap
