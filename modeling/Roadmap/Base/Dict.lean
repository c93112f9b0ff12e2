import Mathlib

/-! Insertion-ordered dictionaries whose keys are compared by `==`, which may
identify keys that differ: an entry keeps the key it was created with and later
assignments replace only its value. -/
namespace Roadmap

structure Dict (κ ν : Type) [BEq κ] where
  items : List (κ × ν)
  distinct : items.Pairwise (fun first second => (first.1 == second.1) = false)

namespace Dict

section Basic

variable {κ ν σ : Type} [BEq κ]

def empty : Dict κ ν := ⟨[],.nil⟩

instance : Inhabited (Dict κ ν) := ⟨empty⟩

def find? (dict : Dict κ ν) (key : κ) : Option (κ × ν) :=
  dict.items.find? (fun entry => entry.1 == key)

def get? (dict : Dict κ ν) (key : κ) : Option ν := (dict.find? key).map Prod.snd

def keys (dict : Dict κ ν) : List κ := dict.items.map Prod.fst

def values (dict : Dict κ ν) : List ν := dict.items.map Prod.snd

def updateItems (change : Option ν → ν) (key : κ) : List (κ × ν) → List (κ × ν)
  | [] => [(key,change none)]
  | entry :: rest =>
    if entry.1 == key then (entry.1,change (some entry.2)) :: rest
    else entry :: updateItems change key rest

@[simp] theorem get?_empty (key : κ) : (empty : Dict κ ν).get? key = none := rfl

theorem find?_key (dict : Dict κ ν) (key : κ) (entry : κ × ν)
    (found : dict.find? key = some entry) : entry.1 == key := by
  simpa using List.find?_some found

private theorem mem_updateItems (change : Option ν → ν) (key : κ) (items : List (κ × ν))
    (entry : κ × ν) (member : entry ∈ updateItems change key items) :
    (∃ old ∈ items, old.1 = entry.1) ∨ entry.1 = key := by
  induction items with
  | nil =>
    simp only [updateItems,List.mem_singleton] at member
    exact Or.inr (congrArg Prod.fst member)
  | cons head rest ih =>
    simp only [updateItems] at member
    split at member
    · rcases List.mem_cons.mp member with rfl | inside
      · exact Or.inl ⟨head,by simp,rfl⟩
      · exact Or.inl ⟨entry,by simp [inside],rfl⟩
    · rcases List.mem_cons.mp member with rfl | inside
      · exact Or.inl ⟨entry,by simp,rfl⟩
      · rcases ih inside with ⟨old,present,same⟩ | same
        · exact Or.inl ⟨old,by simp [present],same⟩
        · exact Or.inr same

private theorem distinct_updateItems (change : Option ν → ν) (key : κ) (items : List (κ × ν))
    (distinct : items.Pairwise (fun first second => (first.1 == second.1) = false)) :
    (updateItems change key items).Pairwise (fun first second => (first.1 == second.1) = false) := by
  induction items with
  | nil => simp [updateItems]
  | cons head rest ih =>
    obtain ⟨apart,tail⟩ := List.pairwise_cons.mp distinct
    simp only [updateItems]
    split
    · exact List.pairwise_cons.mpr ⟨apart,tail⟩
    next different =>
      refine List.pairwise_cons.mpr ⟨?_,ih tail⟩
      intro entry member
      rcases mem_updateItems change key rest entry member with ⟨old,present,same⟩ | same
      · rw [← same]; exact apart old present
      · rw [same]; simpa using different

/-- `dict[key] = change(dict.get(key))`. -/
def update (change : Option ν → ν) (key : κ) (dict : Dict κ ν) : Dict κ ν :=
  ⟨updateItems change key dict.items,distinct_updateItems change key dict.items dict.distinct⟩

def set (key : κ) (value : ν) (dict : Dict κ ν) : Dict κ ν := dict.update (fun _ => value) key

theorem mem_of_get? (dict : Dict κ ν) (key : κ) (value : ν) (found : dict.get? key = some value) :
    ∃ entry ∈ dict.items, (entry.1 == key) = true ∧ entry.2 = value := by
  obtain ⟨entry,located,rfl⟩ := Option.map_eq_some_iff.mp found
  exact ⟨entry,List.mem_of_find?_eq_some located,find?_key dict key entry located,rfl⟩

/-! Accumulating loops: `for key, item in events: dict[key] = step(dict.get(key), item)`. -/

def group (step : Option ν → σ → ν) (events : List (κ × σ)) (dict : Dict κ ν) : Dict κ ν :=
  events.foldl (fun dict event => dict.update (fun old => step old event.2) event.1) dict

@[simp] theorem group_nil (step : Option ν → σ → ν) (dict : Dict κ ν) : group step [] dict = dict := rfl

theorem group_cons (step : Option ν → σ → ν) (event : κ × σ) (events : List (κ × σ))
    (dict : Dict κ ν) : group step (event :: events) dict =
      group step events (dict.update (fun old => step old event.2) event.1) := rfl

theorem group_append (step : Option ν → σ → ν) (first second : List (κ × σ)) (dict : Dict κ ν) :
    group step (first ++ second) dict = group step second (group step first dict) :=
  List.foldl_append

/-- `dict[key].add(item)` of a dictionary of sets. -/
def addTo [DecidableEq σ] (old : Option (Finset σ)) (item : σ) : Finset σ := insert item (old.getD ∅)

/-- `dict[key].update(items)` of a dictionary of sets. -/
def unite [DecidableEq σ] (old : Option (Finset σ)) (items : Finset σ) : Finset σ := old.getD ∅ ∪ items

/-- `dict[key] += 1` of a dictionary of counters. -/
def increment (old : Option Nat) (_ : Unit) : Nat := old.getD 0 + 1

/-- `dict[key].append(item)` of a dictionary of lists. -/
def appendTo (old : Option (List σ)) (item : σ) : List σ := old.getD [] ++ [item]

/-- `dict[key] = item` -/
def assign (_ : Option ν) (item : ν) : ν := item

def itemsAt (events : List (κ × σ)) (key : κ) : List σ :=
  (events.filter (fun event => event.1 == key)).map Prod.snd

@[simp] theorem mem_itemsAt (events : List (κ × σ)) (key : κ) (item : σ) :
    item ∈ itemsAt events key ↔ ∃ event ∈ events, (event.1 == key) = true ∧ event.2 = item := by
  simp [itemsAt,and_assoc]

theorem itemsAt_append (first second : List (κ × σ)) (key : κ) :
    itemsAt (first ++ second) key = itemsAt first key ++ itemsAt second key := by
  simp [itemsAt]

end Basic

variable {κ ν σ : Type} [BEq κ] [EquivBEq κ]

private theorem find_updateItems (change : Option ν → ν) (key other : κ) (items : List (κ × ν)) :
    (updateItems change key items).find? (fun entry => entry.1 == other) =
      if key == other then
        match items.find? (fun entry => entry.1 == key) with
        | some entry => some (entry.1,change (some entry.2))
        | none => some (key,change none)
      else items.find? (fun entry => entry.1 == other) := by
  induction items with
  | nil => simp only [updateItems,List.find?_cons,List.find?_nil]; cases key == other <;> rfl
  | cons head rest ih =>
    simp only [updateItems]
    by_cases found : head.1 == key
    · have same : (head.1 == other) = (key == other) := BEq.congr_left found
      simp only [found,if_true,List.find?_cons,same]
      cases key == other <;> rfl
    · simp only [found,List.find?_cons,Bool.false_eq_true,if_false,ih]
      by_cases target : key == other
      · have apart : (head.1 == other) = false := by
          rw [← BEq.congr_right target]; simpa using found
        simp [target,apart]
      · simp [target]

theorem find?_update (change : Option ν → ν) (key other : κ) (dict : Dict κ ν) :
    (dict.update change key).find? other =
      if key == other then
        some (((dict.find? key).map Prod.fst).getD key,change (dict.get? key))
      else dict.find? other := by
  rw [find?,update,find_updateItems]
  simp only [get?,find?]
  cases dict.items.find? (fun entry => entry.1 == key) <;> rfl

@[simp] theorem get?_update (change : Option ν → ν) (key other : κ) (dict : Dict κ ν) :
    (dict.update change key).get? other =
      if key == other then some (change (dict.get? key)) else dict.get? other := by
  rw [get?,find?_update]
  split <;> rfl

@[simp] theorem get?_set (key other : κ) (value : ν) (dict : Dict κ ν) :
    (dict.set key value).get? other = if key == other then some value else dict.get? other :=
  get?_update (fun _ => value) key other dict

theorem find?_congr (dict : Dict κ ν) {key other : κ} (same : key == other) :
    dict.find? key = dict.find? other := by
  have equal : (fun entry : κ × ν => entry.1 == key) = fun entry => entry.1 == other :=
    funext (fun _ => BEq.congr_right same)
  rw [find?,find?,equal]

theorem find?_eq_some (dict : Dict κ ν) (entry : κ × ν) :
    dict.find? entry.1 = some entry ↔ entry ∈ dict.items := by
  constructor
  · exact fun found => List.mem_of_find?_eq_some found
  · intro member
    obtain ⟨items,distinct⟩ := dict
    simp only [find?] at *
    induction items with
    | nil => simp at member
    | cons head rest ih =>
      obtain ⟨apart,tail⟩ := List.pairwise_cons.mp distinct
      rcases List.mem_cons.mp member with rfl | inside
      · simp
      · rw [List.find?_cons,apart entry inside]
        exact ih tail inside

theorem mem_items_get? (dict : Dict κ ν) (entry : κ × ν) (member : entry ∈ dict.items) :
    dict.get? entry.1 = some entry.2 := by
  rw [get?,(find?_eq_some dict entry).mpr member]
  rfl

theorem get?_group (step : Option ν → σ → ν) (events : List (κ × σ)) (dict : Dict κ ν) (key : κ) :
    (group step events dict).get? key =
      ((events.filter (fun event => event.1 == key)).map Prod.snd).foldl
        (fun old item => some (step old item)) (dict.get? key) := by
  induction events generalizing dict with
  | nil => rfl
  | cons event events ih =>
    rw [group_cons,ih]
    by_cases same : event.1 == key
    · have equal : dict.get? event.1 = dict.get? key := by rw [get?,get?,find?_congr dict same]
      simp [same,equal]
    · simp [same]

private theorem fold_addTo [DecidableEq σ] (items : List σ) (old : Option (Finset σ)) :
    items.foldl (fun old item => some (addTo old item)) old =
      if items.isEmpty then old else some (old.getD ∅ ∪ items.toFinset) := by
  induction items generalizing old with
  | nil => rfl
  | cons item rest ih =>
    rw [List.foldl_cons,ih]
    cases rest with
    | nil => simp [addTo]
    | cons next rest =>
      simp only [addTo,List.isEmpty_cons,Bool.false_eq_true,if_false,Option.getD_some,
        List.toFinset_cons,Finset.insert_union,Finset.union_insert]
      rw [Finset.insert_comm]

private theorem fold_increment (items : List Unit) (old : Option Nat) :
    items.foldl (fun old item => some (increment old item)) old =
      if items.isEmpty then old else some (old.getD 0 + items.length) := by
  induction items generalizing old with
  | nil => rfl
  | cons item rest ih =>
    rw [List.foldl_cons,ih]
    cases rest with
    | nil => simp [increment]
    | cons next rest => simp [increment]; omega

private theorem fold_appendTo (items : List σ) (old : Option (List σ)) :
    items.foldl (fun old item => some (appendTo old item)) old =
      if items.isEmpty then old else some (old.getD [] ++ items) := by
  induction items generalizing old with
  | nil => rfl
  | cons item rest ih =>
    rw [List.foldl_cons,ih]
    cases rest <;> simp [appendTo]

theorem get?_group_addTo [DecidableEq σ] (events : List (κ × σ)) (key : κ) :
    (group addTo events (empty : Dict κ (Finset σ))).get? key =
      if (itemsAt events key).isEmpty then none else some (itemsAt events key).toFinset := by
  rw [get?_group]
  exact (fold_addTo (itemsAt events key) none).trans (by simp)

theorem get?_group_increment (events : List (κ × Unit)) (key : κ) :
    (group increment events (empty : Dict κ Nat)).get? key =
      if (itemsAt events key).isEmpty then none else some (itemsAt events key).length := by
  rw [get?_group]
  exact (fold_increment (itemsAt events key) none).trans (by simp)

theorem get?_group_appendTo (events : List (κ × σ)) (key : κ) :
    (group appendTo events (empty : Dict κ (List σ))).get? key =
      if (itemsAt events key).isEmpty then none else some (itemsAt events key) := by
  rw [get?_group]
  exact (fold_appendTo (itemsAt events key) none).trans (by simp)

private theorem fold_assign (items : List σ) (old : Option σ) :
    items.foldl (fun old item => some (assign old item)) old = items.getLast?.or old := by
  induction items generalizing old with
  | nil => rfl
  | cons item rest ih =>
    rw [List.foldl_cons,ih,List.getLast?_cons]
    cases rest.getLast? <;> rfl

theorem get?_group_assign (events : List (κ × σ)) (key : κ) :
    (group assign events (empty : Dict κ σ)).get? key = (itemsAt events key).getLast? := by
  rw [get?_group]
  exact (fold_assign (itemsAt events key) none).trans Option.or_none

/-! The order of the keys. -/

omit [EquivBEq κ] in
private theorem updateItems_keys (change : Option ν → ν) (key : κ) (items : List (κ × ν)) :
    (updateItems change key items).map Prod.fst =
      if (items.map Prod.fst).any (· == key) then items.map Prod.fst else items.map Prod.fst ++ [key] := by
  induction items with
  | nil => rfl
  | cons entry rest ih =>
    simp only [updateItems,List.map_cons,List.any_cons]
    cases same : entry.1 == key with
    | true => rfl
    | false =>
      simp only [Bool.false_eq_true,if_false,List.map_cons,ih,Bool.false_or]
      split <;> rfl

/-- New keys stand behind the old ones, in the order in which the events name them first. -/
theorem keys_group (step : Option ν → σ → ν) (events : List (κ × σ)) (dict : Dict κ ν) :
    (group step events dict).keys =
      dict.keys ++ ((events.map Prod.fst).filter (fun key => !dict.keys.any (· == key))).eraseDups := by
  induction events generalizing dict with
  | nil => simp
  | cons event rest ih =>
    have updated := updateItems_keys (fun old => step old event.2) event.1 dict.items
    rw [group_cons,ih,List.map_cons,List.filter_cons]
    cases known : dict.keys.any (· == event.1) with
    | true =>
      have same : (dict.update (fun old => step old event.2) event.1).keys = dict.keys :=
        updated.trans (if_pos known)
      rw [same]
      rfl
    | false =>
      have longer : (dict.update (fun old => step old event.2) event.1).keys = dict.keys ++ [event.1] :=
        updated.trans (if_neg (by rw [← keys,known]; exact Bool.false_ne_true))
      rw [longer,List.append_assoc]
      apply congrArg (dict.keys ++ ·)
      simp only [Bool.not_false,if_true,List.eraseDups_cons,List.filter_filter,List.singleton_append]
      refine congrArg (fun keys => event.1 :: List.eraseDups keys) (List.filter_congr (fun key _ => ?_))
      rw [List.any_append,Bool.not_or,Bool.and_comm,BEq.comm (a := key)]
      simp

omit [EquivBEq κ] in
/-- Of equal keys the first is kept. -/
theorem eraseDups_filter (keep : κ → Bool) (respects : ∀ first second, (first == second) = true →
    keep first = keep second) : ∀ keys : List κ, (keys.filter keep).eraseDups = keys.eraseDups.filter keep
  | [] => rfl
  | key :: rest => by
    have later := eraseDups_filter keep respects (rest.filter (fun other => !other == key))
    rw [List.eraseDups_cons,List.filter_cons,List.filter_cons,← later]
    cases kept : keep key with
    | true =>
      simp only [if_true,List.eraseDups_cons,List.filter_filter,Bool.and_comm]
    | false =>
      simp only [Bool.false_eq_true,if_false,List.filter_filter]
      refine congrArg List.eraseDups (List.filter_congr (fun other _ => ?_))
      cases same : other == key with
      | true => rw [respects other key same,kept]; rfl
      | false => simp
  termination_by keys => keys.length
  decreasing_by exact Nat.lt_succ_of_le (List.length_filter_le _ _)

omit [EquivBEq κ] in
theorem mem_of_mem_eraseDups {key : κ} : ∀ {keys : List κ}, key ∈ keys.eraseDups → key ∈ keys
  | [],member => member
  | head :: rest,member => by
    rw [List.eraseDups_cons] at member
    rcases List.mem_cons.mp member with rfl | inside
    · exact List.mem_cons_self
    · exact List.mem_cons_of_mem _ (List.mem_filter.mp (mem_of_mem_eraseDups inside)).1
  termination_by keys => keys.length
  decreasing_by exact Nat.lt_succ_of_le (List.length_filter_le _ _)

theorem exists_eraseDups {key : κ} : ∀ {keys : List κ}, key ∈ keys →
    ∃ kept ∈ keys.eraseDups, (kept == key) = true
  | head :: rest,member => by
    rw [List.eraseDups_cons]
    cases same : key == head with
    | true => exact ⟨head,List.mem_cons_self,BEq.symm same⟩
    | false =>
      have inside : key ∈ rest.filter (fun other => !other == head) := by
        rcases List.mem_cons.mp member with rfl | later
        · simp at same
        · exact List.mem_filter.mpr ⟨later,by simp [same]⟩
      obtain ⟨kept,listed,equal⟩ := exists_eraseDups inside
      exact ⟨kept,List.mem_cons_of_mem _ listed,equal⟩
  termination_by keys => keys.length
  decreasing_by exact Nat.lt_succ_of_le (List.length_filter_le _ _)

theorem exists_keys_group (step : Option ν → σ → ν) (events : List (κ × σ)) (key : κ) :
    (∃ kept ∈ (group step events empty).keys, (kept == key) = true) ↔
      ∃ event ∈ events, (event.1 == key) = true := by
  have keys : (group step events empty).keys = (events.map Prod.fst).eraseDups := by
    rw [keys_group]
    simp [Dict.keys,empty]
  rw [keys]
  constructor
  · rintro ⟨kept,listed,same⟩
    obtain ⟨event,member,rfl⟩ := List.mem_map.mp (mem_of_mem_eraseDups listed)
    exact ⟨event,member,same⟩
  · rintro ⟨event,member,same⟩
    obtain ⟨kept,listed,equal⟩ := exists_eraseDups (List.mem_map_of_mem (f := Prod.fst) member)
    exact ⟨kept,listed,BEq.trans equal same⟩

/-! Dictionaries of sets, where a missing key holds the empty set. -/

section Sets

variable {σ : Type} [DecidableEq σ]

def heldAt (dict : Dict κ (Finset σ)) (key : κ) : Finset σ := (dict.get? key).getD ∅

/-- No key is kept for an empty set, so the sets determine the dictionary. -/
def NoEmpty (dict : Dict κ (Finset σ)) : Prop := ∀ key, dict.get? key ≠ some ∅

omit [EquivBEq κ] [DecidableEq σ] in
theorem noEmpty_empty : NoEmpty (empty : Dict κ (Finset σ)) := fun _ => nofun

omit [DecidableEq σ] in
theorem heldAt_congr (dict : Dict κ (Finset σ)) {key other : κ} (same : key == other) :
    dict.heldAt key = dict.heldAt other := by
  rw [heldAt,heldAt,get?,get?,find?_congr dict same]

theorem mem_heldAt_unite (dict : Dict κ (Finset σ)) (key other : κ) (items : Finset σ) (item : σ) :
    item ∈ (dict.update (fun old => unite old items) key).heldAt other ↔
      item ∈ dict.heldAt other ∨ item ∈ items ∧ (key == other) = true := by
  rw [heldAt,get?_update]
  by_cases same : key == other
  · rw [if_pos same,← heldAt_congr dict same]
    simp [same,heldAt,unite]
  · rw [if_neg same]
    simp [same,heldAt]

theorem noEmpty_unite {dict : Dict κ (Finset σ)} (full : dict.NoEmpty) (key : κ) {items : Finset σ}
    (nonempty : items.Nonempty) : (dict.update (fun old => unite old items) key).NoEmpty := by
  intro other found
  rw [get?_update] at found
  split at found
  · have absent : items ⊆ ∅ := Option.some.inj found ▸ Finset.subset_union_right
    exact nonempty.ne_empty (Finset.subset_empty.mp absent)
  · exact full other found

theorem addTo_unite (old : Option (Finset σ)) (item : σ) : addTo old item = unite old {item} := by
  rw [addTo,unite,Finset.insert_eq,Finset.union_comm]

theorem mem_heldAt_group (events : List (κ × Finset σ)) (dict : Dict κ (Finset σ)) (key : κ) (item : σ) :
    item ∈ (group unite events dict).heldAt key ↔
      item ∈ dict.heldAt key ∨ ∃ event ∈ events, (event.1 == key) = true ∧ item ∈ event.2 := by
  induction events generalizing dict with
  | nil => simp
  | cons event rest ih =>
    rw [group_cons,ih,mem_heldAt_unite,List.exists_mem_cons_iff,or_assoc,and_comm]

theorem noEmpty_group {events : List (κ × Finset σ)} (nonempty : ∀ event ∈ events, event.2.Nonempty)
    {dict : Dict κ (Finset σ)} (full : dict.NoEmpty) : (group unite events dict).NoEmpty := by
  induction events generalizing dict with
  | nil => exact full
  | cons event rest ih =>
    exact ih (fun other member => nonempty other (by simp [member]))
      (noEmpty_unite full event.1 (nonempty event (by simp)))

omit [DecidableEq σ] in
theorem items_heldAt (dict : Dict κ (Finset σ)) :
    dict.items = dict.keys.map (fun key => (key,dict.heldAt key)) := by
  rw [keys,List.map_map]
  refine (List.map_id _).symm.trans (List.map_congr_left (fun entry member => ?_))
  simp [heldAt,mem_items_get? dict entry member]

omit [DecidableEq σ] in
theorem get?_ext {left right : Option (Finset σ)} (first : left ≠ some ∅) (second : right ≠ some ∅)
    (same : ∀ item, item ∈ left.getD ∅ ↔ item ∈ right.getD ∅) : left = right := by
  have equal := Finset.ext same
  cases left <;> cases right <;> simp_all

end Sets

/-! Keys compared by equality. -/

theorem itemsAt_of_nodup {κ σ : Type} [BEq κ] [LawfulBEq κ] {events : List (κ × σ)}
    (nodup : (events.map Prod.fst).Nodup) {key : κ} {item : σ} (member : (key,item) ∈ events) :
    itemsAt events key = [item] := by
  induction events with
  | nil => simp at member
  | cons event rest ih =>
    obtain ⟨apart,tail⟩ := List.nodup_cons.mp nodup
    rcases List.mem_cons.mp member with rfl | inside
    · have others : itemsAt rest key = [] := by
        refine List.eq_nil_iff_forall_not_mem.mpr (fun other present => ?_)
        obtain ⟨event,listed,same,-⟩ := (mem_itemsAt rest key other).mp present
        exact apart (List.mem_map.mpr ⟨event,listed,beq_iff_eq.mp same⟩)
      have alone : itemsAt ((key,item) :: rest) key = item :: itemsAt rest key := by simp [itemsAt]
      rw [alone,others]
    · have different : (event.1 == key) = false := by
        refine beq_eq_false_iff_ne.mpr (fun same => apart ?_)
        exact List.mem_map.mpr ⟨(key,item),inside,same.symm⟩
      have skipped : itemsAt (event :: rest) key = itemsAt rest key := by simp [itemsAt,different]
      rw [skipped]
      exact ih tail inside

/-- The last item of a key, by the event that brings it. -/
theorem getLast?_itemsAt {κ σ : Type} [BEq κ] [LawfulBEq κ] (events : List (κ × σ)) (key : κ) (item : σ) :
    (itemsAt events key).getLast? = some item ↔ ∃ before after,
      events = before ++ (key,item) :: after ∧ ∀ later ∈ after, later.1 ≠ key := by
  constructor
  · intro last
    obtain ⟨earlier,split⟩ := List.getLast?_eq_some_iff.mp last
    obtain ⟨first,final,kept,-,ending⟩ := List.map_eq_append_iff.mp split
    obtain ⟨event,rfl,rfl⟩ := List.map_eq_singleton_iff.mp ending
    obtain ⟨front,back,rfl,-,filtered⟩ := List.filter_eq_append_iff.mp kept
    obtain ⟨skipped,after,rfl,-,same,last⟩ := List.filter_eq_cons_iff.mp filtered
    refine ⟨front ++ skipped,after,?_,?_⟩
    · rw [← beq_iff_eq.mp same,List.append_assoc]
    · intro later member equal
      exact List.filter_eq_nil_iff.mp last later member (beq_iff_eq.mpr equal)
  · rintro ⟨before,after,rfl,others⟩
    have ended : itemsAt after key = [] := by
      rw [itemsAt,List.map_eq_nil_iff,List.filter_eq_nil_iff]
      exact fun later member same => others later member (beq_iff_eq.mp same)
    have split : itemsAt ((key,item) :: after) key = item :: itemsAt after key := by simp [itemsAt]
    rw [itemsAt_append,split,ended,List.getLast?_append]
    rfl

theorem keys_nodup {κ ν : Type} [BEq κ] [LawfulBEq κ] (dict : Dict κ ν) : dict.keys.Nodup := by
  refine List.pairwise_map.mpr (dict.distinct.imp ?_)
  intro first second apart same
  simp [same] at apart

private theorem sum_update {κ : Type} [BEq κ] [LawfulBEq κ] (wanted : κ → Bool) (key : κ)
    (items : List (κ × Nat)) :
    (((updateItems (fun count => increment count ()) key items).filter (fun entry => wanted entry.1)).map
      Prod.snd).sum = ((items.filter (fun entry => wanted entry.1)).map Prod.snd).sum +
        if wanted key then 1 else 0 := by
  induction items with
  | nil => cases chosen : wanted key <;> simp [updateItems,increment,chosen]
  | cons entry rest ih =>
    simp only [updateItems]
    split
    next same =>
      rw [← beq_iff_eq.mp same]
      cases chosen : wanted entry.1 <;> simp [increment,chosen]
      omega
    next => cases chosen : wanted entry.1 <;> simp [chosen,ih,Nat.add_assoc]

/-- Counters add up to the number of events counted, also over some of the keys. -/
theorem sum_group_increment {κ : Type} [BEq κ] [LawfulBEq κ] (wanted : κ → Bool)
    (events : List (κ × Unit)) (dict : Dict κ Nat) :
    (((group increment events dict).items.filter (fun entry => wanted entry.1)).map Prod.snd).sum =
      ((dict.items.filter (fun entry => wanted entry.1)).map Prod.snd).sum +
        (events.filter (fun event => wanted event.1)).length := by
  induction events generalizing dict with
  | nil => rfl
  | cons event events ih =>
    have stepped := sum_update wanted event.1 dict.items
    rw [group_cons,ih]
    simp only [update,stepped]
    cases chosen : wanted event.1 <;> simp [chosen]
    omega

theorem mem_items {κ ν : Type} [BEq κ] [LawfulBEq κ] (dict : Dict κ ν) (entry : κ × ν) :
    entry ∈ dict.items ↔ dict.get? entry.1 = some entry.2 := by
  constructor
  · exact mem_items_get? dict entry
  · intro found
    obtain ⟨other,member,same,equal⟩ := mem_of_get? dict entry.1 entry.2 found
    rwa [← Prod.ext (beq_iff_eq.mp same) equal]

theorem mem_keys {κ ν : Type} [BEq κ] [LawfulBEq κ] (dict : Dict κ ν) (key : κ) :
    key ∈ dict.keys ↔ (dict.get? key).isSome := by
  rw [keys,List.mem_map,Option.isSome_iff_exists]
  constructor
  · rintro ⟨entry,member,rfl⟩
    exact ⟨entry.2,(mem_items dict entry).mp member⟩
  · rintro ⟨value,found⟩
    exact ⟨(key,value),(mem_items dict (key,value)).mpr found,rfl⟩

/-- Where the events of a key agree, its last one is any of them. -/
theorem mem_items_assign {κ ν : Type} [BEq κ] [LawfulBEq κ] {events : List (κ × ν)}
    (agree : ∀ one ∈ events, ∀ two ∈ events, one.1 = two.1 → one.2 = two.2) (entry : κ × ν) :
    entry ∈ (group assign events empty).items ↔ entry ∈ events := by
  rw [mem_items,get?_group_assign]
  constructor
  · intro at_end
    obtain ⟨event,member,same,value⟩ := (mem_itemsAt events entry.1 entry.2).mp (List.mem_of_getLast? at_end)
    rwa [← Prod.ext (beq_iff_eq.mp same) value]
  · intro member
    have listed : entry.2 ∈ itemsAt events entry.1 := (mem_itemsAt _ _ _).mpr ⟨entry,member,by simp,rfl⟩
    cases at_end : (itemsAt events entry.1).getLast? with
    | none =>
      rw [List.getLast?_eq_none_iff.mp at_end] at listed
      contradiction
    | some value =>
      obtain ⟨event,other,same,rfl⟩ := (mem_itemsAt _ _ _).mp (List.mem_of_getLast? at_end)
      rw [agree event other entry member (beq_iff_eq.mp same)]

/-- `{key: f(key, value) for key, value in items}` of a dictionary changed in place. -/
def mapValues {κ ν : Type} [BEq κ] (f : κ → ν → ν) (dict : Dict κ ν) : Dict κ ν where
  items := dict.items.map (fun entry => (entry.1,f entry.1 entry.2))
  distinct := List.pairwise_map.mpr dict.distinct

theorem mapValues_mapValues {κ ν : Type} [BEq κ] (f g : κ → ν → ν) (dict : Dict κ ν) :
    (dict.mapValues g).mapValues f = dict.mapValues (fun key value => f key (g key value)) := by
  simp [mapValues]

theorem mapValues_eq_iff {κ ν : Type} [BEq κ] (f g : κ → ν → ν) (dict : Dict κ ν) :
    dict.mapValues f = dict.mapValues g ↔ ∀ entry ∈ dict.items, f entry.1 entry.2 = g entry.1 entry.2 := by
  simp [mapValues]

theorem get?_mapValues {κ ν : Type} [BEq κ] (g : ν → ν) (dict : Dict κ ν) (key : κ) :
    (dict.mapValues (fun _ value => g value)).get? key = (dict.get? key).map g := by
  rw [get?,find?,mapValues,List.find?_map,Option.map_map,get?,find?,Option.map_map]
  rfl

theorem get?_itemsAt {κ ν : Type} [BEq κ] [LawfulBEq κ] (dict : Dict κ ν) (key : κ) :
    dict.get? key = (itemsAt dict.items key).getLast? := by
  cases found : dict.get? key with
  | some value =>
    have member := (mem_items dict (key,value)).mpr found
    rw [itemsAt_of_nodup dict.keys_nodup member]
    rfl
  | none =>
    have nothing : itemsAt dict.items key = [] := by
      refine List.eq_nil_iff_forall_not_mem.mpr (fun value present => ?_)
      obtain ⟨entry,listed,same,-⟩ := (mem_itemsAt _ _ _).mp present
      have here := (mem_items dict entry).mp listed
      rw [beq_iff_eq.mp same,found] at here
      contradiction
    rw [nothing]
    rfl

end Dict

end Roadmap
