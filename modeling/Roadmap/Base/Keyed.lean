import Mathlib

/-! Lists of rows with a key, and the merge of two such lists: rows with the same
key are combined, the others are kept. -/
namespace Roadmap.Keyed

section Rows

variable {ρ κ : Type} [DecidableEq κ] (key : ρ → κ)

def find (rows : List ρ) (wanted : κ) : Option ρ := rows.find? (fun row => decide (key row = wanted))

def Distinct (rows : List ρ) : Prop := (rows.map key).Nodup

def absorb (combine : ρ → ρ → ρ) (right : List ρ) (row : ρ) : ρ :=
  match find key right (key row) with
  | some other => combine row other
  | none => row

def merge (combine : ρ → ρ → ρ) (left right : List ρ) : List ρ :=
  left.map (absorb key combine right) ++ right.filter (fun row => (find key left (key row)).isNone)

theorem find_key {rows : List ρ} {wanted : κ} {row : ρ} (found : find key rows wanted = some row) :
    key row = wanted := by
  simpa [find] using List.find?_some found

theorem find_mem {rows : List ρ} {wanted : κ} {row : ρ} (found : find key rows wanted = some row) :
    row ∈ rows := List.mem_of_find?_eq_some found

theorem find_eq_none (rows : List ρ) (wanted : κ) :
    find key rows wanted = none ↔ ∀ row ∈ rows, key row ≠ wanted := by
  simp [find]

theorem find_of_mem {rows : List ρ} (distinct : Distinct key rows) {row : ρ} (member : row ∈ rows) :
    find key rows (key row) = some row := by
  induction rows with
  | nil => simp at member
  | cons head rest ih =>
    obtain ⟨apart,tail⟩ := List.nodup_cons.mp distinct
    rcases List.mem_cons.mp member with rfl | inside
    · simp [find]
    · have different : key head ≠ key row := fun same =>
        apart (List.mem_map.mpr ⟨row,inside,same.symm⟩)
      rw [find,List.find?_cons_of_neg (by simpa using different)]
      exact ih tail inside

theorem find_eq_some {rows : List ρ} (distinct : Distinct key rows) (wanted : κ) (row : ρ) :
    find key rows wanted = some row ↔ row ∈ rows ∧ key row = wanted := by
  constructor
  · exact fun found => ⟨find_mem key found,find_key key found⟩
  · rintro ⟨member,rfl⟩
    exact find_of_mem key distinct member

/-- Two lists with distinct keys and the same row at every key hold the same rows. -/
theorem perm_of_find {left right : List ρ} (first : Distinct key left) (second : Distinct key right)
    (same : ∀ wanted, find key left wanted = find key right wanted) : left.Perm right := by
  refine (List.perm_ext_iff_of_nodup first.of_map second.of_map).mpr (fun row => ?_)
  constructor
  · intro member
    exact find_mem key ((same (key row)).symm.trans (find_of_mem key first member))
  · intro member
    exact find_mem key ((same (key row)).trans (find_of_mem key second member))

omit [DecidableEq κ] in
theorem distinct_perm {left right : List ρ} (distinct : Distinct key left) (same : left.Perm right) :
    Distinct key right := (same.map key).nodup_iff.mp distinct

theorem find_perm {left right : List ρ} (distinct : Distinct key left) (same : left.Perm right)
    (wanted : κ) : find key left wanted = find key right wanted := by
  refine Option.ext (fun row => ?_)
  rw [find_eq_some key distinct,find_eq_some key (distinct_perm key distinct same),same.mem_iff]

theorem find_filter (keep : κ → Bool) (rows : List ρ) (wanted : κ) :
    find key (rows.filter (fun row => keep (key row))) wanted =
      if keep wanted then find key rows wanted else none := by
  rw [find,List.find?_filter]
  split
  next kept =>
    refine List.find?_congr (fun row _ => ?_)
    by_cases same : key row = wanted
    · simp [same,kept]
    · simp [same]
  next dropped =>
    rw [List.find?_eq_none]
    intro row _
    by_cases same : key row = wanted
    · simp [same,dropped]
    · simp [same]

theorem find_map {view : ρ → ρ} (keeps : ∀ row, key (view row) = key row) (rows : List ρ) (wanted : κ) :
    find key (rows.map view) wanted = (find key rows wanted).map view := by
  rw [find,List.find?_map]
  simp only [Function.comp_def,keeps]
  rfl

theorem find_append (left right : List ρ) (wanted : κ) :
    find key (left ++ right) wanted = (find key left wanted).or (find key right wanted) := List.find?_append

/-- Items that make no row of the key may be left out. -/
theorem find_flatMap_filter {σ : Type} (make : σ → List ρ) (keep : σ → Bool) {wanted : κ} {items : List σ}
    (idle : ∀ item ∈ items, keep item = false → find key (make item) wanted = none) :
    find key (items.flatMap make) wanted = find key ((items.filter keep).flatMap make) wanted := by
  induction items with
  | nil => rfl
  | cons item rest ih =>
    have later := ih (fun other member => idle other (List.mem_cons_of_mem _ member))
    rw [List.flatMap_cons,find_append,later,List.filter_cons]
    cases kept : keep item with
    | true => rw [if_pos rfl,List.flatMap_cons,find_append]
    | false =>
      rw [if_neg Bool.false_ne_true,idle item List.mem_cons_self kept]
      exact Option.none_or

/-- The rows of distinct classes, class by class. -/
theorem perm_classes {classes : List κ} (distinct : classes.Nodup) (rows : List ρ) :
    (classes.flatMap (fun wanted => rows.filter (fun row => decide (key row = wanted)))).Perm
      (rows.filter (fun row => decide (key row ∈ classes))) := by
  induction classes with
  | nil => simp
  | cons wanted rest ih =>
    obtain ⟨absent,apart⟩ := List.nodup_cons.mp distinct
    have first : rows.filter (fun row => decide (key row = wanted)) =
        (rows.filter (fun row => decide (key row ∈ wanted :: rest))).filter
          (fun row => decide (key row = wanted)) := by
      rw [List.filter_filter]
      refine List.filter_congr (fun row _ => ?_)
      simp only [List.mem_cons,← Bool.decide_and]
      exact decide_eq_decide.mpr (by tauto)
    have others : rows.filter (fun row => decide (key row ∈ rest)) =
        (rows.filter (fun row => decide (key row ∈ wanted :: rest))).filter
          (fun row => !decide (key row = wanted)) := by
      rw [List.filter_filter]
      refine List.filter_congr (fun row _ => ?_)
      by_cases same : key row = wanted
      · simp [same,absent]
      · simp [same]
    rw [List.flatMap_cons]
    refine ((ih apart).append_left _).trans ?_
    rw [first,others]
    exact List.filter_append_perm _ _

section Source

variable {σ : Type} {source : σ → κ} {make : σ → Option ρ}
  (keyed : ∀ item row, make item = some row → key row = source item)

include keyed

omit [DecidableEq κ] in
theorem distinct_filterMap {items : List σ} (distinct : Distinct source items) :
    Distinct key (items.filterMap make) := by
  apply List.Nodup.sublist _ distinct
  clear distinct
  induction items with
  | nil => exact .slnil
  | cons item rest ih =>
    rw [List.filterMap_cons]
    cases made : make item with
    | none => exact ih.cons _
    | some row =>
      simp only [List.map_cons,keyed item row made]
      exact ih.cons_cons _

theorem find_filterMap {items : List σ} (distinct : Distinct source items) (wanted : κ) :
    find key (items.filterMap make) wanted = (find source items wanted).bind make := by
  induction items with
  | nil => rfl
  | cons item rest ih =>
    obtain ⟨apart,tail⟩ := List.nodup_cons.mp distinct
    rw [List.filterMap_cons]
    by_cases same : source item = wanted
    · have absent : find source rest wanted = none := (find_eq_none source rest wanted).mpr
        (fun other member equal => apart (List.mem_map.mpr ⟨other,member,equal.trans same.symm⟩))
      have head : find source (item :: rest) wanted = some item := List.find?_cons_of_pos (by simpa using same)
      rw [head,Option.bind_some]
      cases made : make item with
      | none => simp only [ih tail,absent,Option.bind_none]
      | some row => exact List.find?_cons_of_pos (by simpa [keyed item row made] using same)
    · have skip : find source (item :: rest) wanted = find source rest wanted :=
        List.find?_cons_of_neg (by simpa using same)
      rw [skip,← ih tail]
      cases made : make item with
      | none => rfl
      | some row => exact List.find?_cons_of_neg (by simpa [keyed item row made] using same)

end Source

/-- The merge that keeps the left of two rows is a union where equal keys mean equal rows. -/
theorem mem_merge_left {left right : List ρ}
    (agree : ∀ first ∈ left, ∀ second ∈ right, key first = key second → first = second) (row : ρ) :
    row ∈ merge key (fun kept _ => kept) left right ↔ row ∈ left ∨ row ∈ right := by
  have kept : left.map (absorb key (fun kept _ => kept) right) = left := by
    refine (List.map_congr_left (fun row _ => ?_)).trans (List.map_id left)
    unfold absorb
    split <;> rfl
  rw [merge,kept,List.mem_append,List.mem_filter]
  constructor
  · rintro (inside | ⟨inside,-⟩)
    · exact Or.inl inside
    · exact Or.inr inside
  · rintro (inside | inside)
    · exact Or.inl inside
    · cases found : find key left (key row) with
      | none => exact Or.inr ⟨inside,rfl⟩
      | some other =>
        have same := agree other (find_mem key found) row inside (find_key key found)
        exact Or.inl (same ▸ find_mem key found)

/-- What both lists' rows have and combining keeps, the merged rows have. -/
theorem forall_merge {combine : ρ → ρ → ρ} {holds : ρ → Prop} {left right : List ρ}
    (first : ∀ row ∈ left, holds row) (second : ∀ row ∈ right, holds row)
    (both : ∀ one other, holds one → holds other → holds (combine one other)) :
    ∀ row ∈ merge key combine left right, holds row := by
  intro row member
  rcases List.mem_append.mp member with inLeft | inRight
  · obtain ⟨one,listed,rfl⟩ := List.mem_map.mp inLeft
    unfold absorb
    split
    next other found => exact both one other (first one listed) (second other (find_mem key found))
    next => exact first one listed
  · exact second row (List.mem_filter.mp inRight).1

variable {key} {combine : ρ → ρ → ρ} (keeps : ∀ left right, key (combine left right) = key left)

include keeps

theorem key_absorb (right : List ρ) (row : ρ) : key (absorb key combine right row) = key row := by
  unfold absorb
  split <;> simp [keeps]

theorem find_merge (left right : List ρ) (wanted : κ) :
    find key (merge key combine left right) wanted =
      Option.merge combine (find key left wanted) (find key right wanted) := by
  have same : (fun row => decide (key row = wanted)) ∘ absorb key combine right =
      fun row => decide (key row = wanted) := by
    funext row
    simp only [Function.comp,key_absorb keeps]
  rw [find,merge,List.find?_append,List.find?_map,same]
  cases found : find key left wanted with
  | some row =>
    have equal := find_key key found
    subst equal
    rw [find] at found
    rw [found,Option.map_some,Option.some_or,absorb]
    cases find key right (key row) <;> rfl
  | none =>
    have fresh : ∀ row ∈ right, key row = wanted → (find key left (key row)).isNone := by
      rintro row - rfl
      simp [found]
    rw [find] at found
    rw [found,Option.map_none,Option.none_or,Option.merge_none_left,List.find?_filter,find]
    refine List.find?_congr (fun row member => ?_)
    by_cases equal : key row = wanted
    · simp [fresh row member equal]
    · simp [equal]

theorem distinct_merge {left right : List ρ} (first : Distinct key left) (second : Distinct key right) :
    Distinct key (merge key combine left right) := by
  have kept : (left.map (absorb key combine right)).map key = left.map key := by
    rw [List.map_map]
    exact List.map_congr_left (fun row _ => key_absorb keeps right row)
  rw [Distinct,merge,List.map_append,kept,List.nodup_append]
  refine ⟨first,second.sublist (List.Sublist.map key List.filter_sublist),?_⟩
  rintro wanted inLeft other inRight rfl
  obtain ⟨row,member,rfl⟩ := List.mem_map.mp inLeft
  obtain ⟨fresh,located,same⟩ := List.mem_map.mp inRight
  have absent : find key left (key fresh) = none := by simpa using (List.mem_filter.mp located).2
  exact (find_eq_none key left (key fresh)).mp absent row member same.symm

/-- A list with distinct keys whose row at every key is the combination of the two
lists' rows there is their merge, up to order. -/
theorem perm_merge {left right whole : List ρ} (first : Distinct key left)
    (second : Distinct key right) (all : Distinct key whole)
    (same : ∀ wanted, find key whole wanted =
      Option.merge combine (find key left wanted) (find key right wanted)) :
    whole.Perm (merge key combine left right) :=
  perm_of_find key all (distinct_merge keeps first second)
    (fun wanted => (same wanted).trans (find_merge keeps left right wanted).symm)

theorem merge_perm {left right others rest : List ρ} (first : Distinct key left)
    (second : Distinct key right) (sameLeft : left.Perm others) (sameRight : right.Perm rest) :
    (merge key combine left right).Perm (merge key combine others rest) := by
  refine perm_merge keeps (distinct_perm key first sameLeft) (distinct_perm key second sameRight)
    (distinct_merge keeps first second) (fun wanted => ?_)
  rw [find_merge keeps,find_perm key first sameLeft,find_perm key second sameRight]

end Rows

end Roadmap.Keyed
