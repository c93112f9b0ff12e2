import Mathlib

/-! Regular expressions as a backtracking matcher tries them. A pattern is the list of ways in
which it matches at the start of a text, in the order of the attempts: what a way takes and
what it leaves. -/
namespace Roadmap.Regex

abbrev Pattern := List Char → List (List Char × List Char)

def one (accepts : Char → Bool) : Pattern
  | [] => []
  | char :: rest => if accepts char then [([char],rest)] else []

/-- `x+?`, the fewest characters first. -/
def lazyPlus (accepts : Char → Bool) : Pattern
  | [] => []
  | char :: rest =>
    if accepts char then
      ([char],rest) :: (lazyPlus accepts rest).map (fun way => (char :: way.1,way.2))
    else []

/-- `x+`, the most characters first. -/
def greedyPlus (accepts : Char → Bool) : Pattern
  | [] => []
  | char :: rest =>
    if accepts char then
      (greedyPlus accepts rest).map (fun way => (char :: way.1,way.2)) ++ [([char],rest)]
    else []

def andThen (first second : Pattern) : Pattern := fun text =>
  (first text).flatMap (fun way => (second way.2).map (fun next => (way.1 ++ next.1,next.2)))

/-- What the group takes in the first match of the group and the pattern after it. -/
def firstGroup (group after : Pattern) (text : List Char) : Option (List Char) :=
  ((group text).find? (fun way => !(after way.2).isEmpty)).map Prod.fst

variable {accepts : Char → Bool} {text taken left : List Char}

theorem mem_one : (taken,left) ∈ one accepts text ↔
    ∃ char, accepts char = true ∧ taken = [char] ∧ text = char :: left := by
  cases text with
  | nil => simp [one]
  | cons char rest =>
    by_cases accepted : accepts char = true
    · simp only [one,accepted,if_true,List.mem_singleton,Prod.mk.injEq,List.cons.injEq]
      constructor
      · rintro ⟨rfl,rfl⟩
        exact ⟨char,accepted,rfl,rfl,rfl⟩
      · rintro ⟨other,_,rfl,rfl,rfl⟩
        exact ⟨rfl,rfl⟩
    · simp only [one,accepted,List.cons.injEq]
      constructor
      · simp
      · rintro ⟨other,allowed,-,rfl,-⟩
        exact absurd allowed accepted

/-- The ways of a repetition, whatever their order. -/
private theorem mem_longer {ways : List (List Char × List Char)} {char : Char} {rest : List Char}
    (accepted : accepts char = true)
    (ih : ∀ taken left, (taken,left) ∈ ways ↔
      rest = taken ++ left ∧ taken ≠ [] ∧ ∀ item ∈ taken, accepts item = true) :
    ((taken,left) = ([char],rest) ∨ (taken,left) ∈ ways.map (fun way => (char :: way.1,way.2))) ↔
      char :: rest = taken ++ left ∧ taken ≠ [] ∧ ∀ item ∈ taken, accepts item = true := by
  simp only [List.mem_map,Prod.exists,ih,Prod.mk.injEq]
  constructor
  · rintro (⟨rfl,rfl⟩ | ⟨taken,left,⟨rfl,nonempty,all⟩,rfl,rfl⟩)
    · simp [accepted]
    · simpa [accepted] using all
  · rintro ⟨same,nonempty,all⟩
    cases taken with
    | nil => contradiction
    | cons first others =>
      rw [List.cons_append,List.cons.injEq] at same
      obtain ⟨rfl,rfl⟩ := same
      rw [List.forall_mem_cons] at all
      cases others with
      | nil => exact Or.inl ⟨rfl,rfl⟩
      | cons second others => exact Or.inr ⟨_,_,⟨rfl,by simp,all.2⟩,rfl,rfl⟩

private theorem not_longer {char : Char} {rest : List Char} (refused : ¬ accepts char = true) :
    ¬ (char :: rest = taken ++ left ∧ taken ≠ [] ∧ ∀ item ∈ taken, accepts item = true) := by
  rintro ⟨same,nonempty,all⟩
  cases taken with
  | nil => contradiction
  | cons first others => simp_all

theorem mem_lazyPlus : (taken,left) ∈ lazyPlus accepts text ↔
    text = taken ++ left ∧ taken ≠ [] ∧ ∀ item ∈ taken, accepts item = true := by
  induction text generalizing taken left with
  | nil => simp [lazyPlus]; tauto
  | cons char rest ih =>
    by_cases accepted : accepts char = true
    · rw [lazyPlus,if_pos accepted,List.mem_cons]
      exact mem_longer accepted (fun _ _ => ih)
    · rw [lazyPlus,if_neg accepted]
      exact iff_of_false List.not_mem_nil (not_longer accepted)

theorem mem_greedyPlus : (taken,left) ∈ greedyPlus accepts text ↔
    text = taken ++ left ∧ taken ≠ [] ∧ ∀ item ∈ taken, accepts item = true := by
  induction text generalizing taken left with
  | nil => simp [greedyPlus]; tauto
  | cons char rest ih =>
    by_cases accepted : accepts char = true
    · rw [greedyPlus,if_pos accepted,List.mem_append,List.mem_singleton,or_comm]
      exact mem_longer accepted (fun _ _ => ih)
    · rw [greedyPlus,if_neg accepted]
      exact iff_of_false List.not_mem_nil (not_longer accepted)

theorem mem_andThen {first second : Pattern} : (taken,left) ∈ andThen first second text ↔
    ∃ before middle after, (before,middle) ∈ first text ∧ (after,left) ∈ second middle ∧
      taken = before ++ after := by
  simp only [andThen,List.mem_flatMap,List.mem_map,Prod.exists,Prod.mk.injEq]
  constructor
  · rintro ⟨before,middle,one,after,last,two,rfl,rfl⟩
    exact ⟨before,middle,after,one,two,rfl⟩
  · rintro ⟨before,middle,after,one,two,rfl⟩
    exact ⟨before,middle,one,after,left,two,rfl,rfl⟩

theorem lazyPlus_shortest_first (accepts : Char → Bool) (text : List Char) :
    (lazyPlus accepts text).Pairwise (fun first second => first.1.length < second.1.length) := by
  induction text with
  | nil => exact .nil
  | cons char rest ih =>
    rw [lazyPlus]
    split
    · refine .cons (fun way longer => ?_) (List.pairwise_map.mpr (ih.imp (by simp)))
      obtain ⟨⟨taken,left⟩,member,rfl⟩ := List.mem_map.mp longer
      obtain ⟨-,nonempty,-⟩ := mem_lazyPlus.mp member
      simpa using List.length_pos_of_ne_nil nonempty
    · exact .nil

/-- A lazy group takes as little as the pattern after it allows. -/
theorem firstGroup_lazy {after : Pattern} (way : (taken,left) ∈ lazyPlus accepts text)
    (continued : after left ≠ [])
    (shortest : ∀ other rest, (other,rest) ∈ lazyPlus accepts text → after rest ≠ [] →
      taken.length ≤ other.length) :
    firstGroup (lazyPlus accepts) after text = some taken := by
  rw [firstGroup]
  cases found : (lazyPlus accepts text).find? (fun way => !(after way.2).isEmpty) with
  | none =>
    have stopped := List.find?_eq_none.mp found (taken,left) way
    simp [continued] at stopped
  | some first =>
    obtain ⟨other,rest⟩ := first
    obtain ⟨matched,earlier,later,split,failed⟩ := List.find?_eq_some_iff_append.mp found
    have member : (other,rest) ∈ lazyPlus accepts text := by simp [split]
    have below := shortest other rest member (by simpa using matched)
    have above : other.length ≤ taken.length := by
      rw [split,List.mem_append,List.mem_cons] at way
      rcases way with before | same | behind
      · simpa [continued] using failed _ before
      · rw [Prod.ext_iff] at same
        exact (congrArg List.length same.1).ge
      · have order := lazyPlus_shortest_first accepts text
        rw [split,List.pairwise_append,List.pairwise_cons] at order
        exact (order.2.1.1 _ behind).le
    have texts := (mem_lazyPlus.mp way).1.symm.trans (mem_lazyPlus.mp member).1
    rw [Option.map_some,(List.append_inj texts (le_antisymm below above)).1]

end Roadmap.Regex
