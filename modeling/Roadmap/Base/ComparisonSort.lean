import Mathlib

/-! Sorting by comparisons that may raise. A sort asks which of two items is less and nothing
else about them; which pairs it asks about is left open. -/
namespace Roadmap

/-- A program that asks whether one item is less than another one. -/
inductive Asking (ι ρ : Type) where
  | done (result : ρ)
  | ask (first second : ι) (answered : Bool → Asking ι ρ)

namespace Asking

variable {ι ρ σ ε : Type}

def eval (less : ι → ι → Bool) : Asking ι ρ → ρ
  | done result => result
  | ask first second answered => eval less (answered (less first second))

/-- The first comparison that raises ends the program. -/
def run (less : ι → ι → Except ε Bool) : Asking ι ρ → Except ε ρ
  | done result => .ok result
  | ask first second answered => match less first second with
    | .ok below => run less (answered below)
    | .error error => .error error

def bind : Asking ι ρ → (ρ → Asking ι σ) → Asking ι σ
  | done result,next => next result
  | ask first second answered,next => ask first second (fun below => bind (answered below) next)

@[simp] theorem eval_bind (less : ι → ι → Bool) (program : Asking ι ρ) (next : ρ → Asking ι σ) :
    (program.bind next).eval less = (next (program.eval less)).eval less := by
  induction program with
  | done result => rfl
  | ask first second answered ih => exact ih (less first second)

variable {less : ι → ι → Except ε Bool} {total : ι → ι → Bool} {program : Asking ι ρ}

/-- A run that raises nothing goes as under every order that agrees with the answers given. -/
theorem eval_of_run (agrees : ∀ first second below, less first second = .ok below → total first second = below)
    {result : ρ} (ran : program.run less = .ok result) : program.eval total = result := by
  induction program with
  | done => exact Except.ok.inj ran
  | ask first second answered ih =>
    rw [run] at ran
    cases asked : less first second with
    | error error => simp [asked] at ran
    | ok below =>
      rw [asked] at ran
      rw [eval,agrees first second below asked]
      exact ih below ran

theorem run_of_total (agrees : ∀ first second, less first second = .ok (total first second)) :
    program.run less = .ok (program.eval total) := by
  induction program with
  | done => rfl
  | ask first second answered ih =>
    rw [run,agrees first second]
    exact ih _

theorem run_error {error : ε} (ran : program.run less = .error error) :
    ∃ first second, less first second = .error error := by
  induction program with
  | done => simp [run] at ran
  | ask first second answered ih =>
    rw [run] at ran
    cases asked : less first second with
    | error other =>
      simp only [asked] at ran
      cases ran
      exact ⟨first,second,asked⟩
    | ok below =>
      rw [asked] at ran
      exact ih below ran

end Asking

structure TotalPreorder {α : Type} (le : α → α → Bool) : Prop where
  trans : ∀ first second third, le first second = true → le second third = true → le first third = true
  total : ∀ first second, (le first second || le second first) = true

theorem totalPreorder_of_key {α κ : Type} [LinearOrder κ] (key : α → κ) :
    TotalPreorder (fun first second => decide (key first ≤ key second)) where
  trans first second third := by simpa using le_trans
  total first second := by simpa using le_total (key first) (key second)

/-- A stable sort, as a program over the positions of the items. -/
structure ComparisonSort where
  plan : (size : Nat) → Asking (Fin size) (List (Fin size))
  sorts : ∀ {size : Nat} {le : Fin size → Fin size → Bool}, TotalPreorder le →
    (plan size).eval (fun first second => !le second first) = (List.finRange size).mergeSort le

namespace ComparisonSort

section Sorted

variable (sort : ComparisonSort) {α ε : Type} (less : α → α → Except ε Bool) (items : List α)

def positionsLess (first second : Fin items.length) : Except ε Bool := less (items.get first) (items.get second)

/-- The items in the order of the program, or what a comparison raised. -/
def sorted : Except ε (List α) :=
  ((sort.plan items.length).run (positionsLess less items)).map (List.map items.get)

variable {less items}

theorem sorted_ok {le : α → α → Bool} (order : TotalPreorder le)
    (agrees : ∀ first ∈ items, ∀ second ∈ items, less first second = .ok (!le second first)) :
    sort.sorted less items = .ok (items.mergeSort le) := by
  let atPositions := fun first second : Fin items.length => le (items.get first) (items.get second)
  have onPositions : TotalPreorder atPositions :=
    ⟨fun _ _ _ => order.trans _ _ _,fun _ _ => order.total _ _⟩
  have answers : ∀ first second, positionsLess less items first second = .ok (!atPositions second first) :=
    fun first second => agrees _ (List.get_mem items first) _ (List.get_mem items second)
  rw [sorted,Asking.run_of_total answers,sort.sorts onPositions]
  refine congrArg Except.ok ?_
  have mapped : ((List.finRange items.length).mergeSort atPositions).map items.get =
      ((List.finRange items.length).map items.get).mergeSort le := List.map_mergeSort (fun _ _ _ _ => rfl)
  rw [mapped,List.map_get_finRange]

/-- Whatever is raised was raised by a comparison of two of the items. -/
theorem sorted_error {error : ε} (raised : sort.sorted less items = .error error) :
    ∃ first ∈ items, ∃ second ∈ items, less first second = .error error := by
  rw [sorted] at raised
  cases ran : (sort.plan items.length).run (positionsLess less items) with
  | ok result => simp [ran,Except.map] at raised
  | error other =>
    simp only [ran,Except.map] at raised
    cases raised
    obtain ⟨first,second,asked⟩ := Asking.run_error ran
    exact ⟨_,List.get_mem items first,_,List.get_mem items second,asked⟩

variable {le other : α → α → Bool}

/-- The positions that a sort returns are sorted by every order that agrees with the comparisons. -/
theorem places_sorted (order : TotalPreorder le)
    (agrees : ∀ first second below, less first second = .ok below → (!le second first) = below)
    {places : List (Fin items.length)}
    (ran : (sort.plan items.length).run (positionsLess less items) = .ok places) :
    (∀ place, place ∈ places) ∧
      places.Pairwise (fun first second => le (items.get first) (items.get second) = true) := by
  have onPositions : TotalPreorder (fun first second => le (items.get first) (items.get second)) :=
    ⟨fun _ _ _ => order.trans _ _ _,fun _ _ => order.total _ _⟩
  have value : (sort.plan items.length).eval (fun first second => !le (items.get second) (items.get first)) =
      places := Asking.eval_of_run (fun _ _ _ asked => agrees _ _ _ asked) ran
  rw [sort.sorts onPositions] at value
  rw [← value]
  exact ⟨fun place => List.mem_mergeSort.mpr (List.mem_finRange place),
    List.pairwise_mergeSort onPositions.trans onPositions.total _⟩

/-- Where two orders agree with all comparisons and put two items the one way and the other, no
result is sorted by both of them, and so the sort raises. -/
theorem not_sorted (order : TotalPreorder le) (otherOrder : TotalPreorder other)
    (agrees : ∀ first second below, less first second = .ok below → (!le second first) = below)
    (otherAgrees : ∀ first second below, less first second = .ok below → (!other second first) = below)
    {first second : α} (inFirst : first ∈ items) (inSecond : second ∈ items)
    (apart : le second first = false) (back : other first second = false) (result : List α) :
    sort.sorted less items ≠ .ok result := by
  intro done
  obtain ⟨i,rfl⟩ := List.get_of_mem inFirst
  obtain ⟨j,rfl⟩ := List.get_of_mem inSecond
  cases ran : (sort.plan items.length).run (positionsLess less items) with
  | error error => simp [sorted,ran,Except.map] at done
  | ok places =>
    obtain ⟨members,ascending⟩ := places_sorted sort order agrees ran
    have both := ascending.and (places_sorted sort otherOrder otherAgrees ran).2
    let together := fun i j : Fin items.length => le (items.get i) (items.get j) = true ∧
      other (items.get i) (items.get j) = true
    have reflexive : ∀ i, together i i := by
      intro i
      have one := order.total (items.get i) (items.get i)
      have two := otherOrder.total (items.get i) (items.get i)
      rw [Bool.or_self] at one two
      exact ⟨one,two⟩
    have symmetric : Std.Symm (fun i j => together i j ∨ together j i) := ⟨fun _ _ => Or.symm⟩
    have oneWay : together i j ∨ together j i := List.Pairwise.forall_of_forall
      (R := fun i j => together i j ∨ together j i) (fun i _ => Or.inl (reflexive i)) (both.imp Or.inl)
      (members i) (members j)
    rcases oneWay with ⟨-,below⟩ | ⟨below,-⟩
    · exact Bool.false_ne_true (back.symm.trans below)
    · exact Bool.false_ne_true (apart.symm.trans below)

end Sorted

/-! There is such a sort. -/

section Insertion

variable {ι : Type}

def insertAsking (item : ι) : List ι → Asking ι (List ι)
  | [] => .done [item]
  | head :: rest => .ask head item (fun below =>
    if below then (insertAsking item rest).bind (fun inserted => .done (head :: inserted))
    else .done (item :: head :: rest))

def insertionAsking : List ι → Asking ι (List ι)
  | [] => .done []
  | item :: rest => (insertionAsking rest).bind (insertAsking item)

variable (le : ι → ι → Bool)

theorem eval_insertAsking (item : ι) (items : List ι) :
    (insertAsking item items).eval (fun first second => !le second first) =
      items.orderedInsert (fun first second => le first second = true) item := by
  induction items with
  | nil => rfl
  | cons head rest ih =>
    rw [insertAsking,Asking.eval,List.orderedInsert]
    cases le item head with
    | true => rfl
    | false =>
      simp only [Bool.not_false,if_true,Asking.eval_bind,ih]
      rfl

theorem eval_insertionAsking (items : List ι) :
    (insertionAsking items).eval (fun first second => !le second first) =
      items.insertionSort (fun first second => le first second = true) := by
  induction items with
  | nil => rfl
  | cons item rest ih => rw [insertionAsking,Asking.eval_bind,ih,eval_insertAsking,List.insertionSort_cons]

variable {le}

theorem orderedInsert_append {item : ι} {before after : List ι} (above : ∀ other ∈ before, le item other = false)
    (below : ∀ other ∈ after, le item other = true) :
    (before ++ after).orderedInsert (fun first second => le first second = true) item =
      before ++ item :: after := by
  induction before with
  | nil =>
    cases after with
    | nil => rfl
    | cons head rest => exact List.orderedInsert_cons_of_le _ _ (below head List.mem_cons_self)
  | cons head rest ih =>
    have first : ¬ le item head = true := by simp [above head List.mem_cons_self]
    have rest := ih (fun other member => above other (List.mem_cons_of_mem _ member))
    rw [List.cons_append,List.orderedInsert_cons,if_neg first,rest,List.cons_append]

theorem insertionSort_eq (order : TotalPreorder le) (items : List ι) :
    items.insertionSort (fun first second => le first second = true) = items.mergeSort le := by
  induction items with
  | nil => simp
  | cons item rest ih =>
    obtain ⟨before,after,whole,others,above⟩ := List.mergeSort_cons order.trans order.total item rest
    have sorted := List.pairwise_mergeSort order.trans order.total (item :: rest)
    rw [whole] at sorted
    have below := (List.pairwise_cons.mp (List.pairwise_append.mp sorted).2.1).1
    rw [List.insertionSort_cons,ih,others,whole]
    exact orderedInsert_append (fun other member => by simpa using above other member) below

/-- Insertion from the end, each item before the first one that is not less. -/
def insertion : ComparisonSort where
  plan := fun size => insertionAsking (List.finRange size)
  sorts := by
    intro size le order
    rw [eval_insertionAsking,insertionSort_eq order]

end Insertion

end ComparisonSort

end Roadmap
