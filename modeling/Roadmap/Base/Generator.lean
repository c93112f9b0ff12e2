import Mathlib

/-! Generators: a loop each turn of which goes on, yields an item or ends. -/
namespace Roadmap

inductive Turn (σ α ω : Type) where
  | stop (ending : ω)
  | next (after : σ)
  | yield (item : α) (after : σ)

namespace Generator

variable {σ α ω : Type}

/-- The items and the ending of at most `fuel` turns; `none` where they do not reach it. -/
def run (turn : σ → Turn σ α ω) : Nat → σ → Option (List α × ω)
  | 0,_ => none
  | fuel + 1,state => match turn state with
    | .stop ending => some ([],ending)
    | .next after => run turn fuel after
    | .yield item after => (run turn fuel after).map (fun rest => (item :: rest.1,rest.2))

/-- A run that has ended is the same with more turns. -/
theorem run_le {turn : σ → Turn σ α ω} {fuel more : Nat} (le : fuel ≤ more) {state : σ}
    {ended : List α × ω} (ran : run turn fuel state = some ended) : run turn more state = some ended := by
  induction fuel generalizing more state ended with
  | zero => cases ran
  | succ fuel ih =>
    obtain ⟨more,rfl⟩ := Nat.exists_eq_add_one_of_ne_zero (n := more) (by omega)
    have less : fuel ≤ more := by omega
    rw [run] at ran ⊢
    cases found : turn state with
    | stop ending =>
      rw [found] at ran
      exact ran
    | next after =>
      rw [found] at ran
      exact ih less ran
    | yield item after =>
      rw [found] at ran
      obtain ⟨rest,later,rfl⟩ := Option.map_eq_some_iff.mp ran
      simp [ih less later]

/-- The turn takes a state of the invariant to one of a smaller measure, and what the rest of
the run means there gives what the whole run means here. -/
def Sound (invariant : σ → Prop) (measure : σ → Nat) (means : σ → List α → ω → Prop) (state : σ) :
    Turn σ α ω → Prop
  | .stop ending => means state [] ending
  | .next after => (invariant after ∧ measure after < measure state) ∧
      ∀ items ending, means after items ending → means state items ending
  | .yield item after => (invariant after ∧ measure after < measure state) ∧
      ∀ items ending, means after items ending → means state (item :: items) ending

/-- A turn is sound at a state that means the same as a state no larger where it is sound. -/
theorem Sound.of_le {invariant : σ → Prop} {measure : σ → Nat} {means : σ → List α → ω → Prop}
    {state other : σ} (smaller : measure other ≤ measure state)
    (carried : ∀ items ending, means other items ending → means state items ending) {turn : Turn σ α ω}
    (sound : Sound invariant measure means other turn) : Sound invariant measure means state turn := by
  cases turn with
  | stop ending => exact carried [] ending sound
  | next after =>
    obtain ⟨⟨kept,decreased⟩,meant⟩ := sound
    exact ⟨⟨kept,by omega⟩,fun items ending known => carried _ _ (meant items ending known)⟩
  | yield item after =>
    obtain ⟨⟨kept,decreased⟩,meant⟩ := sound
    exact ⟨⟨kept,by omega⟩,fun items ending known => carried _ _ (meant items ending known)⟩

/-- Sound turns come to an end, with the items and the ending that the first state means. -/
theorem run_sound {turn : σ → Turn σ α ω} {invariant : σ → Prop} {measure : σ → Nat}
    {means : σ → List α → ω → Prop}
    (sound : ∀ state, invariant state → Sound invariant measure means state (turn state))
    {state : σ} (holds : invariant state) {fuel : Nat} (enough : measure state < fuel) :
    ∃ items ending, run turn fuel state = some (items,ending) ∧ means state items ending := by
  induction fuel generalizing state with
  | zero => omega
  | succ fuel ih =>
    have turned := sound state holds
    rw [run]
    cases found : turn state with
    | stop ending =>
      rw [found] at turned
      exact ⟨[],ending,rfl,turned⟩
    | next after =>
      rw [found] at turned
      obtain ⟨⟨kept,smaller⟩,carried⟩ := turned
      obtain ⟨items,ending,ran,meant⟩ := ih kept (by omega)
      exact ⟨items,ending,ran,carried items ending meant⟩
    | yield item after =>
      rw [found] at turned
      obtain ⟨⟨kept,smaller⟩,carried⟩ := turned
      obtain ⟨items,ending,ran,meant⟩ := ih kept (by omega)
      exact ⟨item :: items,ending,by simp [ran],carried items ending meant⟩

end Generator

end Roadmap
