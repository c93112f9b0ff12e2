import Mathlib

/-! Computations with a state that may raise: how a run goes through calls, handlers and
loops. The state survives an exception. -/
namespace Roadmap.Effects

variable {ε σ α β : Type}

def raised (outcome : Except ε α) : EStateM ε σ α :=
  match outcome with
  | .ok value => pure value
  | .error error => throw error

@[simp] theorem run_raised_ok (value : α) (state : σ) :
    (raised (.ok value) : EStateM ε σ α).run state = .ok value state := rfl

@[simp] theorem run_raised_error (error : ε) (state : σ) :
    (raised (.error error) : EStateM ε σ α).run state = .error error state := rfl

theorem raised_bind (first : Except ε α) (next : α → Except ε β) :
    (raised first >>= fun value => raised (next value) : EStateM ε σ β) = raised (first >>= next) := by
  cases first <;> rfl

@[simp] theorem run_observing (body : EStateM ε σ α) (state : σ) : (observing body).run state =
    match body.run state with
    | .ok value last => .ok (.ok value) last
    | .error error last => .ok (.error error) last := by
  change (tryCatch (Except.ok <$> body) (fun error => pure (.error error))).run state = _
  rw [EStateM.run_tryCatch,EStateM.run_map]
  cases body.run state <;> rfl

@[simp] theorem restore_kept (state : σ) (saved : PUnit) :
    EStateM.Backtrackable.restore state saved = state := rfl

/-- The clean-up runs either way, and its own exception replaces an earlier one. -/
@[simp] theorem run_finally (body : EStateM ε σ α) (cleanup : EStateM ε σ Unit) (state : σ) :
    (try body finally cleanup).run state =
      match body.run state with
      | .ok value last => (match cleanup.run last with
        | .ok _ cleaned => .ok value cleaned
        | .error error cleaned => .error error cleaned)
      | .error error last => (match cleanup.run last with
        | .ok _ cleaned => .error error cleaned
        | .error later cleaned => .error later cleaned) := by
  unfold tryFinally
  rw [EStateM.run_map,EStateM.run_tryFinally']
  rcases body.run state with ⟨value,last⟩ | ⟨error,last⟩
  · dsimp only
    cases cleanup.run last <;> rfl
  · dsimp only
    cases cleanup.run last <;> rfl

/-- The loop rule: what each round keeps, from the rounds done to one more, holds after all. -/
theorem foldlM_invariant {step : β → α → EStateM ε σ β} (holds : List α → β → σ → Prop)
    (round : ∀ done item value state, holds done value state → ∃ next last,
      (step value item).run state = .ok next last ∧ holds (done ++ [item]) next last)
    (items : List α) {done : List α} {value : β} {state : σ} (start : holds done value state) :
    ∃ next last, (items.foldlM step value).run state = .ok next last ∧ holds (done ++ items) next last := by
  induction items generalizing done value state with
  | nil => exact ⟨value,state,rfl,by rwa [List.append_nil]⟩
  | cons item rest ih =>
    obtain ⟨next,middle,ran,kept⟩ := round done item value state start
    obtain ⟨final,last,rested,holding⟩ := ih kept
    refine ⟨final,last,?_,by rwa [List.append_assoc] at holding⟩
    rw [List.foldlM_cons,EStateM.run_bind,ran]
    exact rested

end Roadmap.Effects
