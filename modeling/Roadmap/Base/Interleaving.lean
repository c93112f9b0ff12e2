import Mathlib

/-! Agents that share a state and take their steps in any order. Agents arrive at any time, and
the shared state may also change by itself. -/
namespace Roadmap.Interleaving

inductive Event (ι κ : Type) where
  | arrives (request : ι)
  | advances (position : Nat)
  | changes (kind : κ)

structure State (σ τ : Type) where
  shared : σ
  agents : List τ

variable {σ τ ι κ : Type} (begun : ι → τ) (advance : τ → σ → τ × σ) (change : κ → σ → σ)

def step (state : State σ τ) : Event ι κ → State σ τ
  | .arrives request => {state with agents := state.agents ++ [begun request]}
  | .advances position => match state.agents[position]? with
    | none => state
    | some agent =>
      let (next,shared) := advance agent state.shared
      ⟨shared,state.agents.set position next⟩
  | .changes kind => {state with shared := change kind state.shared}

def run (start : σ) (events : List (Event ι κ)) : State σ τ :=
  events.foldl (step begun advance change) ⟨start,[]⟩

def arrivals (events : List (Event ι κ)) : List ι :=
  events.filterMap (fun event => match event with
    | .arrives request => some request
    | _ => none)

variable {begun : ι → τ} {advance : τ → σ → τ × σ} {change : κ → σ → σ} {start : σ}

theorem run_snoc (events : List (Event ι κ)) (event : Event ι κ) :
    run begun advance change start (events ++ [event]) =
      step begun advance change (run begun advance change start events) event := by
  rw [run,List.foldl_append]
  rfl

/-- What holds at the start and is kept by every event holds after every run. -/
theorem run_rule {holds : List (Event ι κ) → State σ τ → Prop} (begins : holds [] ⟨start,[]⟩)
    (keeps : ∀ events event, holds events (run begun advance change start events) →
      holds (events ++ [event]) (step begun advance change (run begun advance change start events) event))
    (events : List (Event ι κ)) : holds events (run begun advance change start events) := by
  induction events using List.reverseRecOn with
  | nil => exact begins
  | append_singleton events event ih =>
    rw [run_snoc]
    exact keeps events event ih

/-- An event that no agent's meaning depends on relates the agents to those that arrived. -/
theorem related_step (R : ι → τ → Prop) (same : ∀ request, R request (begun request)) {events : List (Event ι κ)}
    {state : State σ τ} (related : List.Forall₂ R (arrivals events) state.agents) (event : Event ι κ)
    (kept : ∀ request agent, R request agent → R request (advance agent state.shared).1) :
    List.Forall₂ R (arrivals (events ++ [event])) (step begun advance change state event).agents := by
  cases event with
  | arrives request =>
    simp only [arrivals,List.filterMap_append] at related ⊢
    exact List.rel_append related (.cons (same request) .nil)
  | changes kind => simpa [arrivals,step] using related
  | advances position =>
    have unchanged : arrivals (events ++ [.advances position]) = arrivals events := by simp [arrivals]
    rw [unchanged]
    cases found : state.agents[position]? with
    | none => simpa only [step,found] using related
    | some agent =>
      simp only [step,found]
      obtain ⟨size,each⟩ := List.forall₂_iff_get.mp related
      refine List.forall₂_iff_get.mpr ⟨by simpa using size,fun place before after => ?_⟩
      rw [List.length_set] at after
      have origin := each place before after
      simp only [List.get_eq_getElem,List.getElem_set] at origin ⊢
      split
      · next here =>
        subst here
        obtain ⟨_,listed⟩ := List.getElem?_eq_some_iff.mp found
        rw [listed] at origin
        exact kept _ agent origin
      · exact origin

section Fairness

variable {ρ : Type} [LinearOrder ρ] [WellFoundedLT ρ] (rank : τ → ρ) (done : τ → Prop)

/-- An agent that is not done shrinks whenever it advances. -/
def Shrinks (advance : τ → σ → τ × σ) : Prop :=
  ∀ agent shared, ¬ done agent → rank (advance agent shared).1 < rank agent

variable {rank done}

theorem step_advances {state : State σ τ} {position : Nat} {agent : τ}
    (present : state.agents[position]? = some agent) :
    (step begun advance change state (.advances position : Event ι κ)).agents[position]? =
      some (advance agent state.shared).1 := by
  simp only [step,present]
  exact List.getElem?_set_self (List.getElem?_eq_some_iff.mp present).1

theorem step_agent {state : State σ τ} {position : Nat} {agent : τ}
    (present : state.agents[position]? = some agent) (event : Event ι κ) :
    (step begun advance change state event).agents[position]? = some agent ∨
      event = .advances position ∧
        (step begun advance change state event).agents[position]? = some (advance agent state.shared).1 := by
  have inside := (List.getElem?_eq_some_iff.mp present).1
  cases event with
  | arrives request => exact Or.inl (by rw [step,List.getElem?_append_left inside]; exact present)
  | changes kind => exact Or.inl present
  | advances other =>
    by_cases here : other = position
    · subst here
      exact Or.inr ⟨rfl,step_advances present⟩
    · refine Or.inl ?_
      cases found : state.agents[other]? with
      | none => simpa only [step,found] using present
      | some second => simpa only [step,found,List.getElem?_set_ne here] using present

variable (begun advance change start) (schedule : Nat → Event ι κ)

theorem arrivals_at {schedule : Nat → Event ι κ} {time ending : Nat} {request : ι}
    (arrival : schedule time = .arrives request) (later : time < ending) :
    (arrivals ((List.range ending).map schedule))[(arrivals ((List.range time).map schedule)).length]? =
      some request := by
  obtain ⟨rest,rfl⟩ := Nat.exists_eq_add_of_lt later
  rw [show time + rest + 1 = time + 1 + rest by omega,List.range_add,List.range_succ]
  simp [arrivals,arrival]

/-- The state before the event at a time. -/
def stateAt (time : Nat) : State σ τ := run begun advance change start ((List.range time).map schedule)

variable {begun advance change start schedule}

theorem stateAt_succ (time : Nat) : stateAt begun advance change start schedule (time + 1) =
    step begun advance change (stateAt begun advance change start schedule time) (schedule time) := by
  rw [stateAt,List.range_succ,List.map_append]
  exact run_snoc _ _

omit [WellFoundedLT ρ] in
/-- Until it is done an agent stays, and is no larger than before. -/
theorem agent_later (shrinks : Shrinks rank done advance) {position time : Nat} {agent : τ}
    (present : (stateAt begun advance change start schedule time).agents[position]? = some agent) (later : Nat) :
    (∃ between agent', time ≤ between ∧
        (stateAt begun advance change start schedule between).agents[position]? = some agent' ∧ done agent') ∨
      ∃ agent', (stateAt begun advance change start schedule (time + later)).agents[position]? = some agent' ∧
        rank agent' ≤ rank agent := by
  induction later with
  | zero => exact Or.inr ⟨agent,present,le_rfl⟩
  | succ later ih =>
    rcases ih with finished | ⟨agent',there,smaller⟩
    · exact Or.inl finished
    by_cases complete : done agent'
    · exact Or.inl ⟨_,agent',Nat.le_add_right _ _,there,complete⟩
    rw [← Nat.add_assoc,stateAt_succ]
    rcases step_agent there (schedule (time + later)) with stays | ⟨-,advanced⟩
    · exact Or.inr ⟨agent',stays,smaller⟩
    · exact Or.inr ⟨_,advanced,(shrinks agent' _ complete).le.trans smaller⟩

/-- An agent whose turn comes again and again is done at some time. -/
theorem eventually_done (shrinks : Shrinks rank done advance) {position : Nat}
    (fair : ∀ time, ∃ later, schedule (time + later) = .advances position) {time : Nat} {agent : τ}
    (present : (stateAt begun advance change start schedule time).agents[position]? = some agent) :
    ∃ between agent', time ≤ between ∧
      (stateAt begun advance change start schedule between).agents[position]? = some agent' ∧ done agent' := by
  induction size : rank agent using WellFoundedLT.induction generalizing time agent with
  | ind size' ih =>
    subst size
    obtain ⟨later,turn⟩ := fair time
    rcases agent_later shrinks present later with finished | ⟨agent',there,smaller⟩
    · exact finished
    by_cases complete : done agent'
    · exact ⟨_,agent',Nat.le_add_right _ _,there,complete⟩
    have advanced : (stateAt begun advance change start schedule (time + later + 1)).agents[position]? =
        some (advance agent' (stateAt begun advance change start schedule (time + later)).shared).1 := by
      rw [stateAt_succ,turn]
      exact step_advances there
    obtain ⟨between,final,after,found,finished⟩ :=
      ih _ ((shrinks agent' _ complete).trans_le smaller) advanced rfl
    exact ⟨between,final,by omega,found,finished⟩

end Fairness

end Roadmap.Interleaving
