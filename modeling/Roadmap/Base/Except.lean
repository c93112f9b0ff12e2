import Mathlib

/-! Computations that may raise: what a result tells about the steps behind it. -/
namespace Roadmap.Except

variable {ε α β : Type}

theorem ok_bind (value : α) (next : α → Except ε β) : (Except.ok value >>= next) = next value := rfl

theorem error_bind (error : ε) (next : α → Except ε β) : (Except.error error >>= next) = .error error := rfl

theorem bind_ok {first : Except ε α} {next : α → Except ε β} {result : β} :
    (first >>= next) = .ok result ↔ ∃ value, first = .ok value ∧ next value = .ok result := by
  cases first <;> simp [bind,Except.bind]

theorem mapError_ok {φ : Type} {change : ε → φ} {first : Except ε α} {value : α} :
    first.mapError change = .ok value ↔ first = .ok value := by
  cases first <;> simp [Except.mapError]

theorem map_ok {f : α → β} {first : Except ε α} {result : β} :
    first.map f = .ok result ↔ ∃ value, first = .ok value ∧ f value = result := by
  cases first <;> simp [Except.map]

theorem exists_ok {result : Except ε α} (ok : result.toBool = true) : ∃ value, result = .ok value := by
  cases result with
  | ok value => exact ⟨value,rfl⟩
  | error => contradiction

theorem mapM_ok {f : α → Except ε β} {values : List α} {results : List β} :
    values.mapM f = .ok results ↔ List.Forall₂ (fun value result => f value = .ok result) values results := by
  induction values generalizing results with
  | nil => simp [pure,Except.pure,eq_comm]
  | cons value rest ih =>
    rw [List.mapM_cons,bind_ok]
    constructor
    · rintro ⟨head,first,others⟩
      obtain ⟨tail,mapped,same⟩ := bind_ok.mp others
      cases same
      exact .cons first (ih.mp mapped)
    · rintro (_ | ⟨first,others⟩)
      exact ⟨_,first,bind_ok.mpr ⟨_,ih.mpr others,rfl⟩⟩

private theorem exists_related {R : α → β → Prop} {values : List α} {results : List β}
    (related : List.Forall₂ R values results) {value : α} (member : value ∈ values) :
    ∃ result ∈ results, R value result := by
  induction related with
  | nil => simp at member
  | cons first _ ih =>
    rcases List.mem_cons.mp member with rfl | inside
    · exact ⟨_,List.mem_cons_self,first⟩
    · obtain ⟨result,listed,mapped⟩ := ih inside
      exact ⟨result,List.mem_cons_of_mem _ listed,mapped⟩

theorem mapM_image {f : α → Except ε β} {values : List α} {results : List β}
    (ok : values.mapM f = .ok results) {value : α} (member : value ∈ values) :
    ∃ result ∈ results, f value = .ok result := exists_related (mapM_ok.mp ok) member

theorem mapM_source {f : α → Except ε β} {values : List α} {results : List β}
    (ok : values.mapM f = .ok results) {result : β} (member : result ∈ results) :
    ∃ value ∈ values, f value = .ok result := exists_related (mapM_ok.mp ok).flip member

theorem mapM_total {f : α → Except ε β} {g : α → β} (values : List α)
    (total : ∀ value ∈ values, f value = .ok (g value)) : values.mapM f = .ok (values.map g) := by
  rw [mapM_ok,List.forall₂_map_right_iff]
  exact List.forall₂_same.mpr total

/-- The first value that raises decides the error. -/
theorem mapM_error {f : α → Except ε β} {values : List α} {error : ε} :
    values.mapM f = .error error ↔ ∃ before value after, values = before ++ value :: after ∧
      (∀ other ∈ before, ∃ result, f other = .ok result) ∧ f value = .error error := by
  induction values with
  | nil => simp [pure,Except.pure]
  | cons head rest ih =>
    rw [List.mapM_cons]
    cases first : f head with
    | error raised =>
      rw [error_bind]
      constructor
      · rintro ⟨⟩
        exact ⟨[],head,rest,rfl,by simp,first⟩
      · rintro ⟨before,value,after,split,fine,failed⟩
        cases before with
        | nil =>
          cases split
          rw [first] at failed
          cases failed
          rfl
        | cons other before =>
          cases split
          obtain ⟨result,ok⟩ := fine head List.mem_cons_self
          rw [first] at ok
          contradiction
    | ok result =>
      have later : (rest.mapM f >>= fun results => pure (result :: results)) = .error error ↔
          rest.mapM f = .error error := by
        cases rest.mapM f <;> simp [bind,Except.bind,pure,Except.pure]
      rw [ok_bind,later,ih]
      constructor
      · rintro ⟨before,value,after,rfl,fine,failed⟩
        exact ⟨head :: before,value,after,rfl,List.forall_mem_cons.mpr ⟨⟨result,first⟩,fine⟩,failed⟩
      · rintro ⟨before,value,after,split,fine,failed⟩
        cases before with
        | nil =>
          cases split
          rw [first] at failed
          contradiction
        | cons other before =>
          cases split
          exact ⟨before,value,after,rfl,(List.forall_mem_cons.mp fine).2,failed⟩

/-- Values that leave the state as it is may be left out. -/
theorem foldlM_skip {σ : Type} {step : σ → α → Except ε σ} (reads : α → Bool)
    (skips : ∀ state value, reads value = false → step state value = .ok state) (values : List α)
    (start : σ) : values.foldlM step start = (values.filter reads).foldlM step start := by
  induction values generalizing start with
  | nil => rfl
  | cons value rest ih =>
    cases read : reads value with
    | false =>
      rw [List.filter_cons_of_neg (by simp [read]),List.foldlM_cons,skips start value read]
      exact ih start
    | true =>
      rw [List.filter_cons_of_pos read,List.foldlM_cons,List.foldlM_cons]
      exact congrArg (step start value >>= ·) (funext ih)

/-- A loop that raises for none of its values records the events of these values. -/
theorem foldlM_events {σ : Type} {step : σ → α → Except ε σ} {event : α → Option β} {record : σ → β → σ}
    (values : List α)
    (reads : ∀ value ∈ values, ∀ state, step state value = .ok ((event value).toList.foldl record state))
    (start : σ) : values.foldlM step start = .ok ((values.filterMap event).foldl record start) := by
  induction values generalizing start with
  | nil => rfl
  | cons value rest ih =>
    rw [List.foldlM_cons,reads value (by simp),ok_bind,ih (fun other member => reads other (by simp [member]))]
    cases found : event value <;> simp [found]

/-- What every step of a loop keeps holds after a loop that does not raise. -/
theorem foldlM_keeps {σ : Type} {step : σ → α → Except ε σ} (kept : σ → Prop)
    (steps : ∀ state value next, kept state → step state value = .ok next → kept next)
    {values : List α} {start last : σ} (begun : kept start) (ran : values.foldlM step start = .ok last) :
    kept last := by
  induction values generalizing start with
  | nil =>
    cases ran
    exact begun
  | cons value rest ih =>
    rw [List.foldlM_cons,bind_ok] at ran
    obtain ⟨next,stepped,continued⟩ := ran
    exact ih (steps start value next begun stepped) continued

/-- A loop that does not raise has taken a step for every value. -/
theorem foldlM_steps {σ : Type} {step : σ → α → Except ε σ} {values : List α} {start last : σ}
    (ran : values.foldlM step start = .ok last) :
    ∀ value ∈ values, ∃ state next, step state value = .ok next := by
  induction values generalizing start with
  | nil => exact nofun
  | cons value rest ih =>
    rw [List.foldlM_cons,bind_ok] at ran
    obtain ⟨next,stepped,continued⟩ := ran
    exact List.forall_mem_cons.mpr ⟨⟨start,next,stepped⟩,ih continued⟩

end Roadmap.Except
