import Roadmap.AppStreams.Relevant
import Roadmap.Rhel.Relevant

/-! The support status of one lifecycle as the days go by. -/
namespace Roadmap

/-- The day of `end_date - timedelta(days=30 * months)`; `none` is OverflowError. -/
def expirationDate (endDate : Date) (months : Nat) : Option Int :=
  let ordinal := endDate.toOrdinal - 30 * months
  if 1 ≤ ordinal then some ordinal else none

/-- `_calculate_support_status` with the range of dates; `none` is OverflowError. Only the two
statuses that are told apart by the expiration date have it computed. -/
def calculateSupportStatus? (startDate endDate : LifecycleDate) (currentDate : Date) (months : Nat) :
    Option SupportStatus :=
  let status := calculateSupportStatus startDate endDate currentDate months
  match status,endDate with
  | .nearRetirement,.on date => (expirationDate date months).map (fun _ => status)
  | .supported,.on date => (expirationDate date months).map (fun _ => status)
  | _,_ => some status

/-- The statuses of a lifecycle in their order in time. -/
def stages : LifecycleDate → List SupportStatus
  | .on _ => [.upcoming,.supported,.nearRetirement,.retired]
  | _ => [.upcoming,.unknown]

def LifecycleDate.isAfter (date : LifecycleDate) (day : Date) : Bool :=
  match date with
  | .on date => decide (day < date)
  | _ => false

theorem LifecycleDate.isAfter_iff (date : LifecycleDate) (day : Date) :
    date.isAfter day = true ↔ ∃ start, date = .on start ∧ day < start := by
  cases date <;> simp [isAfter]

theorem LifecycleDate.isAfter_of_le (date : LifecycleDate) {today later : Date} (ahead : today ≤ later)
    (future : date.isAfter later = true) : date.isAfter today = true := by
  obtain ⟨start,rfl,after⟩ := (isAfter_iff date later).mp future
  exact (isAfter_iff _ today).mpr ⟨start,rfl,Date.lt_of_le_of_lt ahead after⟩

section Cases

variable (startDate endDate : LifecycleDate) (currentDate : Date) (months : Nat)

theorem calculateSupportStatus_eq : calculateSupportStatus startDate endDate currentDate months =
    if startDate.isAfter currentDate then .upcoming
    else match endDate with
      | .on date => if date < currentDate then .retired
        else if expires date currentDate months then .nearRetirement else .supported
      | _ => .unknown := rfl

theorem calculateSupportStatus?_eq : calculateSupportStatus? startDate endDate currentDate months =
    if startDate.isAfter currentDate then some .upcoming
    else match endDate with
      | .on date => if date < currentDate then some .retired
        else (expirationDate date months).map (fun expiration =>
          if expiration ≤ currentDate.toOrdinal then .nearRetirement else .supported)
      | _ => some .unknown := by
  unfold calculateSupportStatus?
  rw [calculateSupportStatus_eq]
  by_cases future : startDate.isAfter currentDate = true
  · simp [future]
  cases endDate with
  | missing => simp [future]
  | unknown => simp [future]
  | on date =>
    by_cases ended : date < currentDate
    · simp [future,ended]
    cases inRange : expirationDate date months with
    | none => by_cases expired : expires date currentDate months <;> simp [future,ended,inRange,expired]
    | some expiration =>
      have day : date.toOrdinal - 30 * months = expiration := by
        rw [expirationDate] at inRange
        split at inRange
        · exact Option.some.inj inRange
        · contradiction
      by_cases expired : expires date currentDate months
      · have reached : expiration ≤ currentDate.toOrdinal := day ▸ expired
        simp [future,ended,inRange,expired,reached]
      · have ahead : ¬ expiration ≤ currentDate.toOrdinal := day ▸ expired
        simp [future,ended,inRange,expired,ahead]

variable {startDate endDate currentDate months}

/-- Where the dates stay in range, subtracting without a range gives the same status. -/
theorem status_of_some {status : SupportStatus}
    (found : calculateSupportStatus? startDate endDate currentDate months = some status) :
    calculateSupportStatus startDate endDate currentDate months = status := by
  unfold calculateSupportStatus? at found
  dsimp only at found
  split at found
  · obtain ⟨_,-,same⟩ := Option.map_eq_some_iff.mp found
    exact same
  · obtain ⟨_,-,same⟩ := Option.map_eq_some_iff.mp found
    exact same
  · exact Option.some.inj found

theorem retired_iff : calculateSupportStatus? startDate endDate currentDate months = some .retired ↔
    (∃ date, endDate = .on date ∧ date < currentDate) ∧ ∀ date, startDate = .on date → ¬ currentDate < date := by
  have started : (¬ startDate.isAfter currentDate = true) ↔ ∀ date, startDate = .on date → ¬ currentDate < date := by
    rw [LifecycleDate.isAfter_iff]
    grind
  rw [← started,calculateSupportStatus?_eq]
  by_cases future : startDate.isAfter currentDate = true
  · simp [future]
  · cases endDate with
    | missing => simp [future]
    | unknown => simp [future]
    | on date =>
      by_cases ended : date < currentDate
      · simp [future,ended]
      · have other : ∀ expiration : Int, (if expiration ≤ currentDate.toOrdinal then
            SupportStatus.nearRetirement else .supported) ≠ .retired := by
          intro expiration
          split <;> decide
        simp [future,ended,other]

/-- The subtraction leaves the range of dates only for a lifecycle that runs on the day. -/
theorem overflow_iff : calculateSupportStatus? startDate endDate currentDate months = none ↔
    startDate.isAfter currentDate = false ∧ ∃ date, endDate = .on date ∧ ¬ date < currentDate ∧
      expirationDate date months = none := by
  rw [calculateSupportStatus?_eq]
  by_cases future : startDate.isAfter currentDate = true
  · simp [future]
  · cases endDate with
    | missing => simp [future]
    | unknown => simp [future]
    | on date => by_cases ended : date < currentDate <;> simp [future,ended]

theorem status_mem_stages (startDate endDate : LifecycleDate) (currentDate : Date) (months : Nat) :
    calculateSupportStatus startDate endDate currentDate months ∈ stages endDate := by
  rw [calculateSupportStatus_eq]
  split
  · cases endDate <;> simp [stages]
  · cases endDate with
    | missing => simp [stages]
    | unknown => simp [stages]
    | on date =>
      dsimp only
      split
      · simp [stages]
      · split <;> simp [stages]

end Cases

section Forward

variable (startDate endDate : LifecycleDate) {today later : Date} (ahead : today ≤ later)

include ahead

theorem status_forward (months : Nat) :
    (stages endDate).idxOf (calculateSupportStatus startDate endDate today months) ≤
      (stages endDate).idxOf (calculateSupportStatus startDate endDate later months) := by
  rw [calculateSupportStatus_eq,calculateSupportStatus_eq]
  by_cases future : startDate.isAfter today = true
  · rw [if_pos future]
    cases endDate <;> exact Nat.zero_le _
  have started : ¬ startDate.isAfter later = true := fun still => future (startDate.isAfter_of_le ahead still)
  rw [if_neg future,if_neg started]
  cases endDate with
  | missing => exact Nat.le_refl _
  | unknown => exact Nat.le_refl _
  | on date =>
    dsimp only
    by_cases ended : date < today
    · rw [if_pos ended,if_pos (Date.lt_of_lt_of_le ended ahead)]
    rw [if_neg ended]
    by_cases expired : expires date today months
    · have still : expires date later months := by
        have days := Date.toOrdinal_le ahead
        unfold expires at expired ⊢
        omega
      rw [if_pos expired,if_pos still]
      split <;> simp [stages]
    · rw [if_neg expired]
      split
      · simp [stages]
      · split <;> simp [stages]

theorem retired_stays (months : Nat) (retired : calculateSupportStatus startDate endDate today months = .retired) :
    calculateSupportStatus startDate endDate later months = .retired := by
  have forward := status_forward startDate endDate ahead months
  have listed := status_mem_stages startDate endDate later months
  have start := status_mem_stages startDate endDate today months
  rw [retired] at forward start
  cases endDate with
  | missing => simp [stages] at start
  | unknown => simp [stages] at start
  | on date =>
    simp only [stages,List.mem_cons,List.not_mem_nil,or_false] at listed
    rcases listed with same | same | same | same <;> rw [same] at forward ⊢ <;> simp [stages] at forward

end Forward

theorem support_status_forward :
    (∀ startDate endDate months today, calculateSupportStatus? startDate endDate today months = some .retired ↔
      (∃ date, endDate = .on date ∧ date < today) ∧ ∀ date, startDate = .on date → ¬ today < date) ∧
    (∀ startDate endDate months today later, today ≤ later → ∀ first second,
      calculateSupportStatus? startDate endDate today months = some first →
      calculateSupportStatus? startDate endDate later months = some second →
        first ∈ stages endDate ∧ second ∈ stages endDate ∧
          (stages endDate).idxOf first ≤ (stages endDate).idxOf second) ∧
    (∀ today later, today ≤ later → ∀ name major minor startDate endDate count lifecycleType related systemsDetail,
      0 < count →
      (System.create today name major minor startDate endDate count lifecycleType related
        systemsDetail).supportStatus = .retired →
      (System.create later name major minor startDate endDate count lifecycleType related
        systemsDetail).supportStatus = .retired) ∧
    ∀ today later, today ≤ later → ∀ appStream systems related, 0 < systems.card →
      (relevantAppStream today appStream systems related).supportStatus = .retired →
      (relevantAppStream later appStream systems related).supportStatus = .retired := by
  refine ⟨fun _ _ _ _ => retired_iff,?_,?_,?_⟩
  · intro startDate endDate months today later ahead first second before after
    rw [← status_of_some before,← status_of_some after]
    exact ⟨status_mem_stages _ _ _ _,status_mem_stages _ _ _ _,status_forward startDate endDate ahead months⟩
  · intro today later ahead name major minor startDate endDate count lifecycleType related systemsDetail used
    have shown : ∀ day, (System.create day name major minor startDate endDate count lifecycleType related
        systemsDetail).supportStatus = calculateSupportStatus startDate endDate day 3 :=
      fun day => if_neg (Nat.ne_of_gt used)
    rw [shown,shown]
    exact retired_stays startDate endDate ahead 3
  · intro today later ahead appStream systems related used
    have shown : ∀ day, (relevantAppStream day appStream systems related).supportStatus =
        calculateSupportStatus (.ofOption appStream.appStreamEntity.startDate)
          (.ofOption appStream.appStreamEntity.endDate) day 6 :=
      fun day => if_neg (Nat.ne_of_gt used)
    rw [shown,shown]
    exact retired_stays _ _ ahead 6

end Roadmap
