import Mathlib

/-! Dates of the proleptic Gregorian calendar, compared field by field. The year is
not bounded, so the day before a date always exists. -/
namespace Roadmap

def isLeap (year : Int) : Bool := year % 4 == 0 && (year % 100 != 0 || year % 400 == 0)

def daysInMonth (year : Int) : Nat → Nat
  | 2 => if isLeap year then 29 else 28
  | 4 | 6 | 9 | 11 => 30
  | _ => 31

def validDate (year : Int) (month day : Nat) : Bool :=
  decide (1 ≤ month ∧ month ≤ 12 ∧ 1 ≤ day ∧ day ≤ daysInMonth year month)

structure Date where
  year : Int
  month : Nat
  day : Nat
  valid : validDate year month day = true := by exact Eq.refl true
  deriving DecidableEq

namespace Date

instance : LT Date := ⟨fun first second => first.year < second.year ∨ first.year = second.year ∧
  (first.month < second.month ∨ first.month = second.month ∧ first.day < second.day)⟩

instance : LE Date := ⟨fun first second => first.year < second.year ∨ first.year = second.year ∧
  (first.month < second.month ∨ first.month = second.month ∧ first.day ≤ second.day)⟩

instance (first second : Date) : Decidable (first < second) :=
  inferInstanceAs (Decidable (_ ∨ _))

instance (first second : Date) : Decidable (first ≤ second) :=
  inferInstanceAs (Decidable (_ ∨ _))

theorem lt_iff (first second : Date) : first < second ↔ first.year < second.year ∨
    first.year = second.year ∧ (first.month < second.month ∨
      first.month = second.month ∧ first.day < second.day) := Iff.rfl

theorem le_iff (first second : Date) : first ≤ second ↔ first.year < second.year ∨
    first.year = second.year ∧ (first.month < second.month ∨
      first.month = second.month ∧ first.day ≤ second.day) := Iff.rfl

theorem le_of_lt {first second : Date} (before : first < second) : first ≤ second := by
  rw [lt_iff] at before
  rw [le_iff]
  omega

theorem not_lt_of_le_of_lt {first second third : Date} (below : first ≤ second) (later : second < third) :
    ¬ third < first := by
  rw [le_iff] at below
  rw [lt_iff] at later ⊢
  omega

theorem lt_of_le_of_lt {first second third : Date} (below : first ≤ second) (later : second < third) :
    first < third := by
  rw [le_iff] at below
  rw [lt_iff] at later ⊢
  omega

theorem lt_of_lt_of_le {first second third : Date} (below : first < second) (later : second ≤ third) :
    first < third := by
  rw [le_iff] at later
  rw [lt_iff] at below ⊢
  omega

def daysBeforeYear (year : Int) : Int :=
  (year - 1) * 365 + (year - 1) / 4 - (year - 1) / 100 + (year - 1) / 400

def daysBeforeMonth (year : Int) (month : Nat) : Nat :=
  ((List.range' 1 (month - 1)).map (daysInMonth year)).sum

/-- `date.toordinal()`: January 1 of year 1 is day 1. -/
def toOrdinal (date : Date) : Int :=
  daysBeforeYear date.year + daysBeforeMonth date.year date.month + date.day

theorem daysInMonth_pos (year : Int) (month : Nat) : 28 ≤ daysInMonth year month := by
  unfold daysInMonth
  split <;> (try split) <;> omega

theorem daysInMonth_le (year : Int) (month : Nat) : daysInMonth year month ≤ 31 := by
  unfold daysInMonth
  split <;> (try split) <;> omega

theorem valid_bounds (date : Date) : 1 ≤ date.month ∧ date.month ≤ 12 ∧ 1 ≤ date.day ∧
    date.day ≤ daysInMonth date.year date.month := by
  simpa [validDate] using date.valid

theorem valid_first (year : Int) {month : Nat} (one : 1 ≤ month) (twelve : month ≤ 12) :
    validDate year month 1 = true := by
  have days := daysInMonth_pos year month
  simp only [validDate,decide_eq_true_eq]
  omega

def firstOfMonth (date : Date) : Date :=
  ⟨date.year,date.month,1,valid_first date.year date.valid_bounds.1 date.valid_bounds.2.1⟩

private theorem dayBefore_valid (date : Date) (later : 1 < date.day) :
    validDate date.year date.month (date.day - 1) = true := by
  obtain ⟨one,twelve,-,days⟩ := date.valid_bounds
  simp only [validDate,decide_eq_true_eq]
  omega

private theorem lastOfMonth_valid (date : Date) (inside : 1 < date.month) :
    validDate date.year (date.month - 1) (daysInMonth date.year (date.month - 1)) = true := by
  obtain ⟨-,twelve,-,-⟩ := date.valid_bounds
  have days := daysInMonth_pos date.year (date.month - 1)
  simp only [validDate,decide_eq_true_eq]
  omega

def previousDay (date : Date) : Date :=
  if later : 1 < date.day then ⟨date.year,date.month,date.day - 1,dayBefore_valid date later⟩
  else if inside : 1 < date.month then
    ⟨date.year,date.month - 1,daysInMonth date.year (date.month - 1),lastOfMonth_valid date inside⟩
  else ⟨date.year - 1,12,31,Eq.refl true⟩

/-! Ordinals follow the order of the dates. -/

theorem daysBeforeMonth_le_succ (year : Int) (month : Nat) :
    daysBeforeMonth year month ≤ daysBeforeMonth year (month + 1) := by
  cases month with
  | zero => rfl
  | succ before => simp [daysBeforeMonth,List.range'_concat]

theorem daysBeforeMonth_mono (year : Int) : Monotone (daysBeforeMonth year) :=
  monotone_nat_of_le_succ (daysBeforeMonth_le_succ year)

theorem daysBeforeMonth_succ (year : Int) {month : Nat} (one : 1 ≤ month) :
    daysBeforeMonth year (month + 1) = daysBeforeMonth year month + daysInMonth year month := by
  obtain ⟨before,rfl⟩ := Nat.exists_eq_add_of_le' one
  simp [daysBeforeMonth,List.range'_concat,Nat.add_comm 1]

/-- The months of a year add up to the distance to the next one. -/
theorem daysBeforeYear_succ (year : Int) :
    daysBeforeYear (year + 1) = daysBeforeYear year + daysBeforeMonth year 13 := by
  have months : daysBeforeMonth year 13 = if isLeap year then 366 else 365 := by
    cases leap : isLeap year <;> simp [daysBeforeMonth,List.range',daysInMonth,leap]
  have leap : isLeap year = true ↔ year % 4 = 0 ∧ (year % 100 ≠ 0 ∨ year % 400 = 0) := by simp [isLeap]
  rw [months,daysBeforeYear,daysBeforeYear]
  by_cases leapYear : isLeap year = true
  · rw [if_pos leapYear]
    rw [leap] at leapYear
    omega
  · rw [if_neg leapYear]
    rw [leap] at leapYear
    omega

theorem daysBeforeYear_mono : Monotone daysBeforeYear :=
  monotone_int_of_le_succ (fun year => by rw [daysBeforeYear_succ]; omega)

theorem toOrdinal_lt {first second : Date} (before : first < second) :
    first.toOrdinal < second.toOrdinal := by
  obtain ⟨one,twelve,-,days⟩ := first.valid_bounds
  have positive := second.valid_bounds.2.2.1
  have next := daysBeforeMonth_succ first.year one
  unfold toOrdinal
  rcases (lt_iff first second).mp before with years | ⟨year,months | ⟨month,day⟩⟩
  · have months : daysBeforeMonth first.year (first.month + 1) ≤ daysBeforeMonth first.year 13 :=
      daysBeforeMonth_mono first.year (Nat.succ_le_succ twelve)
    have year := daysBeforeYear_mono (Int.add_one_le_of_lt years)
    rw [daysBeforeYear_succ] at year
    omega
  · have months : daysBeforeMonth first.year (first.month + 1) ≤ daysBeforeMonth first.year second.month :=
      daysBeforeMonth_mono first.year months
    rw [← year]
    omega
  · rw [← year,← month]
    omega

theorem toOrdinal_le {first second : Date} (before : first ≤ second) :
    first.toOrdinal ≤ second.toOrdinal := by
  by_cases later : first < second
  · exact Int.le_of_lt (toOrdinal_lt later)
  · have same : first.year = second.year ∧ first.month = second.month ∧ first.day = second.day := by
      rw [le_iff] at before
      rw [lt_iff] at later
      omega
    rw [toOrdinal,toOrdinal,same.1,same.2.1,same.2.2]

end Date

end Roadmap
