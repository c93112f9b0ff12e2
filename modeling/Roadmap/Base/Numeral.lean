import Roadmap.Base.Text

/-! Numbers written with at least so many digits. -/
namespace Roadmap.Text

/-- `'%0{width}d' % value` -/
def zeroPadded (width value : Nat) : List Char :=
  List.replicate (width - (Nat.toDigits 10 value).length) '0' ++ Nat.toDigits 10 value

theorem ofDigitChars_zeroPadded (width value : Nat) :
    Nat.ofDigitChars 10 (zeroPadded width value) 0 = value := by
  rw [zeroPadded,Nat.ofDigitChars_append,Nat.ofDigitChars_replicate_zero,Nat.mul_zero,
    Nat.ofDigitChars_ten_toDigits]

theorem zeroPadded_inj {width first second : Nat} :
    zeroPadded width first = zeroPadded width second ↔ first = second := by
  constructor
  · intro same
    rw [← ofDigitChars_zeroPadded width first,same,ofDigitChars_zeroPadded]
  · rintro rfl
    rfl

theorem zeroPadded_isDigit (width value : Nat) : ∀ char ∈ zeroPadded width value, char.isDigit := by
  intro char member
  rcases List.mem_append.mp member with zero | digit
  · rw [List.eq_of_mem_replicate zero]
    decide
  · exact digits_isDigit value char digit

theorem length_zeroPadded {width value : Nat} (positive : 0 < width) (short : value < 10 ^ width) :
    (zeroPadded width value).length = width := by
  have digits := (Nat.length_toDigits_le_iff (by decide) positive).mpr short
  rw [zeroPadded,List.length_append,List.length_replicate]
  omega

/-- `'%0{width}d' % value` of a number that may be negative. -/
def zeroPaddedInt (width : Nat) (value : Int) : List Char :=
  if value < 0 then '-' :: zeroPadded (width - 1) value.natAbs else zeroPadded width value.natAbs

theorem head_zeroPadded (width value : Nat) : (zeroPadded width value).head? ≠ some '-' := by
  intro minus
  have digit := zeroPadded_isDigit width value '-' (List.mem_of_mem_head? minus)
  exact absurd digit (by decide)

theorem zeroPaddedInt_inj {width : Nat} {first second : Int}
    (same : zeroPaddedInt width first = zeroPaddedInt width second) : first = second := by
  unfold zeroPaddedInt at same
  split at same
  next negative =>
    split at same
    next other =>
      have digits := zeroPadded_inj.mp (List.cons.inj same).2
      omega
    next => exact absurd (congrArg List.head? same).symm (head_zeroPadded _ _)
  next positive =>
    split at same
    next => exact absurd (congrArg List.head? same) (head_zeroPadded _ _)
    next other =>
      have digits := zeroPadded_inj.mp same
      omega

theorem not_mem_zeroPaddedInt {char : Char} (minus : char ≠ '-') (digit : char.isDigit = false) (width : Nat)
    (value : Int) : char ∉ zeroPaddedInt width value := by
  have absent : ∀ width value, char ∉ zeroPadded width value := by
    intro width value member
    simp [zeroPadded_isDigit width value char member] at digit
  unfold zeroPaddedInt
  split
  · simp [minus,absent]
  · exact absent width _

end Roadmap.Text
