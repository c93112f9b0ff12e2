import Mathlib
import Roadmap.Base.Text

/-! Conditions and queries of SQL as functions on rows. NULL is `none`; a WHERE
clause keeps a row only when its condition is true, so unknown and false drop it. -/
namespace Roadmap.Sql

abbrev Truth := Option Bool

def Holds (condition : Truth) : Prop := condition = some true

instance (condition : Truth) : Decidable (Holds condition) :=
  inferInstanceAs (Decidable (condition = some true))

def conj : Truth → Truth → Truth
  | some false,_ => some false
  | _,some false => some false
  | some true,some true => some true
  | _,_ => none

def disj : Truth → Truth → Truth
  | some true,_ => some true
  | _,some true => some true
  | some false,some false => some false
  | _,_ => none

def neg (condition : Truth) : Truth := condition.map (!·)

def equals {α : Type} [DecidableEq α] : Option α → Option α → Truth
  | some left,some right => some (decide (left = right))
  | _,_ => none

def isNull {α : Type} (value : Option α) : Truth := some value.isNone

def isNotNull {α : Type} (value : Option α) : Truth := some value.isSome

/-- `value = ANY(array)`. Only the elements of the array matter, not their order:
a NULL element leaves the comparison unknown where no element is equal. -/
def equalsAny {α : Type} [DecidableEq α] (value : Option α) (array : Finset (Option α)) : Truth :=
  if array = ∅ then some false
  else if value = none then none
  else if value ∈ array then some true
  else if none ∈ array then none
  else some false

def existsIn {α : Type} (rows : List α) (condition : α → Truth) : Truth :=
  some (rows.any (fun row => decide (Holds (condition row))))

def select {α : Type} (rows : List α) (condition : α → Truth) : List α :=
  rows.filter (fun row => decide (Holds (condition row)))

@[simp] theorem holds_some (value : Bool) : Holds (some value) ↔ value = true := by
  simp [Holds]

@[simp] theorem not_holds_none : ¬ Holds none := by
  simp [Holds]

@[simp] theorem holds_conj (left right : Truth) :
    Holds (conj left right) ↔ Holds left ∧ Holds right := by
  rcases left with _ | _ | _ <;> rcases right with _ | _ | _ <;> simp [conj,Holds]

@[simp] theorem holds_disj (left right : Truth) :
    Holds (disj left right) ↔ Holds left ∨ Holds right := by
  rcases left with _ | _ | _ <;> rcases right with _ | _ | _ <;> simp [disj,Holds]

@[simp] theorem holds_equals {α : Type} [DecidableEq α] (left right : Option α) :
    Holds (equals left right) ↔ ∃ value, left = some value ∧ right = some value := by
  cases left <;> cases right <;> simp [equals,Holds,eq_comm]

@[simp] theorem holds_isNull {α : Type} (value : Option α) :
    Holds (isNull value) ↔ value = none := by
  simp [isNull,Holds]

@[simp] theorem holds_isNotNull {α : Type} (value : Option α) :
    Holds (isNotNull value) ↔ value ≠ none := by
  cases value <;> simp [isNotNull,Holds]

@[simp] theorem holds_equalsAny {α : Type} [DecidableEq α] (value : Option α)
    (array : Finset (Option α)) :
    Holds (equalsAny value array) ↔ ∃ item, value = some item ∧ some item ∈ array := by
  cases value with
  | none => by_cases empty : array = ∅ <;> simp [equalsAny,Holds,empty]
  | some item =>
    by_cases member : some item ∈ array
    · have nonempty : array ≠ ∅ := Finset.ne_empty_of_mem member
      simp [equalsAny,Holds,nonempty,member]
    · by_cases empty : array = ∅ <;> by_cases unknown : none ∈ array <;>
        simp [equalsAny,Holds,empty,unknown,member]

@[simp] theorem holds_existsIn {α : Type} (rows : List α) (condition : α → Truth) :
    Holds (existsIn rows condition) ↔ ∃ row ∈ rows, Holds (condition row) := by
  simp [existsIn]

/-- EXISTS is never NULL, so its negation is two-valued. -/
@[simp] theorem holds_neg_existsIn {α : Type} (rows : List α) (condition : α → Truth) :
    Holds (neg (existsIn rows condition)) ↔ ¬ ∃ row ∈ rows, Holds (condition row) := by
  simp [neg,existsIn]

@[simp] theorem mem_select {α : Type} (rows : List α) (condition : α → Truth) (row : α) :
    row ∈ select rows condition ↔ row ∈ rows ∧ Holds (condition row) := by
  simp [select]

theorem select_filter {α : Type} {rows : List α} {narrow wide : α → Truth} {kept : α → Bool}
    (same : ∀ row ∈ rows, Holds (narrow row) ↔ Holds (wide row) ∧ kept row = true) :
    select rows narrow = (select rows wide).filter kept := by
  rw [select,select,List.filter_filter]
  refine List.filter_congr (fun row member => ?_)
  rw [Bool.eq_iff_iff]
  simp [same row member,and_comm]

/-! ORDER BY, LIMIT and OFFSET. -/

/-- What a database's collation decides about texts: the order of ORDER BY and
the case folding of ILIKE. -/
structure Collation where
  le : String → String → Bool
  fold : Char → Char

def page {α : Type} (offset limit : Nat) (rows : List α) : List α :=
  (rows.drop offset).take limit

theorem pages_take {α : Type} (limit count : Nat) (rows : List α) :
    (List.range count).flatMap (fun k => page (k * limit) limit rows) = rows.take (count * limit) := by
  induction count with
  | zero => simp
  | succ count ih =>
    rw [List.range_succ,List.flatMap_append,ih,Nat.succ_mul,List.take_add]
    simp [page]

/-- The pages at offsets 0, limit, 2·limit, … list every row once, in order. -/
theorem pages_all {α : Type} (limit count : Nat) (rows : List α)
    (enough : rows.length ≤ count * limit) :
    (List.range count).flatMap (fun k => page (k * limit) limit rows) = rows := by
  rw [pages_take,List.take_of_length_le enough]

/-! LIKE patterns and casts. -/

inductive LikeToken where
  | anyText
  | anyChar
  | literal (char : Char)
  deriving DecidableEq,Repr

/-- Reads a LIKE pattern with backslash as the escape character; a pattern that
ends in the escape character is an error. -/
def likeTokens : List Char → Option (List LikeToken)
  | [] => some []
  | '%' :: rest => (likeTokens rest).map (.anyText :: ·)
  | '_' :: rest => (likeTokens rest).map (.anyChar :: ·)
  | ['\\'] => none
  | '\\' :: char :: rest => (likeTokens rest).map (.literal char :: ·)
  | char :: rest => (likeTokens rest).map (.literal char :: ·)

def likeMatch (fold : Char → Char) : List LikeToken → List Char → Bool
  | [],text => text.isEmpty
  | .anyText :: tokens,text => text.tails.any (likeMatch fold tokens)
  | .anyChar :: tokens,text => match text with
    | [] => false
    | _ :: rest => likeMatch fold tokens rest
  | .literal char :: tokens,text => match text with
    | [] => false
    | head :: rest => fold head == fold char && likeMatch fold tokens rest

def ilike (collation : Collation) (text pattern : String) : Truth :=
  (likeTokens pattern.toList).map (fun tokens => likeMatch collation.fold tokens text.toList)

/-! Patterns built from a text whose own wildcards are escaped. -/

def likeEscaped (char : Char) : List Char := if char ∈ ['\\','%','_'] then ['\\',char] else [char]

theorem likeTokens_escaped (text rest : List Char) :
    likeTokens (text.flatMap likeEscaped ++ rest) =
      (likeTokens rest).map (text.map LikeToken.literal ++ ·) := by
  induction text with
  | nil => simp
  | cons char text ih =>
    rw [List.flatMap_cons,List.append_assoc]
    by_cases special : char ∈ ['\\','%','_']
    · simp [likeEscaped,special,likeTokens,ih,Function.comp_def]
    · simp only [List.mem_cons,List.not_mem_nil,or_false,not_or] at special
      simp [likeEscaped,special,likeTokens,ih,Function.comp_def]

theorem likeMatch_literals (fold : Char → Char) (text : List Char) (tokens : List LikeToken)
    (value : List Char) : likeMatch fold (text.map LikeToken.literal ++ tokens) value = true ↔
      ∃ found rest, value = found ++ rest ∧ found.map fold = text.map fold ∧
        likeMatch fold tokens rest = true := by
  induction text generalizing value with
  | nil => simp
  | cons char text ih =>
    cases value with
    | nil => simp [likeMatch]
    | cons head value =>
      simp only [List.map_cons,List.cons_append,likeMatch,Bool.and_eq_true,beq_iff_eq,ih]
      constructor
      · rintro ⟨same,found,rest,rfl,folded,matched⟩
        exact ⟨head :: found,rest,rfl,by rw [List.map_cons,same,folded],matched⟩
      · rintro ⟨found,rest,split,folded,matched⟩
        cases found with
        | nil => simp at folded
        | cons first found =>
          simp only [List.cons_append,List.cons.injEq] at split
          simp only [List.map_cons,List.cons.injEq] at folded
          obtain ⟨rfl,rfl⟩ := split
          exact ⟨folded.1,found,rest,rfl,folded.2,matched⟩

theorem likeMatch_anyText (fold : Char → Char) (tokens : List LikeToken) (value : List Char) :
    likeMatch fold (.anyText :: tokens) value = true ↔
      ∃ before rest, value = before ++ rest ∧ likeMatch fold tokens rest = true := by
  simp only [likeMatch,List.any_eq_true,List.mem_tails]
  constructor
  · rintro ⟨rest,⟨before,rfl⟩,matched⟩
    exact ⟨before,rest,rfl,matched⟩
  · rintro ⟨before,rest,rfl,matched⟩
    exact ⟨rest,List.suffix_append before rest,matched⟩

/-- `%` around an escaped text: the texts that contain it, up to case. -/
theorem holds_ilike_contains (collation : Collation) (value : String) (text : List Char) :
    Holds (ilike collation value (.ofList ('%' :: (text.flatMap likeEscaped ++ ['%'])))) ↔
      text.map collation.fold <:+: value.toList.map collation.fold := by
  have tokens : likeTokens ('%' :: (text.flatMap likeEscaped ++ ['%'])) =
      some (.anyText :: (text.map LikeToken.literal ++ [.anyText])) := by
    simp [likeTokens,likeTokens_escaped]
  have all : ∀ rest, likeMatch collation.fold [.anyText] rest = true :=
    fun rest => (likeMatch_anyText _ [] rest).mpr ⟨rest,[],by simp,rfl⟩
  rw [ilike,String.toList_ofList,tokens,Option.map_some,holds_some,likeMatch_anyText]
  simp only [likeMatch_literals,all,and_true]
  constructor
  · rintro ⟨before,_,split,found,rest,rfl,folded⟩
    refine ⟨before.map collation.fold,rest.map collation.fold,?_⟩
    rw [split,List.map_append,List.map_append,folded,List.append_assoc]
  · rintro ⟨before,rest,joined⟩
    obtain ⟨front,back,split,same,tail⟩ := List.map_eq_append_iff.mp joined.symm
    obtain ⟨first,found,rfl,rfl,folded⟩ := List.map_eq_append_iff.mp same
    exact ⟨first,found ++ back,by rw [split,List.append_assoc],found,back,rfl,folded⟩

def splitPart (text : String) (delimiter : Char) (field : Nat) : String :=
  String.ofList (((text.toList.splitOn delimiter)[field - 1]?).getD [])

def int4Range (value : Int) : Prop := -2 ^ 31 ≤ value ∧ value < 2 ^ 31

instance (value : Int) : Decidable (int4Range value) :=
  inferInstanceAs (Decidable (_ ∧ _))

private def isPadding (char : Char) : Bool := char ∈ [' ','\t','\n','\x0b','\x0c','\r']

private def unsigned (digits : List Char) : Option Nat :=
  if digits ≠ [] ∧ digits.all Char.isDigit then some (Nat.ofDigitChars 10 digits 0) else none

/-- The cast `text::int`; `none` is the error that fails the statement. -/
def int4OfText (text : String) : Option Int := do
  let trimmed := ((text.toList.dropWhile isPadding).reverse.dropWhile isPadding).reverse
  let value ← match trimmed with
    | '-' :: digits => (unsigned digits).map (fun value : Nat => -(value : Int))
    | '+' :: digits => (unsigned digits).map Int.ofNat
    | digits => (unsigned digits).map Int.ofNat
  if int4Range value then some value else none

private theorem unpadded (text : List Char) (all : ∀ char ∈ text, isPadding char = false) :
    ((text.dropWhile isPadding).reverse.dropWhile isPadding).reverse = text := by
  have unchanged : ∀ chars : List Char, (∀ char ∈ chars, isPadding char = false) →
      chars.dropWhile isPadding = chars := by
    intro chars free
    cases chars with
    | nil => rfl
    | cons char rest => simp [free char (by simp)]
  rw [unchanged text all,unchanged text.reverse (by simpa using all),List.reverse_reverse]

private theorem digit_not_padding {char : Char} (digit : char.isDigit) : isPadding char = false := by
  simp only [isPadding,decide_eq_false_iff_not,List.mem_cons,List.not_mem_nil,or_false]
  rintro (rfl | rfl | rfl | rfl | rfl | rfl) <;> simp at digit

private theorem unsigned_toDigits (value : Nat) :
    unsigned (Nat.toDigits 10 value) = some value := by
  have digits := Text.digits_isDigit value
  simp [unsigned,Nat.toDigits_ne_nil,List.all_eq_true.mpr digits]

/-- Casting the decimal text of an integer gives it back exactly when it fits. -/
theorem int4OfText_toString (value : Int) :
    int4OfText (toString value) = if int4Range value then some value else none := by
  have digits := Text.digits_isDigit value.natAbs
  have number := unsigned_toDigits value.natAbs
  have plain : ∀ char ∈ (toString value).toList, isPadding char = false := by
    intro char member
    rw [Text.toList_toString] at member
    by_cases minus : char = '-'
    · subst minus; decide
    · split at member
      · exact digit_not_padding (digits _ ((List.mem_cons.mp member).resolve_left minus))
      · exact digit_not_padding (digits _ member)
  rw [int4OfText,unpadded _ plain,Text.toList_toString]
  by_cases negative : value < 0
  · have absolute : -(value.natAbs : Int) = value := by omega
    simp only [negative,if_true,number,Option.map_some,absolute,bind,Option.bind]
  · have absolute : Int.ofNat value.natAbs = value := by simp; omega
    simp only [negative,if_false]
    split
    next rest same => simpa using digits '-' (by simp [same])
    next rest same => simpa using digits '+' (by simp [same])
    next => simp only [number,Option.map_some,absolute,bind,Option.bind]

end Roadmap.Sql
