import Mathlib
import Std.Data.String.ToInt

/-! Texts as Python reads them: splitting at separators, `int()` on a text and the
decimal text of an integer. Texts are handled as lists of code points. -/
namespace Roadmap.Text

/-- `text.partition(separator)` without the separator itself; `none` where it does
not occur. -/
def partition (separator : Char) (text : List Char) : Option (List Char × List Char) :=
  if separator ∈ text then
    some (text.takeWhile (· != separator),(text.dropWhile (· != separator)).drop 1)
  else none

/-- The parts before and after the last occurrence of the separator. -/
def rpartition (separator : Char) (text : List Char) : Option (List Char × List Char) :=
  (partition separator text.reverse).map (fun parts => (parts.2.reverse,parts.1.reverse))

theorem partition_append {separator : Char} {before : List Char} (absent : separator ∉ before)
    (after : List Char) : partition separator (before ++ separator :: after) = some (before,after) := by
  have plain : ∀ char ∈ before, (char != separator) = true := by
    intro char member
    exact bne_iff_ne.mpr (fun same => absent (same ▸ member))
  rw [partition,if_pos (by simp),List.takeWhile_append_of_pos plain,List.dropWhile_append_of_pos plain]
  simp

theorem append_separator_inj {separator : Char} {before after other another : List Char}
    (absent : separator ∉ before) (otherAbsent : separator ∉ other)
    (same : before ++ separator :: after = other ++ separator :: another) : before = other ∧ after = another := by
  have parts := congrArg (partition separator) same
  rw [partition_append absent,partition_append otherAbsent] at parts
  exact Prod.mk.inj (Option.some.inj parts)

theorem partition_absent {separator : Char} {text : List Char} (absent : separator ∉ text) :
    partition separator text = none := if_neg absent

theorem rpartition_append {separator : Char} {after : List Char} (absent : separator ∉ after)
    (before : List Char) : rpartition separator (before ++ separator :: after) = some (before,after) := by
  have reversed : (before ++ separator :: after).reverse =
      after.reverse ++ separator :: before.reverse := by simp
  rw [rpartition,reversed,partition_append (by simpa using absent)]
  simp

theorem partition_eq_some {separator : Char} {text before after : List Char} :
    partition separator text = some (before,after) ↔
      text = before ++ separator :: after ∧ separator ∉ before := by
  constructor
  · intro found
    by_cases member : separator ∈ text
    · obtain ⟨start,rest,rfl,absent⟩ := List.eq_append_cons_of_mem member
      rw [partition_append absent] at found
      cases found
      exact ⟨rfl,absent⟩
    · rw [partition_absent member] at found
      contradiction
  · rintro ⟨rfl,absent⟩
    exact partition_append absent after

theorem rpartition_eq_some {separator : Char} {text before after : List Char} :
    rpartition separator text = some (before,after) ↔
      text = before ++ separator :: after ∧ separator ∉ after := by
  constructor
  · intro found
    obtain ⟨⟨start,rest⟩,split,same⟩ := Option.map_eq_some_iff.mp found
    obtain ⟨reversed,absent⟩ := partition_eq_some.mp split
    cases same
    refine ⟨?_,by simpa using absent⟩
    rw [← List.reverse_reverse text,reversed]
    simp
  · rintro ⟨rfl,absent⟩
    exact rpartition_append absent before

theorem length_splitOn_eq_one {separator : Char} {text : List Char} :
    (text.splitOn separator).length = 1 ↔ separator ∉ text := by
  constructor
  · intro single member
    obtain ⟨before,after,rfl,-⟩ := List.eq_append_cons_of_mem member
    rw [List.splitOn_append_cons_self,List.length_append] at single
    have first := List.length_pos_of_ne_nil (List.splitOn_ne_nil separator before)
    have second := List.length_pos_of_ne_nil (List.splitOn_ne_nil separator after)
    omega
  · intro absent
    rw [List.splitOn_eq_singleton absent,List.length_singleton]

def rstrip (chars : List Char) (text : List Char) : List Char :=
  (text.reverse.dropWhile (· ∈ chars)).reverse

def strip (chars : List Char) (text : List Char) : List Char :=
  rstrip chars (text.dropWhile (· ∈ chars))

def replaceChar (old : Char) (new : List Char) (text : List Char) : List Char :=
  text.flatMap (fun char => if char = old then new else [char])

private def replaceFrom (needle new : List Char) : Nat → List Char → List Char
  | _,[] => []
  | skip + 1,_ :: rest => replaceFrom needle new skip rest
  | 0,char :: rest =>
    if needle.isPrefixOf (char :: rest) then new ++ replaceFrom needle new (needle.length - 1) rest
    else char :: replaceFrom needle new 0 rest

/-- `text.replace(needle, new)` of a needle that is not empty. -/
def replace (needle new : String) (text : List Char) : List Char :=
  replaceFrom needle.toList new.toList 0 text

def contains (needle text : String) : Bool := decide (needle.toList <:+: text.toList)

/-! `int()` on a text. -/

private def inRuns (runs : List (Nat × Nat)) (char : Char) : Bool :=
  runs.any (fun run => decide (run.1 ≤ char.toNat ∧ char.toNat ≤ run.2))

def isSpace : Char → Bool := inRuns [(0x09,0x0d),(0x1c,0x20),(0x85,0x85),(0xa0,0xa0),(0x1680,0x1680),
  (0x2000,0x200a),(0x2028,0x2029),(0x202f,0x202f),(0x205f,0x205f),(0x3000,0x3000)]

/-- The code points of the zeros of Unicode; the nine after each are its other
decimal digits. -/
def decimalZeros : List Nat := [48,1632,1776,1984,2406,2534,2662,2790,2918,3046,3174,3302,3430,
  3558,3664,3792,3872,4160,4240,6112,6160,6470,6608,6784,6800,6992,7088,7232,7248,42528,43216,
  43264,43472,43504,43600,44016,65296,66720,68912,69734,69872,69942,70096,70384,70736,70864,71248,
  71360,71472,71904,72016,72784,73040,73120,73552,92768,92864,93008,120782,120792,120802,120812,
  120822,123200,123632,124144,125264,130032]

def decimalValue (char : Char) : Option Nat :=
  (decimalZeros.find? (fun start => decide (start ≤ char.toNat ∧ char.toNat ≤ start + 9))).map
    (char.toNat - ·)

/-- `str.isdigit` of a single character: the decimal digits, the superscripts and
the circled and parenthesized digits. -/
def isDigit (char : Char) : Bool :=
  (decimalValue char).isSome || inRuns [(178,179),(185,185),(4969,4977),(6618,6618),(8304,8304),
    (8308,8313),(8320,8329),(9312,9320),(9332,9340),(9352,9360),(9450,9450),(9461,9469),(9471,9471),
    (10102,10110),(10112,10120),(10122,10130),(68160,68163),(69216,69224),(69714,69722),
    (127232,127242)] char

/-- Outside ASCII, `int()` reads any white space as a blank and any decimal digit
as the ASCII digit of its value. -/
def asciiOf (char : Char) : Char :=
  if char.toNat < 127 then char
  else if isSpace char then ' '
  else match decimalValue char with
    | some value => Char.ofNat (48 + value)
    | none => '?'

def asciiBlanks : List Char := [' ','\t','\n','\x0b','\x0c','\r']

def digitValue (base : Nat) (char : Char) : Option Nat :=
  let value := if char.isDigit then char.toNat - 48
    else if 'a' ≤ char ∧ char ≤ 'z' then char.toNat - 87
    else if 'A' ≤ char ∧ char ≤ 'Z' then char.toNat - 55
    else base
  if value < base then some value else none

def digitRun (base : Nat) (text : List Char) : Option (List Nat) :=
  let groups := text.splitOn '_'
  if groups.all (· ≠ []) then groups.flatten.mapM (digitValue base) else none

/-- The prefix `0x` (and one underscore after it) that base 16 allows. -/
def dropBasePrefix (base : Nat) : List Char → List Char
  | '0' :: mark :: rest =>
    if base = 16 ∧ (mark = 'x' ∨ mark = 'X') then (if rest.head? = some '_' then rest.drop 1 else rest)
    else '0' :: mark :: rest
  | text => text

/-- `sys.int_info.default_max_str_digits`. -/
def maxDigits : Nat := 4300

def natOf (base : Nat) (text : List Char) : Option Nat := do
  let digits ← digitRun base (dropBasePrefix base text)
  -- The limit on the number of digits spares the bases that are powers of two.
  if base = 10 ∧ maxDigits < digits.length then none
  else some (digits.foldl (fun value digit => base * value + digit) 0)

/-- `int(text, base)`; `none` is ValueError. -/
def intOf (base : Nat) (text : List Char) : Option Int :=
  match strip asciiBlanks (text.map asciiOf) with
  | '-' :: rest => (natOf base rest).map (fun value : Nat => -(value : Int))
  | '+' :: rest => (natOf base rest).map Int.ofNat
  | rest => (natOf base rest).map Int.ofNat

/-! The decimal text of an integer. -/

theorem toList_toString (value : Int) : (toString value).toList =
    if value < 0 then '-' :: Nat.toDigits 10 value.natAbs else Nat.toDigits 10 value.natAbs := by
  rw [Int.toString_eq_repr,Int.repr_eq_if]
  by_cases negative : value < 0
  · have size : (-value).toNat = value.natAbs := by omega
    rw [if_neg (by omega),if_pos negative,size]
    simp [Nat.toList_repr]
  · have size : value.toNat = value.natAbs := by omega
    rw [if_pos (by omega),if_neg negative,size,Nat.toList_repr]

theorem digits_isDigit (value : Nat) : ∀ char ∈ Nat.toDigits 10 value, char.isDigit :=
  fun _ member => Nat.isDigit_of_mem_toDigits (by decide) (by decide) member

theorem toString_inj {left right : Int} : toString left = toString right ↔ left = right := by
  simp only [Int.toString_eq_repr,Int.repr_inj]

theorem not_mem_toString (char : Char) (minus : char ≠ '-') (digit : char.isDigit = false)
    (value : Int) : char ∉ (toString value).toList := by
  rw [toList_toString]
  intro member
  have inside : char ∈ Nat.toDigits 10 value.natAbs := by
    split at member
    · exact (List.mem_cons.mp member).resolve_left minus
    · exact member
  simp [digits_isDigit _ _ inside] at digit

end Roadmap.Text
