import Roadmap.Base.Sql

/-! Conditions of SQL as texts. A text is a list of words; it is read by the precedence
of the operators, NOT before AND before OR, with parentheses against it. What stands in
a subquery or a comparison is one word. -/
namespace Roadmap.Sql

inductive Word (α : Type) where
  | atom (name : α)
  | and
  | or
  | not
  | opened
  | closed
  deriving DecidableEq,Repr

def Word.map {α β : Type} (f : α → β) : Word α → Word β
  | .atom name => .atom (f name)
  | .and => .and
  | .or => .or
  | .not => .not
  | .opened => .opened
  | .closed => .closed

inductive Condition (α : Type) where
  | atom (name : α)
  | and (left right : Condition α)
  | or (left right : Condition α)
  | not (condition : Condition α)
  deriving DecidableEq,Repr

variable {α ρ : Type}

namespace Condition

def eval (value : α → Truth) : Condition α → Truth
  | .atom name => value name
  | .and left right => conj (left.eval value) (right.eval value)
  | .or left right => disj (left.eval value) (right.eval value)
  | .not condition => neg (condition.eval value)

end Condition

/-! The reader of a text. -/

/-- A condition begun: the terms before the last OR, the factors since it, and the number
of NOTs before the operand that comes next. -/
structure Begun (α : Type) where
  terms : Option (Condition α)
  factors : Option (Condition α)
  negations : Nat

def Begun.start : Begun α := ⟨none,none,0⟩

def joinOr (terms : Option (Condition α)) (term : Condition α) : Condition α :=
  terms.elim term (fun before => .or before term)

def joinAnd (factors : Option (Condition α)) (factor : Condition α) : Condition α :=
  factors.elim factor (fun before => .and before factor)

/-- Between two words either an operand or an operator comes next. The conditions begun
outside the open parentheses wait in `outer`. -/
inductive Reader (α : Type) where
  | operand (outer : List (Begun α)) (current : Begun α)
  | operator (outer : List (Begun α)) (terms : Option (Condition α)) (term : Condition α)

def Reader.take (outer : List (Begun α)) (current : Begun α) (factor : Condition α) : Reader α :=
  .operator outer current.terms (joinAnd current.factors (Condition.not^[current.negations] factor))

def Reader.read : Reader α → Word α → Option (Reader α)
  | .operand outer current,.atom name => some (take outer current (.atom name))
  | .operand outer current,.not => some (.operand outer {current with negations := current.negations + 1})
  | .operand outer current,.opened => some (.operand (current :: outer) .start)
  | .operator outer terms term,.and => some (.operand outer ⟨terms,some term,0⟩)
  | .operator outer terms term,.or => some (.operand outer ⟨some (joinOr terms term),none,0⟩)
  | .operator (current :: outer) terms term,.closed => some (take outer current (joinOr terms term))
  | _,_ => none

def Reader.run (reader : Reader α) (text : List (Word α)) : Option (Reader α) :=
  text.foldlM read reader

def Reader.finish : Reader α → Option (Condition α)
  | .operator [] terms term => some (joinOr terms term)
  | _ => none

/-- The condition that a text says; `none` is a syntax error. -/
def parse (text : List (Word α)) : Option (Condition α) :=
  (Reader.run (.operand [] .start) text).bind Reader.finish

def keeps (value : ρ → α → Truth) (text : List (Word α)) (rows : List ρ) : Option (List ρ) :=
  (parse text).map (fun condition => select rows (fun row => condition.eval (value row)))

example : parse [.atom 1,.and,.atom 2,.or,.not,.atom 3] =
    some (.or (.and (.atom 1) (.atom 2)) (.not (.atom 3))) := rfl

/-! The grammar that the reader accepts. -/

inductive Level where
  | factor
  | term
  | whole

/-- A text says a condition, as the operators bind. -/
inductive Says : Level → List (Word α) → Condition α → Prop
  | atom (name : α) : Says .factor [.atom name] (.atom name)
  | not {text : List (Word α)} {condition : Condition α} (said : Says .factor text condition) :
      Says .factor (.not :: text) (.not condition)
  | parentheses {text : List (Word α)} {condition : Condition α} (said : Says .whole text condition) :
      Says .factor (.opened :: text ++ [.closed]) condition
  | factor {text : List (Word α)} {condition : Condition α} (said : Says .factor text condition) :
      Says .term text condition
  | and {first second : List (Word α)} {left right : Condition α} (before : Says .term first left)
      (after : Says .factor second right) : Says .term (first ++ .and :: second) (.and left right)
  | term {text : List (Word α)} {condition : Condition α} (said : Says .term text condition) :
      Says .whole text condition
  | or {first second : List (Word α)} {left right : Condition α} (before : Says .whole first left)
      (after : Says .term second right) : Says .whole (first ++ .or :: second) (.or left right)

namespace Reader

theorem run_append (reader : Reader α) (first second : List (Word α)) :
    reader.run (first ++ second) = (reader.run first).bind (fun later => later.run second) :=
  List.foldlM_append

theorem run_cons (reader : Reader α) (word : Word α) (text : List (Word α)) :
    reader.run (word :: text) = (reader.read word).bind (fun later => later.run text) := rfl

/-- What reading a text of each level does, from any state that awaits one. -/
def Reads : Level → List (Word α) → Condition α → Prop
  | .factor,text,condition => ∀ outer current,
      (operand outer current).run text = some (take outer current condition)
  | .term,text,condition => ∀ outer terms,
      (operand outer ⟨terms,none,0⟩).run text = some (operator outer terms condition)
  | .whole,text,condition => ∀ outer, ∃ terms term,
      (operand outer .start).run text = some (operator outer terms term) ∧ joinOr terms term = condition

theorem reads {level : Level} {text : List (Word α)} {condition : Condition α}
    (said : Says level text condition) : Reads level text condition := by
  induction said with
  | atom name => intro outer current; rfl
  | not said ih =>
    intro outer current
    rw [run_cons]
    exact ih outer {current with negations := current.negations + 1}
  | parentheses said ih =>
    intro outer current
    obtain ⟨terms,term,inside,rfl⟩ := ih (current :: outer)
    rw [List.cons_append,run_cons]
    change (operand (current :: outer) .start).run _ = _
    rw [run_append,inside]
    rfl
  | factor said ih =>
    intro outer terms
    exact ih outer ⟨terms,none,0⟩
  | @and first second left right before after ihBefore ihAfter =>
    intro outer terms
    rw [run_append,ihBefore outer terms]
    exact ihAfter outer ⟨terms,some left,0⟩
  | @term text condition said ih =>
    intro outer
    exact ⟨none,condition,ih outer none,rfl⟩
  | @or first second left right before after ihBefore ihAfter =>
    intro outer
    obtain ⟨terms,term,inside,rfl⟩ := ihBefore outer
    refine ⟨some (joinOr terms term),right,?_,rfl⟩
    rw [run_append,inside]
    exact ihAfter outer (some (joinOr terms term))

end Reader

/-- The reader finds what a text says, so no text says two conditions. -/
theorem parse_said {text : List (Word α)} {condition : Condition α} (said : Says .whole text condition) :
    parse text = some condition := by
  obtain ⟨terms,term,inside,rfl⟩ := Reader.reads said []
  rw [parse,inside]
  rfl

/-! Filters that are appended to a WHERE clause. -/

/-- A text to append: AND and a factor, any number of times. -/
inductive Narrows : List (Word α) → List (Condition α) → Prop
  | none : Narrows [] []
  | and {first second : List (Word α)} {condition : Condition α} {conditions : List (Condition α)}
      (said : Says .factor first condition) (rest : Narrows second conditions) :
      Narrows (.and :: first ++ second) (condition :: conditions)

theorem Narrows.one {text : List (Word α)} {condition : Condition α}
    (said : Says .factor text condition) : Narrows (.and :: text) [condition] := by
  simpa using Narrows.and said .none

theorem Narrows.append {first second : List (Word α)} {before after : List (Condition α)}
    (one : Narrows first before) (two : Narrows second after) :
    Narrows (first ++ second) (before ++ after) := by
  induction one with
  | none => exact two
  | and said rest ih =>
    have longer := Narrows.and said ih
    simpa using longer

theorem Narrows.appended {base text : List (Word α)} {start : Condition α} {conditions : List (Condition α)}
    (narrowed : Narrows text conditions) (said : Says .term base start) :
    Says .term (base ++ text) (conditions.foldl .and start) := by
  induction narrowed generalizing base start with
  | none => simpa using said
  | @and first second condition conditions factor rest ih =>
    have longer := ih (said.and factor)
    simpa using longer

theorem holds_narrowed (value : α → Truth) (conditions : List (Condition α)) (start : Condition α) :
    Holds ((conditions.foldl .and start).eval value) ↔
      Holds (start.eval value) ∧ ∀ condition ∈ conditions, Holds (condition.eval value) := by
  induction conditions generalizing start with
  | nil => simp
  | cons condition conditions ih =>
    have joined : Holds ((start.and condition).eval value) ↔
        Holds (start.eval value) ∧ Holds (condition.eval value) := holds_conj _ _
    rw [List.foldl_cons,ih,joined,List.forall_mem_cons,and_assoc]

/-- Appended to a WHERE clause, the text keeps the rows with a property. -/
def Filters (value : ρ → α → Truth) (text : List (Word α)) (kept : ρ → Prop) : Prop :=
  ∃ conditions, Narrows text conditions ∧
    ∀ row, (∀ condition ∈ conditions, Holds (condition.eval (value row))) ↔ kept row

namespace Filters

variable {value : ρ → α → Truth}

theorem none : Filters value [] (fun _ => True) := ⟨[],.none,by simp⟩

theorem one {text : List (Word α)} {condition : Condition α} {kept : ρ → Prop}
    (said : Says .factor text condition) (same : ∀ row, Holds (condition.eval (value row)) ↔ kept row) :
    Filters value (.and :: text) kept := ⟨[condition],.one said,by simpa using same⟩

theorem atom (name : α) : Filters value [.and,.atom name] (fun row => Holds (value row name)) :=
  one (.atom name) (fun _ => Iff.rfl)

theorem append {first second : List (Word α)} {before after : ρ → Prop}
    (one : Filters value first before) (two : Filters value second after) :
    Filters value (first ++ second) (fun row => before row ∧ after row) := by
  obtain ⟨conditions,narrowed,same⟩ := one
  obtain ⟨later,narrowedToo,sameToo⟩ := two
  refine ⟨conditions ++ later,narrowed.append narrowedToo,fun row => ?_⟩
  rw [List.forall_mem_append,same row,sameToo row]

theorem congr {text : List (Word α)} {kept same : ρ → Prop} (filters : Filters value text kept)
    (equal : ∀ row, kept row ↔ same row) : Filters value text same := by
  obtain ⟨conditions,narrowed,found⟩ := filters
  exact ⟨conditions,narrowed,fun row => (found row).trans (equal row)⟩

/-- A filter that stands in the text only where its parameter is given. -/
theorem optional {β : Type} {given : Option β} {name : α} {kept : β → ρ → Prop}
    (same : ∀ item, given = some item → ∀ row, Holds (value row name) ↔ kept item row) :
    Filters value (if given.isSome then [.and,.atom name] else []) (fun row => ∀ item ∈ given, kept item row) := by
  cases given with
  | none => exact none.congr (by simp)
  | some item =>
    refine (atom name).congr (fun row => ?_)
    simpa using same item rfl row

/-- A WHERE clause with filters appended to it keeps the rows that pass all of them: no OR in
a filter reaches past it. -/
theorem keeps {base text : List (Word α)} {start : Condition α} {kept : ρ → Prop} [DecidablePred kept]
    (filters : Filters value text kept) (said : Says .term base start) (rows : List ρ) :
    Sql.keeps value (base ++ text) rows =
      some (rows.filter (fun row => decide (Holds (start.eval (value row)) ∧ kept row))) := by
  obtain ⟨conditions,narrowed,same⟩ := filters
  rw [Sql.keeps,parse_said (narrowed.appended said).term,Option.map_some,select]
  simp only [holds_narrowed,same]

end Filters

end Roadmap.Sql
