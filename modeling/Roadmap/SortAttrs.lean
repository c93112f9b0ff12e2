import Roadmap.AppStreams.Relevant
import Roadmap.Base.ComparisonSort

/-! The sort keys of `sort_attrs`. Missing values become the numbers -2 and -1, which a text
cannot be compared with. -/
namespace Roadmap

inductive AttrValue where
  | none
  | int (value : Int)
  | text (value : String)
  deriving DecidableEq

inductive KeyPart where
  | int (value : Int)
  | text (value : String)
  deriving DecidableEq

namespace KeyPart

def ofValue : AttrValue → KeyPart
  | .none => .int (-2)
  | .int value => .int value
  | .text value => if value = "" then .int (-1) else .text value

/-- `first < second` -/
def less : KeyPart → KeyPart → Except PyError Bool
  | .int first,.int second => .ok (first < second)
  | .text first,.text second => .ok (first < second)
  | _,_ => .error .typeError

/-- `first < second` of tuples: the first members that differ decide. -/
def tupleLess : List KeyPart → List KeyPart → Except PyError Bool
  | first :: rest,second :: others => if first = second then tupleLess rest others else first.less second
  | [],_ :: _ => .ok true
  | _,[] => .ok false

end KeyPart

section Keys

variable {α : Type}

/-- The tuple of `sort_attrs(attr, *attrs)`. -/
def sortAttrs (attrs : List (α → AttrValue)) (item : α) : List KeyPart :=
  attrs.map (fun attr => KeyPart.ofValue (attr item))

def keyLess (attrs : List (α → AttrValue)) (first second : α) : Except PyError Bool :=
  KeyPart.tupleLess (sortAttrs attrs first) (sortAttrs attrs second)

/-- `sorted(items, key=sort_attrs(...))` -/
def sortedWithAttrs (sort : ComparisonSort) (attrs : List (α → AttrValue)) (items : List α) :
    Except PyError (List α) :=
  sort.sorted (keyLess attrs) items

/-! The order that the keys are to give: None, then the empty text, then all other values. -/

namespace AttrValue

def rank : AttrValue → Nat ×ₗ (Int ⊕ₗ String)
  | .none => toLex (0,toLex (Sum.inl 0))
  | .int value => toLex (2,toLex (Sum.inl value))
  | .text value => if value = "" then toLex (1,toLex (Sum.inl 0)) else toLex (2,toLex (Sum.inr value))

def missing (value : AttrValue) : Prop := value = .none ∨ value = .text ""

end AttrValue

def ranks (attrs : List (α → AttrValue)) (item : α) : List (Nat ×ₗ (Int ⊕ₗ String)) :=
  attrs.map (fun attr => (attr item).rank)

/-- None, the empty text, and apart from these non-negative numbers only or texts only. -/
def OfOneKind (attr : α → AttrValue) (items : List α) : Prop :=
  (∀ item ∈ items, (attr item).missing ∨ ∃ value, 0 ≤ value ∧ attr item = .int value) ∨
    ∀ item ∈ items, (attr item).missing ∨ ∃ value, value ≠ "" ∧ attr item = .text value

/-- Two items that are alike up to an attribute of which one has no value and the other a text. -/
def Clash (attrs : List (α → AttrValue)) (first second : α) : Prop :=
  ∃ earlier attr later, attrs = earlier ++ attr :: later ∧ (∀ other ∈ earlier, other first = other second) ∧
    (attr first).missing ∧ ∃ value, value ≠ "" ∧ attr second = .text value

end Keys

/-! Comparisons of keys under an order of their members. -/

section Places

variable {κ : Type} [LinearOrder κ] {place : KeyPart → κ}

theorem lists_lt (firsts seconds : List κ) : (!decide (seconds ≤ firsts)) = decide (firsts < seconds) := by
  rw [← decide_not]
  exact decide_eq_decide.mpr not_le

/-- The order of the members says what their comparison says, where it says anything. -/
structure Extends (place : KeyPart → κ) : Prop where
  injective : Function.Injective place
  agrees : ∀ first second below, KeyPart.less first second = .ok below → decide (place first < place second) = below

theorem Extends.tuples (extending : Extends place) (firsts seconds : List KeyPart) {below : Bool}
    (compared : KeyPart.tupleLess firsts seconds = .ok below) :
    decide (firsts.map place < seconds.map place) = below := by
  induction firsts generalizing seconds with
  | nil =>
    cases seconds with
    | nil => simpa [KeyPart.tupleLess] using compared
    | cons second others => simpa [KeyPart.tupleLess] using compared
  | cons first rest ih =>
    cases seconds with
    | nil => simpa [KeyPart.tupleLess] using compared
    | cons second others =>
      rw [KeyPart.tupleLess] at compared
      by_cases same : first = second
      · subst same
        rw [if_pos rfl] at compared
        simpa [List.cons_lt_cons_iff] using ih others compared
      · rw [if_neg same] at compared
        have apart : place first ≠ place second := fun equal => same (extending.injective equal)
        simpa [List.cons_lt_cons_iff,apart] using extending.agrees first second below compared

theorem map_lt_append {front rest others : List KeyPart} {first second : KeyPart} (below : place first < place second) :
    (front ++ first :: rest).map place < (front ++ second :: others).map place := by
  induction front with
  | nil => simp [List.cons_lt_cons_iff,below]
  | cons head front ih => simpa [List.cons_lt_cons_iff] using ih

end Places

def numbersFirst : KeyPart → Int ⊕ₗ String
  | .int value => toLex (Sum.inl value)
  | .text value => toLex (Sum.inr value)

def textsFirst : KeyPart → String ⊕ₗ Int
  | .int value => toLex (Sum.inr value)
  | .text value => toLex (Sum.inl value)

theorem extends_numbersFirst : Extends numbersFirst where
  injective := by
    rintro (_ | _) (_ | _) same <;> simp_all [numbersFirst]
  agrees := by
    rintro (_ | _) (_ | _) below compared <;> simp_all [numbersFirst,KeyPart.less]

theorem extends_textsFirst : Extends textsFirst where
  injective := by
    rintro (_ | _) (_ | _) same <;> simp_all [textsFirst]
  agrees := by
    rintro (_ | _) (_ | _) below compared <;> simp_all [textsFirst,KeyPart.less]

section Comparable

open KeyPart AttrValue

def SameKind (first second : AttrValue) : Prop :=
  ((first.missing ∨ ∃ value, 0 ≤ value ∧ first = .int value) ∧
    (second.missing ∨ ∃ value, 0 ≤ value ∧ second = .int value)) ∨
  ((first.missing ∨ ∃ value, value ≠ "" ∧ first = .text value) ∧
    (second.missing ∨ ∃ value, value ≠ "" ∧ second = .text value))

/-- Different values of one kind that are compared at all are compared by rank. -/
theorem less_of_sameKind {first second : AttrValue} (kind : SameKind first second) (apart : first ≠ second)
    (plain : ¬ (first.missing ∧ ∃ value, value ≠ "" ∧ second = .text value))
    (back : ¬ (second.missing ∧ ∃ value, value ≠ "" ∧ first = .text value)) :
    ofValue first ≠ ofValue second ∧ first.rank ≠ second.rank ∧
      (ofValue first).less (ofValue second) = .ok (decide (first.rank < second.rank)) := by
  rcases kind with ⟨one,other⟩ | ⟨one,other⟩
  · rcases one with (rfl | rfl) | ⟨value,positive,rfl⟩ <;> rcases other with (rfl | rfl) | ⟨another,above,rfl⟩ <;>
      simp_all [ofValue,less,rank,Prod.Lex.toLex_lt_toLex] <;> omega
  · rcases one with (rfl | rfl) | ⟨value,full,rfl⟩ <;> rcases other with (rfl | rfl) | ⟨another,filled,rfl⟩ <;>
      simp_all [ofValue,less,rank,missing,Prod.Lex.toLex_lt_toLex]

variable {α : Type}

theorem keyLess_of_no_clash {attrs : List (α → AttrValue)} {first second : α}
    (kinds : ∀ attr ∈ attrs, SameKind (attr first) (attr second)) (plain : ¬ Clash attrs first second)
    (back : ¬ Clash attrs second first) :
    keyLess attrs first second = .ok (decide (ranks attrs first < ranks attrs second)) := by
  induction attrs with
  | nil => simp [keyLess,sortAttrs,tupleLess,ranks]
  | cons attr rest ih =>
    obtain ⟨kind,kinds⟩ := List.forall_mem_cons.mp kinds
    by_cases same : attr first = attr second
    · have further : ∀ {one other : α}, attr one = attr other → Clash rest one other →
          Clash (attr :: rest) one other := by
        rintro one other equal ⟨earlier,here,later,rfl,alike,clash⟩
        exact ⟨attr :: earlier,here,later,rfl,List.forall_mem_cons.mpr ⟨equal,alike⟩,clash⟩
      have compared := ih kinds (fun clash => plain (further same clash))
        (fun clash => back (further same.symm clash))
      have keys : keyLess (attr :: rest) first second = keyLess rest first second := by
        simp [keyLess,sortAttrs,tupleLess,same]
      have lists : ranks (attr :: rest) first < ranks (attr :: rest) second ↔ ranks rest first < ranks rest second := by
        simp [ranks,same]
      rw [keys,compared,decide_eq_decide.mpr lists]
    · have here : ∀ {one other : α}, ((attr one).missing ∧ ∃ value, value ≠ "" ∧ attr other = .text value) →
          Clash (attr :: rest) one other :=
        fun clash => ⟨[],attr,rest,rfl,by simp,clash⟩
      obtain ⟨apart,ranked,compared⟩ := less_of_sameKind kind same (fun clash => plain (here clash))
        (fun clash => back (here clash))
      have keys : keyLess (attr :: rest) first second = (ofValue (attr first)).less (ofValue (attr second)) := by
        simp [keyLess,sortAttrs,tupleLess,apart]
      have lists : ranks (attr :: rest) first < ranks (attr :: rest) second ↔
          (attr first).rank < (attr second).rank := by
        simp [ranks,ranked,List.cons_lt_cons_iff]
      rw [keys,compared,decide_eq_decide.mpr lists]

/-- A clash can be decided either way. -/
theorem clash_both_ways {attrs : List (α → AttrValue)} {first second : α} (clash : Clash attrs first second) :
    (sortAttrs attrs first).map numbersFirst < (sortAttrs attrs second).map numbersFirst ∧
      (sortAttrs attrs second).map textsFirst < (sortAttrs attrs first).map textsFirst := by
  obtain ⟨earlier,attr,later,rfl,alike,missing,value,full,shown⟩ := clash
  have front : sortAttrs earlier first = sortAttrs earlier second :=
    List.map_congr_left (fun other member => by rw [alike other member])
  have number : ∃ number, ofValue (attr first) = .int number := by
    rcases missing with absent | empty
    · exact ⟨-2,by rw [absent]; rfl⟩
    · exact ⟨-1,by rw [empty]; rfl⟩
  obtain ⟨number,read⟩ := number
  have text : ofValue (attr second) = .text value := by rw [shown,ofValue,if_neg full]
  have split : ∀ item, sortAttrs (earlier ++ attr :: later) item =
      sortAttrs earlier item ++ ofValue (attr item) :: sortAttrs later item := by
    intro item
    simp [sortAttrs]
  rw [split,split,front,read,text]
  exact ⟨map_lt_append (by simp [numbersFirst]),map_lt_append (by simp [textsFirst])⟩

section Sorting

variable (sort : ComparisonSort) {attrs : List (α → AttrValue)} {items : List α}

theorem sameKind_of_oneKind {attr : α → AttrValue} (kind : OfOneKind attr items) {first second : α}
    (inFirst : first ∈ items) (inSecond : second ∈ items) : SameKind (attr first) (attr second) :=
  kind.imp (fun numbers => ⟨numbers first inFirst,numbers second inSecond⟩)
    (fun texts => ⟨texts first inFirst,texts second inSecond⟩)

theorem sorted_of_no_clash (kinds : ∀ attr ∈ attrs, OfOneKind attr items)
    (plain : ¬ ∃ first ∈ items, ∃ second ∈ items, Clash attrs first second) :
    sortedWithAttrs sort attrs items =
      .ok (items.mergeSort (fun first second => decide (ranks attrs first ≤ ranks attrs second))) := by
  refine sort.sorted_ok (totalPreorder_of_key (ranks attrs)) (fun first inFirst second inSecond => ?_)
  rw [keyLess_of_no_clash (fun attr member => sameKind_of_oneKind (kinds attr member) inFirst inSecond)
    (fun clash => plain ⟨first,inFirst,second,inSecond,clash⟩)
    (fun clash => plain ⟨second,inSecond,first,inFirst,clash⟩),lists_lt]
  exact congrArg Except.ok (decide_eq_decide.mpr Iff.rfl)

theorem tupleLess_error (firsts seconds : List KeyPart) {error : PyError}
    (raised : tupleLess firsts seconds = .error error) : error = .typeError := by
  induction firsts generalizing seconds with
  | nil => cases seconds <;> simp [tupleLess] at raised
  | cons first rest ih =>
    cases seconds with
    | nil => simp [tupleLess] at raised
    | cons second others =>
      rw [tupleLess] at raised
      split at raised
      · exact ih others raised
      · cases first <;> cases second <;> simp [KeyPart.less] at raised <;> exact raised.symm

theorem raises_of_clash {first second : α} (inFirst : first ∈ items) (inSecond : second ∈ items)
    (clash : Clash attrs first second) : sortedWithAttrs sort attrs items = .error .typeError := by
  obtain ⟨numbers,texts⟩ := clash_both_ways clash
  have agrees : ∀ {κ : Type} [LinearOrder κ] {place : KeyPart → κ}, Extends place →
      ∀ first second below, keyLess attrs first second = .ok below →
        (!decide ((sortAttrs attrs second).map place ≤ (sortAttrs attrs first).map place)) = below := by
    intro κ _ place extending first second below compared
    rw [← extending.tuples _ _ compared,lists_lt]
  have never := sort.not_sorted (totalPreorder_of_key (fun item => (sortAttrs attrs item).map numbersFirst))
    (totalPreorder_of_key (fun item => (sortAttrs attrs item).map textsFirst)) (agrees extends_numbersFirst)
    (agrees extends_textsFirst) inFirst inSecond (by simpa using numbers) (by simpa using texts)
  cases result : sortedWithAttrs sort attrs items with
  | ok sorted => exact absurd result (never sorted)
  | error error =>
    obtain ⟨one,_,other,_,raised⟩ := sort.sorted_error result
    rw [tupleLess_error _ _ raised]

end Sorting

end Comparable

/-- Whichever comparisons the sort makes, it puts the items in the promised order exactly where no
two items clash, and raises TypeError elsewhere. -/
theorem sort_attrs_iff {α : Type} (sort : ComparisonSort) {attrs : List (α → AttrValue)} {items : List α}
    (kinds : ∀ attr ∈ attrs, OfOneKind attr items) :
    (sortedWithAttrs sort attrs items =
        .ok (items.mergeSort (fun first second => decide (ranks attrs first ≤ ranks attrs second))) ↔
      ¬ ∃ first ∈ items, ∃ second ∈ items, Clash attrs first second) ∧
    ((∃ first ∈ items, ∃ second ∈ items, Clash attrs first second) →
      sortedWithAttrs sort attrs items = .error .typeError) := by
  have raises : (∃ first ∈ items, ∃ second ∈ items, Clash attrs first second) →
      sortedWithAttrs sort attrs items = .error .typeError :=
    fun ⟨_,inFirst,_,inSecond,clash⟩ => raises_of_clash sort inFirst inSecond clash
  refine ⟨⟨fun sorted clash => ?_,sorted_of_no_clash sort kinds⟩,raises⟩
  rw [raises clash] at sorted
  contradiction

/-! The sorts by a text first are such sorts. -/

section TextFirst

open KeyPart

variable {α κ : Type} [LinearOrder κ] (sort : ComparisonSort) {text : α → String} {key : α → κ}
  {rest : List (α → AttrValue)}

theorem sortedByAttrs_eq (agrees : ∀ first second, (text first = "" ↔ text second = "") →
      keyLess ((fun item => .text (text item)) :: rest) first second = .ok (decide (key first < key second)))
    (items : List α) : sortedWithAttrs sort ((fun item => .text (text item)) :: rest) items =
      sortedByAttrs text key items := by
  by_cases alike : (∀ item ∈ items, text item = "") ∨ ∀ item ∈ items, text item ≠ ""
  · have same : ∀ first ∈ items, ∀ second ∈ items, (text first = "" ↔ text second = "") := by
      intro first inFirst second inSecond
      rcases alike with empty | full
      · exact iff_of_true (empty first inFirst) (empty second inSecond)
      · exact iff_of_false (full first inFirst) (full second inSecond)
    rw [sortedByAttrs,if_pos alike]
    refine sort.sorted_ok (totalPreorder_of_key key) (fun first inFirst second inSecond => ?_)
    rw [agrees first second (same first inFirst second inSecond),← decide_not]
    exact congrArg Except.ok (decide_eq_decide.mpr not_le.symm)
  · rw [sortedByAttrs,if_neg alike]
    rw [not_or] at alike
    simp only [not_forall,not_not] at alike
    obtain ⟨⟨second,inSecond,full⟩,first,inFirst,empty⟩ := alike
    exact raises_of_clash sort inFirst inSecond
      ⟨[],_,rest,rfl,by simp,Or.inr (congrArg AttrValue.text empty),text second,full,rfl⟩

def optionalInt (value : Option Int) : AttrValue := (value.map AttrValue.int).getD .none

theorem ofValue_optionalInt (value : Option Int) : ofValue (optionalInt value) = .int (value.getD (-2)) := by
  cases value <;> rfl

theorem tupleLess_ints (major minor other another : Int) :
    tupleLess [.int major,.int minor] [.int other,.int another] =
      .ok (decide (toLex (major,minor) < toLex (other,another))) := by
  by_cases same : major = other
  · by_cases equal : minor = another <;> simp [tupleLess,less,same,equal,Prod.Lex.toLex_lt_toLex]
  · simp [tupleLess,less,same,Prod.Lex.toLex_lt_toLex]

theorem sortedByAttrs_rows (rows : List RelevantAppStream) :
    sortedWithAttrs sort [fun row => .text row.name,fun row => optionalInt row.osMajor,
      fun row => optionalInt row.osMinor] rows = sortedByAttrs (·.name) (·.sortAttrs) rows := by
  refine sortedByAttrs_eq sort (fun first second alike => ?_) rows
  simp only [keyLess,sortAttrs,List.map_cons,List.map_nil,ofValue_optionalInt]
  by_cases same : first.name = second.name
  · rw [same,tupleLess,if_pos rfl,tupleLess_ints]
    refine congrArg Except.ok (decide_eq_decide.mpr ?_)
    simp [RelevantAppStream.sortAttrs,Prod.Lex.toLex_lt_toLex,same]
  · have full : first.name ≠ "" ∧ second.name ≠ "" := by grind
    have parts : ofValue (.text first.name) = .text first.name ∧ ofValue (.text second.name) = .text second.name :=
      ⟨if_neg full.1,if_neg full.2⟩
    rw [parts.1,parts.2,tupleLess,if_neg (by simpa using same),less]
    refine congrArg Except.ok (decide_eq_decide.mpr ?_)
    simp [RelevantAppStream.sortAttrs,Prod.Lex.toLex_lt_toLex,same]

theorem sortedByAttrs_text (text : α → String) (items : List α) :
    sortedWithAttrs sort [fun item => .text (text item)] items = sortedByAttrs text text items := by
  refine sortedByAttrs_eq sort (fun first second alike => ?_) items
  by_cases same : text first = text second
  · simp [keyLess,sortAttrs,tupleLess,same]
  · have full : text first ≠ "" ∧ text second ≠ "" := by grind
    simp [keyLess,sortAttrs,tupleLess,less,ofValue,full.1,full.2,same]

end TextFirst

private def byNameAndMajor : List (String × Option Int → AttrValue) :=
  [fun row => .text row.1,fun row => optionalInt row.2]

private def phpRows : List (String × Option Int) := [("php",some 9),("nginx",none),("php",none)]

private theorem phpRows_kinds : ∀ attr ∈ byNameAndMajor, OfOneKind attr phpRows := by
  intro attr member
  simp only [byNameAndMajor,List.mem_cons,List.not_mem_nil,or_false] at member
  rcases member with rfl | rfl
  · right
    simp [phpRows]
  · left
    simp [phpRows,AttrValue.missing,optionalInt]

theorem sort_attrs_iff_php : sortedWithAttrs .insertion byNameAndMajor phpRows = .ok (phpRows.mergeSort
    (fun first second => decide (ranks byNameAndMajor first ≤ ranks byNameAndMajor second))) := by
  refine (sort_attrs_iff .insertion phpRows_kinds).1.mpr ?_
  rintro ⟨first,inFirst,second,-,earlier,attr,later,split,-,missing,value,-,shown⟩
  have member : attr ∈ byNameAndMajor := by simp [split]
  simp only [byNameAndMajor,List.mem_cons,List.not_mem_nil,or_false] at member
  rcases member with rfl | rfl
  · have named : ∀ row ∈ phpRows, row.1 ≠ "" := by decide
    rcases missing with absent | empty
    · simp at absent
    · exact named first inFirst (AttrValue.text.inj empty)
  · cases major : second.2 <;> simp [optionalInt,major] at shown

theorem empty_name_raises : (∀ attr ∈ [AttrValue.text],OfOneKind attr ["","bash"]) ∧
    ¬ ∃ sort result, sortedWithAttrs sort [AttrValue.text] ["","bash"] = .ok result := by
  refine ⟨by simp [OfOneKind,AttrValue.missing],?_⟩
  rintro ⟨sort,result,sorted⟩
  have clash : Clash [AttrValue.text] "" "bash" := ⟨[],_,[],rfl,by simp,Or.inr rfl,"bash",by decide,rfl⟩
  rw [raises_of_clash sort (by simp) (by simp) clash] at sorted
  contradiction

end Roadmap
