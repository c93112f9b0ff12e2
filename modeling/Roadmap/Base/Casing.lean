/-! Upper and lower case of texts, over the Unicode case data of the interpreter. -/
namespace Roadmap

structure Casing where
  fold : Char → List Char
  lower : Char → List Char
  title : Char → List Char
  cased : Char → Bool
  ignorable : Char → Bool

namespace Casing

variable (casing : Casing)

def casefold (text : String) : String := String.ofList (text.toList.flatMap casing.fold)

private def nextToCased (context : List Char) : Bool :=
  match context.dropWhile casing.ignorable with
  | [] => false
  | char :: _ => casing.cased char

/-- The lower case of a character between the reversed text before it and the text
after it; a capital sigma at the end of a word is lowered to the final sigma. -/
def lowerChar (before : List Char) (char : Char) (after : List Char) : List Char :=
  if char = 'Σ' then
    [if casing.nextToCased before && !casing.nextToCased after then 'ς' else 'σ']
  else casing.lower char

private def lowerFrom : List Char → List Char → List Char
  | _,[] => []
  | before,char :: rest => casing.lowerChar before char rest ++ lowerFrom (char :: before) rest

def lowered (text : List Char) : List Char := casing.lowerFrom [] text

private def titleFrom : Bool → List Char → List Char → List Char
  | _,_,[] => []
  | inWord,before,char :: rest =>
    (if inWord then casing.lowerChar before char rest else casing.title char) ++
      titleFrom (casing.cased char) (char :: before) rest

def titled (text : List Char) : List Char := casing.titleFrom false [] text

def ascii : Casing where
  fold := fun char => [char.toLower]
  lower := fun char => [char.toLower]
  title := fun char => [char.toUpper]
  cased := Char.isAlpha
  ignorable := fun char => char ∈ ['\'','.',':','^','`']

end Casing

end Roadmap
