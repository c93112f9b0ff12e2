import Roadmap.Base.Text

/-! JSON values and the exceptions of the Python operations on them. -/
namespace Roadmap

inductive PyError where
  | httpException (status : Nat) (detail : String)
  | attributeError
  | keyError
  | typeError
  | valueError
  deriving DecidableEq,Repr

/-- A number is its decimal form: the mantissa divided by a power of ten. -/
inductive Json where
  | null
  | bool (value : Bool)
  | num (mantissa : Int) (scale : Nat)
  | str (value : String)
  | arr (items : List Json)
  | obj (fields : List (String × Json))

namespace Json

def truthy : Json → Bool
  | .null => false
  | .bool value => value
  | .num mantissa _ => mantissa != 0
  | .str value => value != ""
  | .arr items => !items.isEmpty
  | .obj fields => !fields.isEmpty

/-- `value.get(key)`; only a dictionary has `get`, and a missing key reads as None. -/
def get (value : Json) (key : String) : Except PyError Json :=
  match value with
  | .obj fields => .ok ((fields.lookup key).getD .null)
  | _ => .error .attributeError

def subscript (value : Json) (key : String) : Except PyError Json :=
  match value with
  | .obj fields => match fields.lookup key with
    | some item => .ok item
    | none => .error .keyError
  | _ => .error .typeError

/-- What `for item in value` runs over: the characters of a text, the keys of a
dictionary, the items of a list. -/
def elements : Json → Except PyError (List Json)
  | .str value => .ok (value.toList.map (fun char => .str (String.singleton char)))
  | .arr items => .ok items
  | .obj fields => .ok (fields.map (fun field => .str field.1))
  | _ => .error .typeError

/-- Membership in a set of texts hashes the value, which lists and dictionaries refuse. -/
def memberOf (value : Json) (texts : List String) : Except PyError Bool :=
  match value with
  | .arr _ | .obj _ => .error .typeError
  | .str text => .ok (decide (text ∈ texts))
  | _ => .ok false

/-- `value.get(key, default)` -/
def getOr (value : Json) (key : String) (default : Json) : Except PyError Json :=
  match value with
  | .obj fields => .ok ((fields.lookup key).getD default)
  | _ => .error .attributeError

/-- `value < bound` -/
def lessThan (value : Json) (bound : Int) : Except PyError Bool :=
  match value with
  | .bool value => .ok (decide ((if value then 1 else 0) < bound))
  | .num mantissa scale => .ok (decide (mantissa < bound * 10 ^ scale))
  | _ => .error .typeError

def isText (value : Json) (text : String) : Bool :=
  match value with
  | .str other => decide (other = text)
  | _ => false

/-- `text in value`: a part of a text, an item of a list, a key of a dictionary. -/
def holds (value : Json) (text : String) : Except PyError Bool :=
  match value with
  | .str other => .ok (Text.contains text other)
  | .arr items => .ok (items.any (·.isText text))
  | .obj fields => .ok (fields.any (fun field => decide (field.1 = text)))
  | _ => .error .typeError

end Json

end Roadmap
