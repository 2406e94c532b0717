import Netscribe.Number.Binary64
/-!
Documents: the untyped values that topology files, requests and answers consist of. Numbers are
equal when their values are, whole or not, and a flag counts as zero or one; the order of fields
does not matter.
-/
namespace Netscribe

/-- Equality of values: the two zeros are equal, and what is not a number equals nothing. -/
def Binary64.equals (x y : Binary64) : Bool :=
  x != .nan && y != .nan && !x.lt y && !y.lt x

/-- The fields of an object keep their order; a reader makes the keys distinct. -/
inductive Document
  | null
  | flag (value : Bool)
  | int (value : Int)
  | float (value : Binary64)
  | text (value : String)
  | list (items : List Document)
  | object (fields : List (String × Document))

namespace Document

abbrev Fields := List (String × Document)

/-- The kinds of value that messages tell apart. -/
inductive Kind
  | null | flag | int | float | text | list | object
  deriving DecidableEq, Repr

def kind : Document → Kind
  | null => .null
  | flag _ => .flag
  | int _ => .int
  | float _ => .float
  | text _ => .text
  | list _ => .list
  | object _ => .object

def Kind.name : Kind → String
  | .null => "NoneType"
  | .flag => "bool"
  | .int => "int"
  | .float => "float"
  | .text => "str"
  | .list => "list"
  | .object => "dict"

/-- Whether values of a kind have no form of one line. -/
def Kind.hasNoColumn : Kind → Bool
  | .null | .list | .object => true
  | _ => false

/-- The value of a key among the fields of an object. -/
def Fields.get? (fields : Fields) (key : String) : Option Document := fields.lookup key

def Fields.contains (fields : Fields) (key : String) : Bool := fields.any (·.1 == key)

/-- The fields with `key` set: in its place when it is there, else at the end. -/
def Fields.set (fields : Fields) (key : String) (value : Document) : Fields :=
  if Fields.contains fields key then
    fields.map fun field => if field.1 == key then (key, value) else field
  else fields ++ [(key, value)]

def Fields.erase (fields : Fields) (key : String) : Fields := fields.filter (·.1 != key)

def fields? : Document → Option Fields
  | object fields => some fields
  | _ => none

/-- The value of a key; nothing for a document that is no object. -/
def get? (key : String) : Document → Option Document
  | object fields => Fields.get? fields key
  | _ => none

/-- Whether a value counts as set: zero, the empty text, list and object and null do not. -/
def isTrue : Document → Bool
  | null => false
  | flag value => value
  | int value => value != 0
  | float value => !value.isZero
  | text value => value != ""
  | list items => !items.isEmpty
  | object fields => !fields.isEmpty

def ofOption : Option Document → Document
  | some d => d
  | none => null

def texts (xs : List String) : Document := list (xs.map text)

/-- An integer against a floating-point value, compared exactly. -/
def equalsInt (n : Int) (x : Binary64) : Bool := x.toInt? == some n

def flagValue (b : Bool) : Int := if b then 1 else 0

mutual
def equals : Document → Document → Bool
  | null, null => true
  | text s, text t => s == t
  | list xs, list ys => equalsItems xs ys
  | object xs, object ys => xs.length == ys.length && equalsFields xs ys
  | flag a, flag b => a == b
  | flag a, int n => flagValue a == n
  | int n, flag a => flagValue a == n
  | int m, int n => m == n
  | flag a, float x => equalsInt (flagValue a) x
  | float x, flag a => equalsInt (flagValue a) x
  | int n, float x => equalsInt n x
  | float x, int n => equalsInt n x
  | float x, float y => x.equals y
  | _, _ => false

def equalsItems : List Document → List Document → Bool
  | [], [] => true
  | x :: xs, y :: ys => x.equals y && equalsItems xs ys
  | _, _ => false

/-- Whether the second object has every field of the first. -/
def equalsFields : List (String × Document) → List (String × Document) → Bool
  | [], _ => true
  | (key, x) :: xs, ys =>
    (match Fields.get? ys key with
      | some y => x.equals y
      | none => false) && equalsFields xs ys
end

end Document
end Netscribe
