import TraceRelay.Decimal

/-!
# Values

What a carrier may hold under a header name, and what a caller may pass for a setting: the values
of structured data. Header values are texts, but nothing keeps a carrier from holding something
else, so the readers take values and say what they refuse.
-/

set_option autoImplicit false

namespace TraceRelay

/-- The kinds of values. -/
inductive Kind
  | null
  | bool
  | int
  | decimal
  | text
  | list
  | object
  deriving DecidableEq

/-- The name of a kind in messages. -/
def Kind.label : Kind → String
  | .null => "NoneType"
  | .bool => "bool"
  | .int => "int"
  | .decimal => "float"
  | .text => "str"
  | .list => "list"
  | .object => "dict"

/-- Structured data. The fields of an object stand in the order of their names. -/
inductive Value
  | null
  | bool (b : Bool)
  | int (n : Int)
  | decimal (d : Decimal)
  | text (s : String)
  | list (items : List Value)
  | object (fields : List (String × Value))
  deriving Inhabited

namespace Value

/-- The kind of a value. -/
def kind : Value → Kind
  | .null => .null
  | .bool _ => .bool
  | .int _ => .int
  | .decimal _ => .decimal
  | .text _ => .text
  | .list _ => .list
  | .object _ => .object

/-- Whether a value counts as true where a yes or no is asked for: zero and everything empty
count as false. -/
def isTruthy : Value → Bool
  | .null => false
  | .bool b => b
  | .int n => n != 0
  | .decimal d => !d.isZero
  | .text s => !s.isEmpty
  | .list items => !items.isEmpty
  | .object fields => !fields.isEmpty

/-- The number of characters, items or fields of a value that has parts. -/
def length? : Value → Option Nat
  | .text s => some s.length
  | .list items => some items.length
  | .object fields => some fields.length
  | _ => none

/-- The characters of a text. -/
def chars? : Value → Option (List Char)
  | .text s => some s.toList
  | _ => none

end Value

end TraceRelay
