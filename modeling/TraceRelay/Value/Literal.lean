import TraceRelay.Text.Quoted
import TraceRelay.Value

/-!
# Literals of values

The one-line form in which messages show a value: texts quoted, lists in brackets, objects in
braces with their fields in order.
-/

set_option autoImplicit false

namespace TraceRelay.Value

mutual
/-- The literal of a value. -/
def literal : Value → List Char
  | .null => "None".toList
  | .bool true => "True".toList
  | .bool false => "False".toList
  | .int n => Numeral.decimal n
  | .decimal d => d.literal
  | .text s => Text.Quoted.encode s.toList
  | .list items => '[' :: literals items ++ [']']
  | .object fields => '\x7b' :: fieldLiterals fields ++ ['\x7d']
/-- The literals of a list of values, separated by commas. -/
def literals : List Value → List Char
  | [] => []
  | [v] => literal v
  | v :: w :: vs => literal v ++ ',' :: ' ' :: literals (w :: vs)
/-- The names and literals of the fields of an object, separated by commas. -/
def fieldLiterals : List (String × Value) → List Char
  | [] => []
  | [(name, v)] => Text.Quoted.encode name.toList ++ ':' :: ' ' :: literal v
  | (name, v) :: f :: fs =>
      Text.Quoted.encode name.toList ++ ':' :: ' ' :: literal v ++
        ',' :: ' ' :: fieldLiterals (f :: fs)
end

end TraceRelay.Value
