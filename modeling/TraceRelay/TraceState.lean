import TraceRelay.Fault
import TraceRelay.SpanContext
import TraceRelay.Text.Classes
import TraceRelay.Text.Field

/-!
# The tracestate header

A list of entries, each a key, an equals sign and a value, separated by commas. Spaces and tabs
around an entry are dropped, and empty entries are skipped. One bad entry or a repeated key makes
the whole state empty, and so do more entries or more characters than the limits allow.
-/

set_option autoImplicit false

namespace TraceRelay.TraceState

/-- The name of the header. -/
def name : String := "tracestate"

/-- The greatest number of entries. -/
def maxEntries : Nat := 32

/-- The greatest number of characters of all values of the header, with a comma between them. -/
def maxLength : Nat := 8192

/-! ## Keys and values -/

/-- The lower-case letters of ASCII. -/
def isLetter (c : Char) : Bool :=
  'a' ≤ c && c ≤ 'z'

/-- The characters a key may go on with. -/
def isKeyChar (c : Char) : Bool :=
  isLetter c || Numeral.isDecimalDigit c || c == '_' || c == '-' || c == '*' || c == '/'

/-- One character that `first` admits, then at most `rest` key characters. -/
def isKeyPart (first : Char → Bool) (rest : Nat) : List Char → Bool
  | [] => false
  | c :: cs => first c && cs.length ≤ rest && cs.all isKeyChar

/-- A key: a simple one, or a tenant and a system with an at sign between them. -/
def isKey (cs : List Char) : Bool :=
  match Text.cut '@' cs with
  | (_, none) => isKeyPart isLetter 255 cs
  | (tenant, some system) =>
      isKeyPart (fun c => isLetter c || Numeral.isDecimalDigit c) 240 tenant &&
        isKeyPart isLetter 13 system

/-- The characters of a value: those of printable ASCII but the comma and the equals sign. -/
def isValueChar (c : Char) : Bool :=
  ' ' ≤ c && c ≤ '~' && c != ',' && c != '='

/-- A value: up to 256 characters, the last one not a space. -/
def isValue (cs : List Char) : Bool :=
  !cs.isEmpty && cs.length ≤ 256 && cs.all isValueChar && cs.getLast? != some ' '

/-! ## Reading -/

/-- The key and value of an entry. -/
def entry? (cs : List Char) : Option (String × String) :=
  match Text.cut '=' cs with
  | (key, some value) =>
      if isKey key && isValue value then some (String.ofList key, String.ofList value) else none
  | (_, none) => none

/-- The entries of one value of the header, as they stand between the commas. -/
def members (cs : List Char) : List (List Char) :=
  ((cs.splitOn ',').map (Text.trim Text.isPadding)).filter fun member => !member.isEmpty

/-- The state with one more entry, if the entry is well formed and its key is new. -/
def add? (state : TraceState) (member : List Char) : Option TraceState :=
  match entry? member with
  | none => none
  | some (key, value) => if state.contains key then none else some (state.set key value)

/-- The entries of the values of the header, added to a state. -/
def collect : List Value → TraceState → Except Fault TraceState
  | [], state => .ok (if state.size ≤ maxEntries then state else ∅)
  | value :: rest, state => do
      let text ← value.charsOr (.missingOperation · .split)
      match (members text).foldlM add? state with
      | none => return ∅
      | some state => collect rest state

/-- The state that the values of the header describe. -/
def ofValues (values : List Value) : Except Fault TraceState := do
  let lengths ← values.mapM Value.length
  if maxLength < lengths.foldl Nat.add 0 + (values.length - 1) then return ∅
  else collect values ∅

/-! ## Writing -/

/-- The characters of an entry. -/
def entryChars (entry : String × String) : List Char :=
  entry.1.toList ++ '=' :: entry.2.toList

/-- The characters of the header for a state: its entries, separated by commas. -/
def format (state : TraceState) : List Char :=
  [','].intercalate (state.entries.map entryChars)

/-- The header for a state. -/
def write (state : TraceState) : String :=
  String.ofList (format state)

end TraceRelay.TraceState
