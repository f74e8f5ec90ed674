import TraceRelay.Fault

/-!
# Carriers

What headers are read from and written to: a table of values by name, or some other value that a
caller hands over by mistake. Names are texts as a rule, but a table takes other scalars too. Of
those, numbers are compared by their value, so that true, one and one point zero are one name.
-/

set_option autoImplicit false

namespace TraceRelay

/-! ## Names in a carrier -/

/-- The name of an entry. -/
inductive Key
  | text (s : String)
  | null
  | bool (b : Bool)
  | int (n : Int)
  | decimal (d : Decimal)
  deriving DecidableEq

namespace Key

/-- The kind of value that a name is. -/
def kind : Key → Kind
  | .text _ => .text
  | .null => .null
  | .bool _ => .bool
  | .int _ => .int
  | .decimal _ => .decimal

/-- The one form of all names that are equal to a name: numbers become decimals, and the two
zeros are one. -/
def canonical : Key → Key
  | .bool true => .decimal (.ofInt 1)
  | .bool false => .decimal (.ofInt 0)
  | .int n => .decimal (.ofInt n)
  | .decimal d => .decimal d.positiveZero
  | key => key

/-- Names are equal when they have the same canonical form. -/
instance : BEq Key where
  beq a b := a.canonical = b.canonical

theorem beq_eq (a b : Key) : (a == b) = decide (a.canonical = b.canonical) := rfl

/-- Equality of names is an equivalence. -/
instance : EquivBEq Key where
  rfl := by simp [beq_eq]
  symm h := by
    simp only [beq_eq, decide_eq_true_eq] at h ⊢
    exact h.symm
  trans h g := by
    simp only [beq_eq, decide_eq_true_eq] at h g ⊢
    exact h.trans g

theorem text_beq_text (s t : String) : (text s == text t) = decide (s = t) := by
  simp [beq_eq, canonical]

theorem beq_text_iff {key : Key} {s : String} : (key == text s) = true ↔ key = text s := by
  cases key with
  | bool b => cases b <;> simp [beq_eq, canonical]
  | _ => simp [beq_eq, canonical]

end Key

/-! ## Carriers -/

/-- Header values by name. -/
abbrev Headers := Table Key Value

/-- A table of headers, or a bare value that is none. -/
inductive Carrier
  | headers (table : Headers)
  | bare (value : Value)

namespace Carrier

/-- The headers of a carrier that has the operation asked for. -/
def headersFor (operation : Operation) : Carrier → Except Fault Headers
  | .headers table => .ok table
  | .bare value => .error (.missingOperation value.kind operation)

/-- The values an entry holds: the items of a list, the field names of an object, and any other
value by itself. A missing or null entry has none. -/
def valuesOf : Option Value → Option (List Value)
  | none | some .null => none
  | some (.list items) => some items
  | some (.object fields) => some (fields.map fun field => .text field.1)
  | some value => some [value]

/-- The values of a header. -/
def values (carrier : Carrier) (name : String) : Except Fault (Option (List Value)) := do
  let table ← carrier.headersFor .get
  return valuesOf (table.get? (.text name))

/-- The first value of a header. The readers look at no other one, except for the trace state. -/
def firstValue (carrier : Carrier) (name : String) : Except Fault (Option Value) := do
  return (← carrier.values name).bind List.head?

/-- The carrier with a header set. -/
def set (carrier : Carrier) (name value : String) : Except Fault Carrier :=
  match carrier with
  | .headers table => .ok (.headers (table.set (.text name) (.text value)))
  | .bare other => .error (.notAssignable other.kind)

/-- A header to be set, with its value. -/
abbrev Write := String × String

/-- The carrier after headers are set one after the other. -/
def setAll (carrier : Carrier) (writes : List Write) : Except Fault Carrier :=
  writes.foldlM (fun carrier write => carrier.set write.1 write.2) carrier

end Carrier

end TraceRelay
