import TraceRelay.Report

/-!
# Faults

Why an operation fails. Refused headers are a type of their own, since readers at the boundary
take them for a missing parent. All other faults are the caller's: a value of a kind that the
operation cannot work on, a setting that is not a truth value, a numeral beyond the limit.
-/

set_option autoImplicit false

namespace TraceRelay

/-- Why a header is refused, with the text that is at fault. -/
inductive HeaderFault
  | missingSeparator (header : String)
  | traceIdShape (field : String)
  | traceIdZero (field : String)
  | spanIdShape (field : String)
  | spanIdRange (field : String)
  deriving DecidableEq

namespace HeaderFault

/-- The category of a refusal. -/
def category : HeaderFault → Category
  | .missingSeparator _ => .missingSeparator
  | .traceIdShape _ | .traceIdZero _ => .traceId
  | .spanIdShape _ | .spanIdRange _ => .spanId

/-- The text at fault. -/
def culprit : HeaderFault → String
  | .missingSeparator text | .traceIdShape text | .traceIdZero text
  | .spanIdShape text | .spanIdRange text => text

/-- What is wrong with the text. -/
def complaint : HeaderFault → String
  | .missingSeparator _ => "missing '/' separator"
  | .traceIdShape _ => "trace id must be 32 lowercase hex characters"
  | .traceIdZero _ => "trace id must not be zero"
  | .spanIdShape _ => "span id must be an unsigned decimal integer"
  | .spanIdRange _ => "span id does not fit in 64 bits"

/-- What the text at fault is called. -/
def culpritName : HeaderFault → String
  | .missingSeparator _ => "header"
  | _ => "field"

/-- The report of a refusal. -/
def report (fault : HeaderFault) : Report :=
  .single fault.category fault.complaint fault.culpritName (.text fault.culprit)

end HeaderFault

/-- The things a value may be asked to do, each possible for some kinds of values only. -/
inductive Operation
  | partition
  | split
  | strip
  | lower
  | items
  | get
  | isValid
  deriving DecidableEq

/-- The name of an operation in messages. -/
def Operation.label : Operation → String
  | .partition => "partition"
  | .split => "split"
  | .strip => "strip"
  | .lower => "lower"
  | .items => "items"
  | .get => "get"
  | .isValid => "is_valid"

/-- The settings: whether refused headers are recorded, and whether the W3C headers travel along
when a propagator is asked for without saying so. -/
inductive Settings.Name
  | logDecodeFailures
  | includeTraceContext
  deriving DecidableEq

/-- The name of a setting in messages. -/
def Settings.Name.label : Settings.Name → String
  | .logDecodeFailures => "log_decode_failures"
  | .includeTraceContext => "include_w3c"

/-- Why an operation fails. -/
inductive Fault
  /-- A header is refused. -/
  | header (cause : HeaderFault)
  /-- A setting is given something that is not a truth value. -/
  | setting (name : Settings.Name) (value : Value)
  /-- A decimal numeral has too many digits to be read. -/
  | numeralRead (digits : Nat)
  /-- A decimal numeral would have too many digits to be written. -/
  | numeralWritten
  /-- A value of this kind has no such operation. -/
  | missingOperation (kind : Kind) (operation : Operation)
  /-- A value of this kind stands where a text is matched. -/
  | notText (kind : Kind)
  /-- A value of this kind has no entries to be set. -/
  | notAssignable (kind : Kind)
  /-- A value of this kind has no length. -/
  | noLength (kind : Kind)

namespace Fault

/-- The sentence on the length limit of numerals, with what was found. -/
def limitText (found : String) : String :=
  "Exceeds the limit (" ++ toString Numeral.digitLimit ++
    " digits) for integer string conversion" ++ found ++
      "; use sys.set_int_max_str_digits() to increase the limit"

/-- The text of a fault. -/
def message : Fault → String
  | .header cause => cause.report.render
  | .setting name value =>
      (Report.single .setting (name.label ++ " must be a bool") "value" value).render
  | .numeralRead digits => limitText (": value has " ++ toString digits ++ " digits")
  | .numeralWritten => limitText ""
  | .missingOperation kind operation =>
      "'" ++ kind.label ++ "' object has no attribute '" ++ operation.label ++ "'"
  | .notText kind => "expected string or bytes-like object, got '" ++ kind.label ++ "'"
  | .notAssignable .list => "list indices must be integers or slices, not str"
  | .notAssignable kind => "'" ++ kind.label ++ "' object does not support item assignment"
  | .noLength kind => "object of type '" ++ kind.label ++ "' has no len()"

end Fault

/-- The characters of a text, or the fault that goes with the kind of any other value. -/
def Value.charsOr (refuse : Kind → Fault) : Value → Except Fault (List Char)
  | .text s => .ok s.toList
  | value => .error (refuse value.kind)

/-- The length of a value that has one. -/
def Value.length (value : Value) : Except Fault Nat :=
  match value.length? with
  | some n => .ok n
  | none => .error (.noLength value.kind)

end TraceRelay
