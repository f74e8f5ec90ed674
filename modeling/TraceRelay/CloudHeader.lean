import TraceRelay.Fault
import TraceRelay.SpanContext
import TraceRelay.Text.Classes
import TraceRelay.Text.Field

/-!
# The cloud trace header

The header holds a trace identifier of 32 hexadecimal digits, a slash, and a decimal span
identifier. A semicolon and a suffix may follow, which states the sampling decision. White space
around the header is ignored. The fields are checked from left to right, and the first one that
is wrong is reported.
-/

set_option autoImplicit false

namespace TraceRelay.CloudHeader

/-- The name of the header. -/
def name : String := "x-cloud-trace-context"

/-! ## Fields -/

/-- The parts of a header. The suffix is missing when there is no semicolon. -/
structure Fields where
  trace : List Char
  span : List Char
  suffix : Option (List Char)
  deriving DecidableEq

/-- The header that has the given parts. -/
def Fields.join (fields : Fields) : List Char :=
  fields.trace ++ '/' :: fields.span ++
    match fields.suffix with
    | none => []
    | some suffix => ';' :: suffix

/-- The parts of a header: cut at the first slash, and behind it at the first semicolon. -/
def split (header : List Char) : Except Fault Fields :=
  match Text.cut '/' header with
  | (_, none) => .error (.header (.missingSeparator (String.ofList header)))
  | (trace, some rest) =>
      let (span, suffix) := Text.cut ';' rest
      .ok ⟨trace, span, suffix⟩

/-! ## Identifiers -/

/-- The trace identifier a field stands for. -/
def traceId (field : List Char) : Except Fault Int :=
  if field.length = Identifier.traceIdWidth ∧ field.all Numeral.isHexDigit then
    let id : Int := Numeral.value 16 field
    if Identifier.isTraceId id then .ok id
    else .error (.header (.traceIdZero (String.ofList field)))
  else .error (.header (.traceIdShape (String.ofList field)))

/-- The span identifier a field stands for. A field of digits that is too long to be read is no
refused header. -/
def spanId (field : List Char) : Except Fault Int :=
  if field ≠ [] ∧ field.all Numeral.isDecimalDigit then
    if Numeral.digitLimit < field.length then .error (.numeralRead field.length)
    else
      let id : Int := Numeral.value 10 field
      if Identifier.isSpanId id then .ok id
      else .error (.header (.spanIdRange (String.ofList field)))
  else .error (.header (.spanIdShape (String.ofList field)))

/-! ## Reading -/

/-- A parent in another process with its sampling decision, which its flags record only in
part. -/
structure Parent where
  span : SpanContext
  decision : Decision

/-- The parent a header without surrounding white space describes. -/
def parseTrimmed (header : List Char) : Except Fault Parent := do
  let fields ← split header
  let trace ← traceId fields.trace
  let span ← spanId fields.span
  let decision := Decision.ofSuffix (fields.suffix.map String.ofList)
  return ⟨.remote trace span decision, decision⟩

/-- The parent a header describes. -/
def parse (header : List Char) : Except Fault Parent :=
  parseTrimmed (Text.trim Text.isBlank header)

/-- The header a value holds. A value that counts as false is an empty header. -/
def ofValue (value : Value) : Except Fault (List Char) :=
  if value.isTruthy then value.charsOr (.missingOperation · .strip) else .ok []

/-- The parent a header value describes. -/
def read (value : Value) : Except Fault Parent := do
  parse (← ofValue value)

/-- The span context a header value describes, or none for a refused header. -/
def decode (value : Value) : Except Fault (Option SpanContext) :=
  match read value with
  | .ok parent => .ok (some parent.span)
  | .error (.header _) => .ok none
  | .error fault => .error fault

/-! ## Reading single parts of a value -/

/-- The parts of the header a value holds, which is not trimmed. -/
def splitValue (value : Value) : Except Fault Fields := do
  split (← value.charsOr (.missingOperation · .partition))

/-- The trace identifier a value stands for. -/
def traceIdOfValue (value : Value) : Except Fault Int := do
  traceId (← value.charsOr .notText)

/-- The span identifier a value stands for. -/
def spanIdOfValue (value : Value) : Except Fault Int := do
  spanId (← value.charsOr .notText)

/-! ## Writing -/

/-- The part of a header that states a decision. -/
def suffixChars : Decision → List Char
  | .deferred => []
  | decision => ';' :: decision.suffix.toList

/-- The written form of a span identifier that is not too long for one. -/
def spanIdChars (id : Int) : Except Fault (List Char) :=
  match Identifier.spanIdChars id with
  | some digits => .ok digits
  | none => .error .numeralWritten

/-- The header of a span context. Without a decision the flags of the span decide. -/
def format (span : SpanContext) (decision : Option Decision) : Except Fault (List Char) := do
  let digits ← spanIdChars span.spanId
  return Identifier.traceIdChars span.traceId ++ '/' :: digits ++
    suffixChars (decision.getD (.ofFlags span.flags))

/-- The header of a span context as a string. -/
def write (span : SpanContext) (decision : Option Decision) : Except Fault String :=
  (format span decision).map String.ofList

end TraceRelay.CloudHeader
