import TraceRelay.Propagator
import TraceRelay.Text.Lowercase

/-!
# Requests

A server has two readers for the headers of a request, whose names come in any letter case. One
decodes the first header with the right name. The other one lowers all names, so that of names that
differ in case only the last value counts, and extracts a context. A client injects the span of its
context into the headers of a request before it sends them. Of the propagators it uses the one for
the cloud trace header alone, whatever else is installed.
-/

set_option autoImplicit false

namespace TraceRelay

/-- The lower case of a name, which only a text has. -/
def Key.lowered : Key → Except Fault String
  | .text s => .ok (Text.lowercase s)
  | key => .error (.missingOperation key.kind .lower)

/-! ## Reading -/

namespace Inbound

/-- The value of the first entry whose name in lower case is that of the cloud trace header. -/
def firstHeader? : List (Key × Value) → Except Fault (Option Value)
  | [] => .ok none
  | entry :: rest => do
      let name ← entry.1.lowered
      if name = CloudHeader.name then return some entry.2
      firstHeader? rest

/-- The span context that the first header with the right name describes, or none when there is
no such header or it is refused. -/
def decode (headers : Carrier) : Except Fault (Option SpanContext) := do
  let table ← headers.headersFor .items
  match ← firstHeader? table.entries with
  | none => return none
  | some value => CloudHeader.decode value

/-- An entry with its name in lower case. -/
def lowerEntry (entry : Key × Value) : Except Fault (Key × Value) :=
  entry.1.lowered.map fun name => (.text name, entry.2)

/-- The headers with their names in lower case. -/
def lowered (headers : Carrier) : Except Fault Carrier := do
  let table ← headers.headersFor .items
  return .headers (Table.ofList (← table.entries.mapM lowerEntry))

/-- The context with the parent that the headers of a request describe. -/
def parentContext (logFailures : Bool) (headers : Carrier) (base : Context) : Outcome Context :=
  match lowered headers with
  | .error fault => .error fault
  | .ok carrier => CloudHeader.extract logFailures carrier base

/-! ## Server spans -/

/-- The part a span plays in a request. -/
inductive SpanKind
  | internal
  | server
  | client
  | producer
  | consumer
  deriving DecidableEq

/-- What a tracer is asked for when a span starts. -/
structure SpanStart where
  name : String
  kind : SpanKind
  attributes : Value
  parent : Context

/-- The start of the span that serves a request. -/
def serverSpan (logFailures : Bool) (name : String) (headers : Carrier) (attributes : Value)
    (base : Context) : Outcome SpanStart :=
  (parentContext logFailures headers base).map fun parent => ⟨name, .server, attributes, parent⟩

end Inbound

/-! ## Sending -/

namespace Outbound

/-- The propagator that clients use. -/
def propagator : Propagator := .cloud

/-- The headers of a request with the span of a context injected. -/
def inject (headers : Carrier) (context : Context) : Except Fault Carrier :=
  propagator.inject headers context

end Outbound

end TraceRelay
