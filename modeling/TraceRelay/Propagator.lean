import TraceRelay.Carrier
import TraceRelay.CloudHeader
import TraceRelay.Context
import TraceRelay.Record
import TraceRelay.TraceParent
import TraceRelay.TraceState

/-!
# Propagators

A propagator extracts a parent from a carrier into a context and injects the span of a context
into a carrier. There are two: one for the cloud trace header alone, and a combined one that
also carries the W3C headers. Extraction of the combined one reads the cloud trace header first
and lets an acceptable traceparent replace the span. Injection writes the cloud trace header
first.
-/

set_option autoImplicit false

namespace TraceRelay

/-! ## The cloud trace header -/

namespace CloudHeader

/-- The log that tells of refused headers. -/
def logger : String := "cloudtrace.context.propagators"

/-- The record of a refused header. -/
def refusal (cause : HeaderFault) : Record :=
  ⟨.debug, logger,
    "Ignoring " ++ cause.category.label ++ " header: " ++ cause.report.render⟩

/-- The context with the parent that the header of a carrier describes. Without a header and
with a refused one the context has no usable span. Only a refused header is recorded, and only
when `logFailures` is set. -/
def extract (logFailures : Bool) (carrier : Carrier) (base : Context) : Outcome Context :=
  match carrier.firstValue name with
  | .error fault => .error fault
  | .ok none => .ok base.withEmpty
  | .ok (some value) =>
      match read value with
      | .ok parent => .ok (base.withRemote (some parent.span) (parent.decision == .deferred))
      | .error (.header cause) =>
          ⟨.ok base.withEmpty, if logFailures then [refusal cause] else []⟩
      | .error fault => .error fault

/-- The decision that is stated for the span of a context: open for the deferred parent, and
otherwise the one its flags record. -/
def statedDecision (context : Context) : Option Decision :=
  if context.isDeferredParent context.span then some .deferred else none

/-- The header that is set for a context, if its span is valid. -/
def writes (context : Context) : Except Fault (List Carrier.Write) :=
  match context.span with
  | none => .error (.missingOperation .null .isValid)
  | some span =>
      if span.isValid then
        (write span (statedDecision context)).map fun value => [(name, value)]
      else .ok []

end CloudHeader

/-! ## The W3C headers -/

namespace TraceParent

/-- What a header value says, if it is short enough to be looked at and acceptable. -/
def ofValue (value : Value) : Except Fault (Option TraceParent) := do
  if maxLength < (← value.length) then return none
  else return parse? (← value.charsOr .notText)

/-- The span context that the headers of a carrier describe, if there is an acceptable
traceparent. Only then the trace state is looked at. -/
def read (carrier : Carrier) : Except Fault (Option SpanContext) := do
  match ← carrier.firstValue name with
  | none => return none
  | some value =>
      match ← ofValue value with
      | none => return none
      | some parent =>
          let state ← TraceState.ofValues ((← carrier.values TraceState.name).getD [])
          return some (parent.spanContext state)

/-- The context with the span that the headers of a carrier describe. Without an acceptable
traceparent it is the base itself. The deferred parent always stays. -/
def extract (carrier : Carrier) (base : Context) : Except Fault Context := do
  match ← read carrier with
  | none => return base
  | some span => return base.setSpan (some span)

/-- The headers that are set for a span, unless it stands for no span. -/
def writes (span : SpanContext) : List Carrier.Write :=
  if span.same .invalid then []
  else
    (name, write span) ::
      if span.state.isEmpty then [] else [(TraceState.name, TraceState.write span.state)]

end TraceParent

/-! ## Propagators -/

/-- The cloud trace header alone, or together with the W3C headers. -/
inductive Propagator
  | cloud
  | combined
  deriving DecidableEq

namespace Propagator

/-- The propagator with or without the W3C headers. -/
def including (traceContext : Bool) : Propagator :=
  if traceContext then .combined else .cloud

/-- The name of a propagator in records. -/
def label : Propagator → String
  | .cloud => "CloudTraceFormatPropagator"
  | .combined => "CompositePropagator"

/-- The headers a propagator reads and sets, sorted. -/
def fields : Propagator → List String
  | .cloud => [CloudHeader.name]
  | .combined => [TraceParent.name, TraceState.name, CloudHeader.name]

/-- The context with the parent that a carrier describes. -/
def extract (logFailures : Bool) (propagator : Propagator) (carrier : Carrier)
    (base : Context) : Outcome Context :=
  let first := CloudHeader.extract logFailures carrier base
  match propagator with
  | .cloud => first
  | .combined => first.bind fun context => .silent (TraceParent.extract carrier context)

/-- The headers that are set for a context, in order. -/
def writes (propagator : Propagator) (context : Context) : Except Fault (List Carrier.Write) := do
  let first ← CloudHeader.writes context
  match propagator, context.span with
  | .combined, some span => return first ++ TraceParent.writes span
  | _, _ => return first

/-- The carrier with the span of a context injected. -/
def inject (propagator : Propagator) (carrier : Carrier) (context : Context) :
    Except Fault Carrier := do
  carrier.setAll (← propagator.writes context)

/-- The log that tells of installed propagators. -/
def logger : String := "cloudtrace.propagate"

/-- The record of a propagator that is installed. -/
def installation (propagator : Propagator) : Record :=
  ⟨.info, logger,
    "Trace propagation configured with " ++ propagator.label ++ " (fields=" ++
      String.ofList (Value.list (propagator.fields.map .text)).literal ++ ")"⟩

end Propagator

/-- The version of the library that propagators belong to. -/
def version : String := "0.1.0"

end TraceRelay
