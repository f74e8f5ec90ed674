import TraceRelay.Identifier
import TraceRelay.Table
import TraceRelay.Decision

/-!
# Span contexts

The part of a span that travels: its trace, its own identifier, whether it was received from
elsewhere, its trace flags, and its trace state.
-/

set_option autoImplicit false

namespace TraceRelay

/-- Vendor entries that travel with a span, in order. -/
abbrev TraceState := Table String String

/-- The travelling part of a span. -/
structure SpanContext where
  traceId : Int
  spanId : Int
  isRemote : Bool
  flags : Int
  state : TraceState

namespace SpanContext

/-- The span context that stands for no span. -/
def invalid : SpanContext := ⟨0, 0, false, 0, ∅⟩

/-- Both identifiers are in range and neither is zero. -/
def isValid (span : SpanContext) : Bool :=
  Identifier.isTraceId span.traceId && span.spanId != 0 && Identifier.isSpanId span.spanId

/-- Equality of span contexts. The order of the trace state does not matter. -/
def same (a b : SpanContext) : Bool :=
  a.traceId == b.traceId && a.spanId == b.spanId && a.isRemote == b.isRemote &&
    a.flags == b.flags && a.state.sameMap b.state

/-- Equality of span contexts that may be missing. -/
def sameOption : Option SpanContext → Option SpanContext → Bool
  | none, none => true
  | some a, some b => a.same b
  | _, _ => false

/-- The span context of a parent in another process, with the flags that record its decision. -/
def remote (traceId spanId : Int) (decision : Decision) : SpanContext :=
  ⟨traceId, spanId, true, decision.flags, ∅⟩

end SpanContext

end TraceRelay
