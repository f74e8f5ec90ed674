import TraceRelay.SpanContext

/-!
# Contexts

A context holds the span that is current, unrelated values by name, and the deferred parent: the
one remote span whose sampling decision was left open when it was extracted. A span is that
parent only while it equals it in every part, so a span that is started under it no longer is.
Contexts are values. Deriving one leaves its base as it was.
-/

set_option autoImplicit false

namespace TraceRelay

/-- The current span, the deferred parent and the unrelated values. -/
structure Context where
  span : Option SpanContext := some .invalid
  deferredParent : Option SpanContext := none
  values : Table String Value := ∅

namespace Context

/-- The context without a span. -/
def root : Context := {}

instance : Inhabited Context := ⟨root⟩

/-- The context with another current span. The deferred parent stays. -/
def setSpan (context : Context) (span : Option SpanContext) : Context :=
  { context with span }

/-- The context with an unrelated value set. -/
def setValue (context : Context) (key : String) (value : Value) : Context :=
  { context with values := context.values.set key value }

/-- The context whose current span is a parent from elsewhere, which is the deferred parent when
its decision is left open and otherwise replaces it. -/
def withRemote (context : Context) (span : Option SpanContext) (deferred : Bool) : Context :=
  { context with span, deferredParent := if deferred then span else none }

/-- The context without a usable span and without a deferred parent. -/
def withEmpty (context : Context) : Context :=
  { context with span := some .invalid, deferredParent := none }

/-- The span is the deferred parent of the context. -/
def isDeferredParent (context : Context) (span : Option SpanContext) : Bool :=
  SpanContext.sameOption context.deferredParent span

/-- The unrelated values in the order of their names. -/
def sortedValues (context : Context) : List (String × Value) :=
  context.values.entries.mergeSort fun a b => decide (a.1 ≤ b.1)

end Context

end TraceRelay
