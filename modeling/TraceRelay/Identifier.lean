import TraceRelay.Numeral

/-!
# Identifiers

Traces and spans are identified by numbers. A trace identifier has 128 bits and is not zero. A
span identifier has 64 bits, and the header format reserves none of its values. Identifiers are
integers here, since callers may hold numbers that are out of range, and those too have a written
form.
-/

set_option autoImplicit false

namespace TraceRelay.Identifier

/-- The greatest trace identifier. -/
def maxTraceId : Int := 0xffffffffffffffffffffffffffffffff

/-- The greatest span identifier. -/
def maxSpanId : Int := 0xffffffffffffffff

/-- The number identifies a trace. -/
def isTraceId (id : Int) : Bool :=
  0 < id && id ≤ maxTraceId

/-- The number identifies a span, in the sense of the header format. -/
def isSpanId (id : Int) : Bool :=
  0 ≤ id && id ≤ maxSpanId

/-- The width of a trace identifier in hexadecimal. -/
def traceIdWidth : Nat := 32

/-- The written form of a trace identifier. -/
def traceIdChars (id : Int) : List Char :=
  Numeral.hex traceIdWidth id

/-- The written form of a span identifier, unless it has too many digits. -/
def spanIdChars (id : Int) : Option (List Char) :=
  Numeral.decimal? id

end TraceRelay.Identifier
