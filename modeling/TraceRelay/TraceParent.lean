import TraceRelay.SpanContext
import TraceRelay.Text.Classes

/-!
# The traceparent header

Version, trace identifier, span identifier and trace flags in hexadecimal digits, with hyphens
between them. Later versions may go on behind another hyphen. Padding before and behind is
ignored, and so is one line feed at the end.
-/

set_option autoImplicit false

namespace TraceRelay

/-- What a traceparent header says about a span. -/
structure TraceParent where
  traceId : Nat
  spanId : Nat
  flags : Nat
  deriving DecidableEq

namespace TraceParent

/-- The name of the header. -/
def name : String := "traceparent"

/-- The greatest length of a header that is looked at. -/
def maxLength : Nat := 512

/-! ## Reading -/

/-- A field of `width` hexadecimal digits and what follows it. -/
def hexField? (width : Nat) (cs : List Char) : Option (List Char × List Char) :=
  let field := cs.take width
  if field.length = width ∧ field.all Numeral.isHexDigit then some (field, cs.drop width)
  else none

/-- What follows a hyphen. -/
def afterHyphen? : List Char → Option (List Char)
  | '-' :: cs => some cs
  | _ => none

/-- The text without one line feed at its end. -/
def dropLineFeed (cs : List Char) : List Char :=
  if cs.getLast? = some '\n' then cs.dropLast else cs

/-- What may stand behind the flags. -/
inductive Ending
  | plain
  | extended
  deriving DecidableEq

/-- The ending that the text behind the flags makes, if it is one. -/
def ending? (cs : List Char) : Option Ending :=
  let body := dropLineFeed cs
  match body with
  | '-' :: rest => if rest.contains '\n' then none else some .extended
  | _ => if body.all Text.isPadding then some .plain else none

/-- The version allows the ending. The last version is never used, and the first one ends with
its flags. -/
def allows (version : List Char) (ending : Ending) : Bool :=
  version != ['f', 'f'] && (version != ['0', '0'] || ending == .plain)

/-- What a header says, if it is well formed and neither identifier is zero. -/
def parse? (header : List Char) : Option TraceParent := do
  let (version, cs) ← hexField? 2 (header.dropWhile Text.isPadding)
  let (trace, cs) ← hexField? 32 (← afterHyphen? cs)
  let (span, cs) ← hexField? 16 (← afterHyphen? cs)
  let (flags, cs) ← hexField? 2 (← afterHyphen? cs)
  let ending ← ending? cs
  let parent : TraceParent :=
    ⟨Numeral.value 16 trace, Numeral.value 16 span, Numeral.value 16 flags⟩
  if allows version ending && parent.traceId != 0 && parent.spanId != 0 then some parent else none

/-- The remote span context with the given state. -/
def spanContext (parent : TraceParent) (state : TraceState) : SpanContext :=
  ⟨parent.traceId, parent.spanId, true, parent.flags, state⟩

/-! ## Writing -/

/-- The characters of the header of a span context. -/
def format (span : SpanContext) : List Char :=
  ['0', '0', '-'] ++ Numeral.hex 32 span.traceId ++ '-' :: Numeral.hex 16 span.spanId ++
    '-' :: Numeral.hex 2 span.flags

/-- The header of a span context. -/
def write (span : SpanContext) : String :=
  String.ofList (format span)

end TraceParent

end TraceRelay
