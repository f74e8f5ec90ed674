import TraceRelay.Value

/-!
# Sampling decisions

A parent has been sampled, has not been sampled, or leaves the decision open. The header says so
by its suffix. Trace flags record sampled or not in their lowest bit and cannot express an open
decision.
-/

set_option autoImplicit false

namespace TraceRelay

/-- What is known about the sampling of a parent. -/
inductive Decision
  | sampled
  | notSampled
  | deferred
  deriving DecidableEq

namespace Decision

/-- The decisions, those with a suffix first. -/
def all : List Decision := [.sampled, .notSampled, .deferred]

/-- The suffix that states a decision. An open decision has the empty one. -/
def suffix : Decision → String
  | .sampled => "o=1"
  | .notSampled => "o=0"
  | .deferred => ""

/-- The decision a suffix states. Unknown and missing suffixes leave it open. -/
def ofSuffix (suffix : Option String) : Decision :=
  if suffix = some sampled.suffix then .sampled
  else if suffix = some notSampled.suffix then .notSampled
  else .deferred

/-- The decision a value states when it is taken for a suffix. -/
def ofValue : Value → Decision
  | .text s => ofSuffix (some s)
  | _ => ofSuffix none

/-- The decision trace flags record: their lowest bit, in two's complement. -/
def ofFlags (flags : Int) : Decision :=
  if flags % 2 = 1 then .sampled else .notSampled

/-- The trace flags that record a decision. No bit but the lowest is ever set. -/
def flags : Decision → Int
  | .sampled => 1
  | .notSampled | .deferred => 0

end Decision

end TraceRelay
