import TraceRelay.Fault

/-!
# Records

Operations may leave records of what they did, whether they succeed or fail.
-/

set_option autoImplicit false

namespace TraceRelay

/-- How much a record matters. -/
inductive Level
  | debug
  | info
  deriving DecidableEq

/-- The name of a level. -/
def Level.label : Level → String
  | .debug => "DEBUG"
  | .info => "INFO"

/-- A line in the log of the part of the library that `logger` names. -/
structure Record where
  level : Level
  logger : String
  message : String
  deriving DecidableEq

universe u v

/-- What an operation gives back and the records it leaves. -/
structure Outcome (α : Type u) where
  result : Except Fault α
  records : List Record := []

namespace Outcome

variable {α : Type u} {β : Type v}

/-- Success without records. -/
def ok (value : α) : Outcome α := ⟨.ok value, []⟩

/-- Failure without records. -/
def error (fault : Fault) : Outcome α := ⟨.error fault, []⟩

/-- An outcome without records. -/
def silent (result : Except Fault α) : Outcome α := ⟨result, []⟩

/-- The outcome with another value in case of success. -/
def map (f : α → β) (outcome : Outcome α) : Outcome β :=
  ⟨outcome.result.map f, outcome.records⟩

/-- A second step that works on the value of the first one. -/
def bind (outcome : Outcome α) (f : α → Outcome β) : Outcome β :=
  match outcome.result with
  | .ok value => ⟨(f value).result, outcome.records ++ (f value).records⟩
  | .error fault => ⟨.error fault, outcome.records⟩

end Outcome

end TraceRelay
