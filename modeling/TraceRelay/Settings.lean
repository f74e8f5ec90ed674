import TraceRelay.Fault

/-!
# Settings

Two truth values that a process may change at any time. Anything but a truth value is refused and
changes nothing.
-/

set_option autoImplicit false

namespace TraceRelay

/-- The values of the settings. -/
structure Settings where
  logDecodeFailures : Bool := false
  includeTraceContext : Bool := false
  deriving DecidableEq

namespace Settings

/-- The value of a setting. -/
def get (settings : Settings) : Name → Bool
  | .logDecodeFailures => settings.logDecodeFailures
  | .includeTraceContext => settings.includeTraceContext

/-- The settings with one of them changed. -/
def put (settings : Settings) (name : Name) (on : Bool) : Settings :=
  match name with
  | .logDecodeFailures => { settings with logDecodeFailures := on }
  | .includeTraceContext => { settings with includeTraceContext := on }

/-- The settings with one of them changed to a value that has to be a truth value. -/
def assign (settings : Settings) (name : Name) : Value → Except Fault Settings
  | .bool on => .ok (settings.put name on)
  | value => .error (.setting name value)

/-- Whether the W3C headers travel along: as a choice says, or as the setting says when the
choice is null. -/
def choose (settings : Settings) : Value → Bool
  | .null => settings.includeTraceContext
  | choice => choice.isTruthy

end Settings

end TraceRelay
