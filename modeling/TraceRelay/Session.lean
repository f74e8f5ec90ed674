import TraceRelay.Requests
import TraceRelay.Settings

/-!
# Sessions

A derivation is a step from one context to another. A session is what a process holds while it
relays traces: its settings, the current context and the ones it was attached over, contexts by
name, the propagator that is installed, and the one that was built last. Each action of a session
has an outcome, and a failed action leaves the session as it was.
-/

set_option autoImplicit false

namespace TraceRelay

/-! ## Derivations -/

/-- A step from a context to a context. -/
inductive Derivation
  | extract (propagator : Propagator) (carrier : Carrier)
  | extractParent (headers : Carrier)
  | setSpan (span : Option SpanContext)
  | setValue (key : String) (value : Value)
  | withRemote (span : Option SpanContext) (deferred : Bool)
  | withEmpty

namespace Derivation

/-- The context that a step leads to. -/
def apply (logFailures : Bool) (base : Context) : Derivation → Outcome Context
  | .extract propagator carrier => propagator.extract logFailures carrier base
  | .extractParent headers => Inbound.parentContext logFailures headers base
  | .setSpan span => .ok (base.setSpan span)
  | .setValue key value => .ok (base.setValue key value)
  | .withRemote span deferred => .ok (base.withRemote span deferred)
  | .withEmpty => .ok base.withEmpty

end Derivation

/-! ## State -/

/-- The state of a session. -/
structure Session where
  settings : Settings := {}
  current : Context := .root
  attached : List Context := []
  contexts : Table String Context := ∅
  installed : Propagator := .cloud
  built : Propagator := .cloud

namespace Session

/-! ## Actions -/

/-- A context: the current one or one that was named. -/
inductive Reference
  | current
  | named (name : String)

/-- A propagator: the one for the cloud trace header, the one that clients use, the installed one,
or the one that was built last. -/
inductive Choice
  | cloud
  | client
  | installed
  | built

/-- What can be done in a session. A context that an action makes is kept under the name `into`,
if there is one. -/
inductive Action
  | extract (choice : Choice) (carrier : Carrier) (base : Reference) (into : Option String)
  | derive (step : Derivation) (base : Reference) (into : Option String)
  | inject (choice : Choice) (carrier : Carrier) (context : Reference)
  | serverSpan (name : String) (headers : Carrier) (attributes : Value)
  | spanContext (context : Reference)
  | isDeferred (span : Option SpanContext) (context : Reference)
  | context (reference : Reference)
  | attach (context : Reference)
  | detach
  | assign (name : Settings.Name) (value : Value)
  | settings
  | build (includeTraceContext : Value)
  | install (includeTraceContext : Value)

/-- What an action gives back. -/
inductive Answer
  | nothing
  | context (context : Context)
  | injected (carrier : Carrier) (writes : List Carrier.Write)
  | spanStart (start : Inbound.SpanStart)
  | spanContext (span : Option SpanContext)
  | truth (holds : Bool)
  | settings (settings : Settings)
  | propagator (propagator : Propagator)

/-! ## Running -/

/-- The context a reference stands for. A name that was never given stands for the root. -/
def resolve (session : Session) : Reference → Context
  | .current => session.current
  | .named name => (session.contexts.get? name).getD .root

/-- The propagator that a choice stands for. -/
def propagatorOf (session : Session) : Choice → Propagator
  | .cloud => .cloud
  | .client => Outbound.propagator
  | .installed => session.installed
  | .built => session.built

/-- The session with a context kept under a name. -/
def keep (session : Session) (into : Option String) (context : Context) : Session :=
  match into with
  | none => session
  | some name => { session with contexts := session.contexts.set name context }

/-- A step from a context, with the result kept on success. -/
def derive (session : Session) (step : Derivation) (base : Reference) (into : Option String) :
    Session × Outcome Answer :=
  let outcome := step.apply session.settings.logDecodeFailures (session.resolve base)
  let next :=
    match outcome.result with
    | .ok context => session.keep into context
    | .error _ => session
  (next, outcome.map .context)

/-- The carrier with the span of a context injected, and the headers that were set in it. -/
def inject (session : Session) (choice : Choice) (carrier : Carrier) (context : Reference) :
    Except Fault Answer := do
  let writes ← (session.propagatorOf choice).writes (session.resolve context)
  return .injected (← carrier.setAll writes) writes

/-- The propagator that a choice of W3C headers asks for under the settings. -/
def propagatorFor (session : Session) (includeTraceContext : Value) : Propagator :=
  .including (session.settings.choose includeTraceContext)

/-- The session after an action, and the outcome of the action. -/
def step (session : Session) : Action → Session × Outcome Answer
  | .extract choice carrier base into =>
      session.derive (.extract (session.propagatorOf choice) carrier) base into
  | .derive step base into => session.derive step base into
  | .inject choice carrier context =>
      (session, .silent (session.inject choice carrier context))
  | .serverSpan name headers attributes =>
      (session,
        (Inbound.serverSpan session.settings.logDecodeFailures name headers attributes
          session.current).map .spanStart)
  | .spanContext context => (session, .ok (.spanContext (session.resolve context).span))
  | .isDeferred span context =>
      (session, .ok (.truth ((session.resolve context).isDeferredParent span)))
  | .context reference => (session, .ok (.context (session.resolve reference)))
  | .attach reference =>
      let context := session.resolve reference
      ({ session with current := context, attached := session.current :: session.attached },
        .ok (.context context))
  | .detach =>
      match session.attached with
      | [] => (session, .ok (.context session.current))
      | context :: rest =>
          ({ session with current := context, attached := rest }, .ok (.context context))
  | .assign name value =>
      match session.settings.assign name value with
      | .ok settings => ({ session with settings }, .ok .nothing)
      | .error fault => (session, .error fault)
  | .settings => (session, .ok (.settings session.settings))
  | .build includeTraceContext =>
      let propagator := session.propagatorFor includeTraceContext
      ({ session with built := propagator }, .ok (.propagator propagator))
  | .install includeTraceContext =>
      let propagator := session.propagatorFor includeTraceContext
      ({ session with installed := propagator },
        ⟨.ok (.propagator propagator), [propagator.installation]⟩)

/-- The session after a list of actions, and their outcomes. -/
def run (session : Session) : List Action → Session × List (Outcome Answer)
  | [] => (session, [])
  | action :: rest =>
      let (next, outcome) := session.step action
      let (last, outcomes) := next.run rest
      (last, outcome :: outcomes)

end Session

end TraceRelay
