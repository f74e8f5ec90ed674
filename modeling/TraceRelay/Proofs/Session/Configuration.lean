import TraceRelay.Proofs.Session.Records

/-!
# Propagators along a run

A propagator is chosen when it is built or installed, under the setting of that moment. From then on
it stands in its place until another one is built or installed there (`propagatorOf_run`), and its
results do not depend on any setting (`Propagator.result_extract`). So of all that a session does,
changes of the settings reach only the propagators that are asked for later, without saying which
one, and what is left in the log. All of this holds after every run (`followsSettings_run`).
-/

set_option autoImplicit false

namespace TraceRelay

/-- What a propagator extracts is the same whether refused headers are recorded or not. -/
theorem Propagator.result_extract (propagator : Propagator) (carrier : Carrier) (base : Context)
    (logFailures other : Bool) :
    (propagator.extract logFailures carrier base).result =
      (propagator.extract other carrier base).result := by
  have hcloud := CloudHeader.result_extract carrier base logFailures other
  cases propagator with
  | cloud => exact hcloud
  | combined => rw [result_extract_combined, result_extract_combined, hcloud]

namespace Session

/-! ## Places of propagators -/

/-- What is said about the W3C headers by an action that puts a propagator into the place that a
choice stands for. -/
def Action.asks? : Choice → Action → Option Value
  | .built, .build includeTraceContext => some includeTraceContext
  | .installed, .install includeTraceContext => some includeTraceContext
  | _, _ => none

/-- A step from a context leaves the propagators. -/
theorem propagatorOf_derive (session : Session) (step : Derivation) (base : Reference)
    (into : Option String) (choice : Choice) :
    (session.derive step base into).1.propagatorOf choice = session.propagatorOf choice := by
  have hkeep : ∀ context,
      (session.keep into context).propagatorOf choice = session.propagatorOf choice := by
    intro context
    cases into <;> cases choice <;> rfl
  rw [derive]
  cases (step.apply _ _).result with
  | error fault => rfl
  | ok context => exact hkeep context

/-- After an action there is the propagator that the action asks for, and otherwise the one from
before. -/
theorem propagatorOf_step (session : Session) (action : Action) (choice : Choice) :
    (session.step action).1.propagatorOf choice =
      ((action.asks? choice).map session.propagatorFor).getD (session.propagatorOf choice) := by
  cases action with
  | extract other carrier base into =>
      rw [step, propagatorOf_derive]
      cases choice <;> rfl
  | derive step base into =>
      rw [Session.step, propagatorOf_derive]
      cases choice <;> rfl
  | detach =>
      rw [step]
      cases session.attached <;> cases choice <;> rfl
  | assign name value => cases value <;> cases choice <;> rfl
  | _ => cases choice <;> rfl

/-- A propagator stays in its place while no other one is asked for there. -/
theorem propagatorOf_run (session : Session) {actions : List Action} {choice : Choice}
    (h : ∀ action ∈ actions, action.asks? choice = none) :
    (session.run actions).1.propagatorOf choice = session.propagatorOf choice := by
  induction actions generalizing session with
  | nil => rfl
  | cons action rest ih =>
      have hrest := ih (session.step action).1 fun other hother =>
        h other (List.mem_cons_of_mem _ hother)
      rw [run, hrest, propagatorOf_step, h action List.mem_cons_self]
      rfl

/-- An action that asks for a propagator gives back the one that is asked for. -/
theorem result_step_of_asks (session : Session) {action : Action} {choice : Choice} {value : Value}
    (h : action.asks? choice = some value) :
    (session.step action).2.result = .ok (.propagator (session.propagatorFor value)) := by
  cases choice with
  | built =>
      cases action with
      | build asked =>
          cases h
          rfl
      | _ => cases h
  | installed =>
      cases action with
      | install asked =>
          cases h
          rfl
      | _ => cases h
  | _ => cases h

/-- Without truth values the settings cannot be changed: the action is refused, and the session
stays as it is. -/
theorem step_assign_of_kind_ne (session : Session) (name : Settings.Name) {value : Value}
    (h : value.kind ≠ .bool) :
    session.step (.assign name value) = (session, .error (.setting name value)) := by
  cases value with
  | bool on => exact absurd rfl h
  | _ => rfl

/-- Changes of the settings leave the contexts, whether they are accepted or not. -/
theorem resolve_run_assign (session : Session) {actions : List Action}
    (h : ∀ action ∈ actions, ∃ name value, action = .assign name value) (reference : Reference) :
    (session.run actions).1.resolve reference = session.resolve reference := by
  induction actions generalizing session with
  | nil => rfl
  | cons action rest ih =>
      obtain ⟨name, value, rfl⟩ := h _ List.mem_cons_self
      have hstep : (session.step (.assign name value)).1.resolve reference =
          session.resolve reference := by
        cases value <;> cases reference <;> rfl
      rw [run, ← hstep]
      exact ih _ fun other hother => h other (List.mem_cons_of_mem _ hother)

/-! ## What a session does with its settings -/

/-- After some actions of a session that began afresh, the W3C headers travel along with a
propagator that is asked for in this way: the last accepted setting says so and the choice is left
to it, or the choice is not null and counts as true. -/
def IncludesTraceContext (actions : List Action) (choice : Value) : Prop :=
  choice = .null ∧ lastAccepted? .includeTraceContext actions = some true ∨
    choice ≠ .null ∧ choice.isTruthy = true

/-- The propagator that is asked for carries the W3C headers when they travel along. -/
theorem propagatorFor_run (actions : List Action) (value : Value) :
    (run {} actions).1.propagatorFor value = .combined ↔ IncludesTraceContext actions value := by
  have hsetting := get_settings_run {} actions .includeTraceContext
  simp only [Settings.get] at hsetting
  have hincluding : ∀ on, Propagator.including on = .combined ↔ on = true := by decide
  rw [propagatorFor, hincluding, IncludesTraceContext]
  cases value with
  | null =>
      rw [Settings.choose, hsetting]
      cases lastAccepted? .includeTraceContext actions <;> simp
  | _ => simp [Settings.choose]

/-- In two sessions a choice stands for one propagator, which gives the same results: from the same
context it extracts the same or fails in the same way, and it injects the same. What extraction
leaves in the log may differ. -/
structure WorksAlike (session other : Session) (choice : Choice) : Prop where
  kind : other.propagatorOf choice = session.propagatorOf choice
  extract : ∀ carrier base otherBase into otherInto,
    other.resolve otherBase = session.resolve base →
      (other.step (.extract choice carrier otherBase otherInto)).2.result =
        (session.step (.extract choice carrier base into)).2.result
  inject : ∀ carrier context otherContext,
    other.resolve otherContext = session.resolve context →
      (other.step (.inject choice carrier otherContext)).2.result =
        (session.step (.inject choice carrier context)).2.result

/-- A choice that stands for one propagator works alike, whatever the settings. -/
theorem worksAlike_of_propagatorOf_eq {session other : Session} {choice : Choice}
    (h : other.propagatorOf choice = session.propagatorOf choice) :
    WorksAlike session other choice where
  kind := h
  extract carrier base otherBase into otherInto hbase := by
    have hextract := (session.propagatorOf choice).result_extract carrier (session.resolve base)
      other.settings.logDecodeFailures session.settings.logDecodeFailures
    simp only [step, derive, Derivation.apply, Outcome.map, h, hbase, hextract]
  inject carrier context otherContext hcontext := by
    simp only [step, Session.inject, h, hcontext]

/-- What holds of a session after some actions that it began afresh with. Each setting, a truth
value by its type, is the one that was last given to it as such, and false if there was none.
Anything but a truth value is refused and changes nothing at all. A propagator that is asked for
comes into its place, and it carries the W3C headers when they travel along at this moment. It stays
there and works alike while no other one is asked for in this place; and when all that happens is
that settings are changed, the contexts are the same, too. -/
structure FollowsSettings (actions : List Action) (session : Session) : Prop where
  setting : ∀ name, session.settings.get name = (lastAccepted? name actions).getD false
  refused : ∀ name value, value.kind ≠ .bool →
    session.step (.assign name value) = (session, .error (.setting name value))
  asked : ∀ action choice value, action.asks? choice = some value →
    ∃ propagator, (session.step action).2.result = .ok (.propagator propagator) ∧
      (session.step action).1.propagatorOf choice = propagator ∧
      (propagator = .combined ↔ IncludesTraceContext actions value)
  kept : ∀ later choice, (∀ action ∈ later, action.asks? choice = none) →
    WorksAlike session (session.run later).1 choice
  contexts : ∀ later, (∀ action ∈ later, ∃ name value, action = .assign name value) →
    ∀ reference, (session.run later).1.resolve reference = session.resolve reference

/-- Every run leads to a session that follows its settings, and a propagator that is held elsewhere
extracts the same whatever these settings are. -/
theorem followsSettings_run :
    (∀ actions, FollowsSettings actions (run {} actions).1) ∧
    ∀ (propagator : Propagator) (carrier : Carrier) (base : Context) (settings other : Settings),
      (propagator.extract settings.logDecodeFailures carrier base).result =
        (propagator.extract other.logDecodeFailures carrier base).result := by
  refine ⟨fun actions => ⟨?_, ?_, ?_, ?_, ?_⟩, ?_⟩
  · intro name
    rw [get_settings_run]
    cases name <;> rfl
  · intro name value hkind
    exact step_assign_of_kind_ne _ name hkind
  · intro action choice value hasks
    refine ⟨(run {} actions).1.propagatorFor value, result_step_of_asks _ hasks, ?_,
      propagatorFor_run actions value⟩
    rw [propagatorOf_step, hasks]
    rfl
  · intro later choice hlater
    exact worksAlike_of_propagatorOf_eq (propagatorOf_run _ hlater)
  · intro later hlater reference
    exact resolve_run_assign _ hlater reference
  · intro propagator carrier base settings other
    exact propagator.result_extract carrier base _ _

/-- The combined propagator is installed because the setting says so. -/
def opening : List Action :=
  [.assign .includeTraceContext (.bool true), .install .null]

/-- A zero is not taken for false, and then the setting is false. -/
def closing : List Action :=
  [.assign .includeTraceContext (.int 0), .assign .includeTraceContext (.bool false)]

/-- The propagator that was installed outlives the setting that chose it, and a propagator that is
built later does not carry the W3C headers. A choice that is not null goes before the setting: a
text with characters counts as true while the setting is false, and an empty list as false while it
is true. -/
theorem closing_keeps_installed :
    (Value.int 0).kind ≠ .bool ∧
    (run {} opening).1.step (.assign .includeTraceContext (.int 0)) =
      ((run {} opening).1, .error (.setting .includeTraceContext (.int 0))) ∧
    (run {} (opening ++ closing)).1.settings.get .includeTraceContext = false ∧
    (∃ propagator, ((run {} (opening ++ closing)).1.step (.build .null)).2.result =
      .ok (.propagator propagator) ∧ propagator ≠ .combined) ∧
    (∃ propagator, ((run {} (opening ++ closing)).1.step (.build (.text "no"))).2.result =
      .ok (.propagator propagator) ∧ propagator = .combined) ∧
    (∃ propagator, ((run {} opening).1.step (.install (.list []))).2.result =
      .ok (.propagator propagator) ∧ propagator ≠ .combined) ∧
    (run {} (opening ++ closing)).1.propagatorOf .installed = .combined ∧
    ∀ carrier base,
      ((run {} (opening ++ closing)).1.step (.extract .installed carrier base none)).2.result =
        ((run {} opening).1.step (.extract .installed carrier base none)).2.result := by
  have hkind : (Value.int 0).kind ≠ .bool := by decide
  have hclosing : ∀ action ∈ closing, action.asks? .installed = none := by
    simp [closing, Action.asks?]
  have hassign : ∀ action ∈ closing, ∃ name value, action = .assign name value := by
    simp [closing]
  obtain ⟨hruns, -⟩ := followsSettings_run
  have hkept := (hruns opening).kept closing .installed hclosing
  obtain ⟨unsaid, hunsaid, -, hunsaid_iff⟩ :=
    (hruns (opening ++ closing)).asked (.build .null) .built .null rfl
  obtain ⟨truthy, htruthy, -, htruthy_iff⟩ :=
    (hruns (opening ++ closing)).asked (.build (.text "no")) .built (.text "no") rfl
  obtain ⟨falsy, hfalsy, -, hfalsy_iff⟩ :=
    (hruns opening).asked (.install (.list [])) .installed (.list []) rfl
  refine ⟨hkind, (hruns opening).refused _ _ hkind, ?_, ⟨unsaid, hunsaid, ?_⟩,
    ⟨truthy, htruthy, ?_⟩, ⟨falsy, hfalsy, ?_⟩, hkept.kind, ?_⟩
  · rw [(hruns (opening ++ closing)).setting]
    rfl
  · rw [Ne, hunsaid_iff]
    rintro (⟨-, hlast⟩ | ⟨hnull, -⟩)
    · cases hlast
    · exact hnull rfl
  · rw [htruthy_iff]
    exact Or.inr ⟨nofun, rfl⟩
  · rw [Ne, hfalsy_iff]
    rintro (⟨hnull, -⟩ | ⟨-, hlist⟩)
    · cases hnull
    · cases hlist
  · intro carrier base
    exact hkept.extract carrier base base none none
      ((hruns opening).contexts closing hassign base)

end Session

end TraceRelay
