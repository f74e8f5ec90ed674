import TraceRelay.Session

/-!
# Settings along a run

A setting is changed by one kind of action only, and only when that action is given a truth value.
So after a run each setting is what the last accepted assignment to it says, and what it was before
the run when there is none (`get_settings_run`).
-/

set_option autoImplicit false

namespace TraceRelay

namespace Settings

theorem get_put (settings : Settings) (name other : Name) (on : Bool) :
    (settings.put other on).get name = if other = name then on else settings.get name := by
  cases name <;> cases other <;> rfl

end Settings

namespace Session

/-- The value that an action gives to a setting. An assignment of anything but a truth value is
refused and gives none. -/
def Action.accepted? (name : Settings.Name) : Action → Option Bool
  | .assign other (.bool on) => if other = name then some on else none
  | _ => none

/-- The value that the last accepted assignment among some actions gives to a setting. -/
def lastAccepted? (name : Settings.Name) (actions : List Action) : Option Bool :=
  actions.reverse.findSome? (Action.accepted? name)

/-- The first action is asked only when no later one gives a value. -/
theorem lastAccepted?_cons (name : Settings.Name) (action : Action) (rest : List Action) :
    lastAccepted? name (action :: rest) =
      (lastAccepted? name rest).or (action.accepted? name) := by
  rw [lastAccepted?, List.reverse_cons, List.findSome?_append, lastAccepted?]
  congr 1
  cases h : action.accepted? name <;> simp [h]

theorem settings_derive (session : Session) (step : Derivation) (base : Reference)
    (into : Option String) : (session.derive step base into).1.settings = session.settings := by
  rw [derive]
  cases (step.apply _ _).result with
  | error fault => rfl
  | ok context => cases into <;> rfl

/-- After an action a setting has the value that the action gives to it, and otherwise the one from
before. -/
theorem get_settings_step (session : Session) (action : Action) (name : Settings.Name) :
    (session.step action).1.settings.get name =
      (action.accepted? name).getD (session.settings.get name) := by
  cases action with
  | assign other value =>
      cases value with
      | bool on =>
          simp only [step, Settings.assign, Settings.get_put, Action.accepted?]
          split
          · rfl
          · rfl
      | _ => rfl
  | extract choice carrier base into =>
      rw [step, settings_derive]
      rfl
  | derive step base into =>
      rw [Session.step, settings_derive]
      rfl
  | detach =>
      rw [step]
      cases session.attached <;> rfl
  | _ => rfl

/-- After a run a setting has the value of the last accepted assignment to it, and without one it is
what it was. -/
theorem get_settings_run (session : Session) (actions : List Action) (name : Settings.Name) :
    (session.run actions).1.settings.get name =
      (lastAccepted? name actions).getD (session.settings.get name) := by
  induction actions generalizing session with
  | nil => rfl
  | cons action rest ih =>
      -- What the first action gives counts as the value from before for the others.
      rw [lastAccepted?_cons, run, ih, get_settings_step]
      cases lastAccepted? name rest <;> rfl

end Session

end TraceRelay
