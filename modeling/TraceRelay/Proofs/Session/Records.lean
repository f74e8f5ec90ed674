import TraceRelay.Proofs.Propagator.Extraction
import TraceRelay.Proofs.Session.Settings

/-!
# Records of refused headers

Whether refused headers are recorded makes no difference to what is extracted. Where they are
recorded, extraction leaves one record for a header that is refused and none in any other case
(`CloudHeader.recordsRefusals`). So the records of a run are those of the headers that were refused
while the last accepted setting was to record them, in their order (`Session.records_run`).
-/

set_option autoImplicit false

namespace TraceRelay

/-! ## Refused headers -/

namespace Carrier

variable {carrier : Carrier}

/-- There are values under the name of the cloud trace header, and the first of them is refused for
this cause. -/
def Refuses (carrier : Carrier) (cause : HeaderFault) : Prop :=
  ∃ value rest, carrier.values CloudHeader.name = .ok (some (value :: rest)) ∧
    CloudHeader.read value = .error (.header cause)

/-- The cause for which the header of a carrier is refused, if it is. -/
def refusal? (carrier : Carrier) : Option HeaderFault :=
  match carrier.firstValue CloudHeader.name with
  | .ok (some value) =>
      match CloudHeader.read value with
      | .error (.header cause) => some cause
      | _ => none
  | _ => none

theorem firstValue_eq_some_iff {name : String} {value : Value} :
    carrier.firstValue name = .ok (some value) ↔
      ∃ rest, carrier.values name = .ok (some (value :: rest)) := by
  rw [firstValue]
  rcases carrier.values name with fault | - | - | ⟨first, rest⟩ <;>
    simp [bind, Except.bind, pure, Except.pure]

/-- The cause that is found is the one for which the header is refused. -/
theorem refusal?_eq_some_iff {cause : HeaderFault} :
    carrier.refusal? = some cause ↔ carrier.Refuses cause := by
  have hrefuses : carrier.Refuses cause ↔
      ∃ value, carrier.firstValue CloudHeader.name = .ok (some value) ∧
        CloudHeader.read value = .error (.header cause) := by
    simp only [firstValue_eq_some_iff, Refuses]
    constructor
    · rintro ⟨value, rest, hvalues, hread⟩
      exact ⟨value, ⟨rest, hvalues⟩, hread⟩
    · rintro ⟨value, ⟨rest, hvalues⟩, hread⟩
      exact ⟨value, rest, hvalues, hread⟩
  rw [hrefuses, refusal?]
  rcases carrier.firstValue CloudHeader.name with fault | - | value
  · simp
  · simp
  · rcases hread : CloudHeader.read value with fault | parent
    · cases fault <;> simp [hread]
    · simp [hread]

/-- Whether the header of a carrier is refused can be found out. -/
instance : Decidable (∃ cause, carrier.Refuses cause) :=
  decidable_of_iff (carrier.refusal?.isSome = true) <| by
    simp only [Option.isSome_iff_exists, refusal?_eq_some_iff]

/-- The record of the refused header of a carrier, if there is one and such records are left. -/
def record? (recorded : Bool) (carrier : Carrier) : Option Record :=
  if recorded then carrier.refusal?.map CloudHeader.refusal else none

/-- A value that counts as false is an empty header, in which there is no separator. -/
theorem refuses_of_not_isTruthy {value : Value} {rest : List Value}
    (hvalues : carrier.values CloudHeader.name = .ok (some (value :: rest)))
    (hfalse : value.isTruthy = false) : carrier.Refuses (.missingSeparator "") := by
  refine ⟨value, rest, hvalues, ?_⟩
  rw [CloudHeader.read, CloudHeader.ofValue, hfalse]
  rfl

end Carrier

/-! ## One extraction -/

namespace CloudHeader

/-- What is extracted is the same whether refused headers are recorded or not. -/
theorem result_extract (carrier : Carrier) (base : Context) (logFailures other : Bool) :
    (extract logFailures carrier base).result = (extract other carrier base).result := by
  simp only [extract]
  split
  · rfl
  · rfl
  · split <;> rfl

/-- The records of extraction are that of a refused header. -/
theorem records_extract (logFailures : Bool) (carrier : Carrier) (base : Context) :
    (extract logFailures carrier base).records = (carrier.record? logFailures).toList := by
  rw [Carrier.record?, Carrier.refusal?]
  -- Of the ways out of extraction, only that of a refused header leaves a record.
  cases hfirst : carrier.firstValue name with
  | error fault => simp [extract, hfirst, Outcome.error]
  | ok first =>
      cases first with
      | none => simp [extract, hfirst, Outcome.ok]
      | some value =>
          cases hread : read value with
          | ok parent => simp [extract, hfirst, hread, Outcome.ok]
          | error fault =>
              cases fault with
              | header cause => cases logFailures <;> simp [extract, hfirst, hread]
              | _ => simp [extract, hfirst, hread, Outcome.error]

/-- Whether refused headers are recorded decides what extraction leaves in the log, and that only.
A header that is refused leaves one record, which names the category of the very refusal and has its
text. A first value that counts as false is refused like an empty text. -/
structure RecordsRefusals (carrier : Carrier) (base : Context) : Prop where
  result : (extract true carrier base).result = (extract false carrier base).result
  silent : (extract false carrier base).records = []
  refused : ∀ cause, carrier.Refuses cause →
    (extract true carrier base).records = [⟨.debug, logger,
      "Ignoring " ++ cause.category.label ++ " header: " ++ (Fault.header cause).message⟩]
  otherwise : (¬ ∃ cause, carrier.Refuses cause) → (extract true carrier base).records = []
  empty : ∀ value rest, carrier.values name = .ok (some (value :: rest)) →
    value.isTruthy = false → carrier.Refuses (.missingSeparator "")

/-- Extraction records refused headers and nothing else. -/
theorem recordsRefusals (carrier : Carrier) (base : Context) : RecordsRefusals carrier base where
  result := result_extract carrier base true false
  silent := records_extract false carrier base
  refused cause hrefuses := by
    rw [records_extract, Carrier.record?, Carrier.refusal?_eq_some_iff.mpr hrefuses]
    rfl
  otherwise hnone := by
    have hrefusal : carrier.refusal? = none := by
      rw [Option.eq_none_iff_forall_ne_some]
      intro cause hcause
      exact hnone ⟨cause, Carrier.refusal?_eq_some_iff.mp hcause⟩
    rw [records_extract, Carrier.record?, hrefusal]
    rfl
  empty _ _ hvalues hfalse := Carrier.refuses_of_not_isTruthy hvalues hfalse

end CloudHeader

/-- Either propagator leaves the records of the cloud trace header. -/
theorem Propagator.records_extract (logFailures : Bool) (propagator : Propagator)
    (carrier : Carrier) (base : Context) :
    (propagator.extract logFailures carrier base).records =
      (carrier.record? logFailures).toList := by
  rw [← CloudHeader.records_extract logFailures carrier base]
  cases propagator with
  | cloud => rfl
  | combined =>
      rw [extract, Outcome.bind]
      cases (CloudHeader.extract logFailures carrier base).result with
      | error fault => rfl
      | ok context =>
          exact List.append_nil _

theorem Inbound.records_parentContext (logFailures : Bool) (headers : Carrier) (base : Context) :
    (parentContext logFailures headers base).records =
      ((lowered headers).toOption.bind (Carrier.record? logFailures)).toList := by
  rw [parentContext]
  cases lowered headers with
  | error fault => rfl
  | ok carrier => exact CloudHeader.records_extract logFailures carrier base

/-! ## A run -/

namespace Session

/-- The carrier in which an action looks for the cloud trace header. -/
def Action.reads? : Action → Option Carrier
  | .extract _ carrier _ _ | .derive (.extract _ carrier) _ _ => some carrier
  | .derive (.extractParent headers) _ _ | .serverSpan _ headers _ =>
      (Inbound.lowered headers).toOption
  | _ => none

/-- The action finds a header that is refused. -/
def Action.IsRefused (action : Action) : Prop :=
  ∃ carrier ∈ action.reads?, ∃ cause, carrier.Refuses cause

/-- Whether an action finds a refused header can be found out. -/
instance : DecidablePred Action.IsRefused :=
  fun action => match h : action.reads? with
    | none => isFalse <| by simp [Action.IsRefused, h]
    | some carrier => decidable_of_iff (∃ cause, carrier.Refuses cause) <| by
        simp [Action.IsRefused, h]

/-- The record of the refused header that an action finds, if there is one and such records are
left. -/
def Action.record? (recorded : Bool) (action : Action) : Option Record :=
  action.reads?.bind (Carrier.record? recorded)

/-- There is a record for the actions that find a refused header, when such records are left. -/
theorem Action.isSome_record? (recorded : Bool) (action : Action) :
    (action.record? recorded).isSome = (recorded && decide action.IsRefused) := by
  have hrefused : action.IsRefused ↔ ∃ carrier ∈ action.reads?, carrier.refusal?.isSome = true := by
    simp only [IsRefused, Option.isSome_iff_exists, Carrier.refusal?_eq_some_iff]
  rw [Bool.eq_iff_iff, Bool.and_eq_true, decide_eq_true_eq, hrefused, record?]
  cases action.reads? with
  | none => simp
  | some carrier => cases recorded <;> simp [Carrier.record?]

/-- After some actions of a session, refused headers are recorded. -/
def recordsAfter (session : Session) (actions : List Action) : Bool :=
  (lastAccepted? .logDecodeFailures actions).getD session.settings.logDecodeFailures

theorem recordsAfter_cons (session : Session) (action : Action) (rest : List Action) :
    session.recordsAfter (action :: rest) = (session.step action).1.recordsAfter rest := by
  have hstep := get_settings_step session action .logDecodeFailures
  simp only [Settings.get] at hstep
  rw [recordsAfter, recordsAfter, lastAccepted?_cons, hstep]
  cases lastAccepted? .logDecodeFailures rest <;> rfl

/-- Unless it installs a propagator, an action leaves the record of the refused header that it
finds, and no other one. -/
theorem records_step (session : Session) {action : Action}
    (h : ∀ choice, action ≠ .install choice) :
    (session.step action).2.records =
      (action.record? session.settings.logDecodeFailures).toList := by
  cases action with
  | extract choice carrier base into =>
      exact Propagator.records_extract _ _ carrier _
  | derive step base into =>
      cases step with
      | extract propagator carrier => exact propagator.records_extract _ carrier _
      | extractParent headers => exact Inbound.records_parentContext _ headers _
      | _ => rfl
  | serverSpan name headers attributes => exact Inbound.records_parentContext _ headers _
  | detach =>
      rw [step]
      cases session.attached <;> rfl
  | assign name value => cases value <;> rfl
  | install choice => exact absurd rfl (h choice)
  | _ => rfl

/-- The records of a run are those of the refused headers that its actions find while the last
accepted setting was to record them, in their order. -/
theorem records_run (session : Session) {actions : List Action}
    (h : ∀ action ∈ actions, ∀ choice, action ≠ .install choice) :
    (session.run actions).2.flatMap Outcome.records =
      actions.zipIdx.filterMap fun entry =>
        entry.1.record? (session.recordsAfter (actions.take entry.2)) := by
  induction actions generalizing session with
  | nil => rfl
  | cons action rest ih =>
      have hfirst := records_step session (h action List.mem_cons_self)
      have hrest := ih (session.step action).1 fun other hother =>
        h other (List.mem_cons_of_mem _ hother)
      -- Behind the first action, positions and settings are those of the session it leads to.
      have hshift : (fun entry : Action × Nat =>
            entry.1.record? (session.recordsAfter ((action :: rest).take entry.2))) ∘
          (fun entry : Action × Nat => (entry.1, entry.2 + 1)) =
          fun entry => entry.1.record? ((session.step action).1.recordsAfter
            (rest.take entry.2)) := by
        funext entry
        simp only [Function.comp, List.take_succ_cons, recordsAfter_cons]
      rw [run, List.flatMap_cons, hfirst, hrest, List.zipIdx_cons, List.filterMap_cons,
        List.zipIdx_succ, List.filterMap_map, hshift]
      have hstart : session.recordsAfter ((action :: rest).take 0) =
          session.settings.logDecodeFailures := rfl
      rw [hstart]
      cases action.record? session.settings.logDecodeFailures <;> rfl

/-- Extraction from a table with a value for the cloud trace header. -/
def Action.ofValue (value : Value) : Action :=
  .extract .cloud (.headers (Table.ofList [(.text CloudHeader.name, value)])) .current none

/-- Refused and missing headers, with settings between them that are accepted or not. -/
def rehearsal : List Action :=
  [.ofValue (.text ""), .assign .logDecodeFailures (.bool true), .ofValue (.list [.null]),
    .assign .logDecodeFailures (.int 0), .ofValue (.text "1/2"), .ofValue (.list []),
    .assign .includeTraceContext (.bool false), .ofValue (.list [.int 7]), .ofValue (.int 0),
    .assign .logDecodeFailures (.bool false), .ofValue (.text "")]

end Session

end TraceRelay
