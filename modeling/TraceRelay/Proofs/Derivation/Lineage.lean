import TraceRelay.Proofs.Propagator.Extraction
import TraceRelay.Proofs.Propagator.Injection

/-!
# Lineages of contexts

A lineage is the list of steps that lead from the root to a context. Some steps keep the deferred
parent of their base, although the span may change under it. The others reset it: to the parent
they decode when its decision is open, and to none otherwise. So the last step that resets it
decides what it is (`Lineage.deferredParent_iff`), and a marker that is left behind by an earlier
step is harmless, since it equals no span but the one that was decoded
(`Lineage.states_decision_iff`).
-/

set_option autoImplicit false

namespace TraceRelay

/-! ## Steps -/

namespace Derivation

/-- The steps of lineages: all of them, except that no parent is put in by hand as one with an open
decision. -/
def IsOrdinary : Derivation → Prop
  | .withRemote _ deferred => deferred = false
  | _ => True

/-- The step leaves the deferred parent of its base in place. -/
def keepsMarker : Derivation → Bool
  | .setSpan _ | .setValue _ _ => true
  | _ => false

/-- The step decodes the span from a header, with an open decision. -/
def Defers : Derivation → SpanContext → Prop
  | .extract _ carrier, span => carrier.Defers span
  | .extractParent headers, span =>
      ∃ carrier, Inbound.lowered headers = .ok carrier ∧ carrier.Defers span
  | _, _ => False

/-- The last step that resets the deferred parent. -/
def lastReset? (steps : List Derivation) : Option Derivation :=
  steps.reverse.find? fun step => !step.keepsMarker

end Derivation

/-- The context comes from the root by the steps. Refused headers may be recorded or not, step by
step. -/
inductive Lineage : List Derivation → Context → Prop
  | root : Lineage [] .root
  | step {steps : List Derivation} {base context : Context} {step : Derivation}
      (logFailures : Bool) (hbase : Lineage steps base) (hstep : step.IsOrdinary)
      (happly : (step.apply logFailures base).result = .ok context) :
      Lineage (steps ++ [step]) context

/-! ## What one step does to the deferred parent -/

namespace Derivation

variable {logFailures : Bool} {base context : Context} {step : Derivation}

/-- Steps that keep the marker keep it. -/
theorem deferredParent_of_keepsMarker (hkeeps : step.keepsMarker = true)
    (h : (step.apply logFailures base).result = .ok context) :
    context.deferredParent = base.deferredParent := by
  cases step with
  | setSpan span =>
      cases h
      rfl
  | setValue key value =>
      cases h
      rfl
  | _ => cases hkeeps

/-- All other steps set it to what they decode with an open decision, and to nothing else. -/
theorem deferredParent_of_not_keepsMarker (hstep : step.IsOrdinary)
    (hresets : step.keepsMarker = false)
    (h : (step.apply logFailures base).result = .ok context) (marker : SpanContext) :
    context.deferredParent = some marker ↔ step.Defers marker := by
  cases step with
  | extract propagator carrier => exact Propagator.deferredParent_extract h marker
  | extractParent headers =>
      simp only [apply, Inbound.parentContext] at h
      rw [Defers]
      cases hlowered : Inbound.lowered headers with
      | error fault =>
          rw [hlowered] at h
          cases h
      | ok carrier =>
          rw [hlowered] at h
          simpa using CloudHeader.deferredParent_extract h marker
  | setSpan span => cases hresets
  | setValue key value => cases hresets
  | withRemote span deferred =>
      obtain rfl : deferred = false := hstep
      cases h
      simp [Context.withRemote, Defers]
  | withEmpty =>
      cases h
      simp [Context.withEmpty, Defers]

/-- A step that keeps the marker is passed over in the search for the last one that resets it. -/
theorem lastReset?_append_singleton (steps : List Derivation) (step : Derivation) :
    lastReset? (steps ++ [step]) = if step.keepsMarker then lastReset? steps else some step := by
  rw [lastReset?, List.reverse_concat, List.find?_cons]
  cases step.keepsMarker with
  | true => rfl
  | false => rfl

/-- What a step decodes with an open decision is an open parent. -/
theorem Defers.isOpenParent {span : SpanContext} (h : step.Defers span) : span.IsOpenParent := by
  cases step with
  | extract propagator carrier => exact Carrier.Defers.isOpenParent h
  | extractParent headers =>
      obtain ⟨carrier, -, hdefers⟩ := h
      exact hdefers.isOpenParent
  | _ => exact False.elim h

end Derivation

/-! ## What lineages do to the deferred parent -/

namespace Lineage

variable {steps : List Derivation} {context : Context}

/-- The deferred parent is what the last step that resets it decoded with an open decision. -/
theorem deferredParent_iff (h : Lineage steps context) (marker : SpanContext) :
    context.deferredParent = some marker ↔
      ∃ step, Derivation.lastReset? steps = some step ∧ step.Defers marker := by
  induction h with
  | root => simp [Context.root, Derivation.lastReset?]
  | @step steps base context step logFailures _ hstep happly ih =>
      -- The last step either passes the question on to its base or answers it alone.
      rw [Derivation.lastReset?_append_singleton]
      cases hkeeps : step.keepsMarker with
      | true =>
          rw [Derivation.deferredParent_of_keepsMarker hkeeps happly]
          exact ih
      | false =>
          rw [Derivation.deferredParent_of_not_keepsMarker hstep hkeeps happly]
          simp

/-- Whatever the steps, the deferred parent is an open parent. -/
theorem isOpenParent (h : Lineage steps context) {marker : SpanContext}
    (hmarker : context.deferredParent = some marker) : marker.IsOpenParent := by
  obtain ⟨step, -, hdefers⟩ := (h.deferredParent_iff marker).mp hmarker
  exact hdefers.isOpenParent

/-! ## What is injected from a lineage -/

/-- In a context that the root leads to, the deferred parent is none or what the last step that
resets it decoded with an open decision. Injection of the cloud trace header leaves the decision
open for that span and for no other valid one: all others, and all that were not received from
elsewhere, state the decision that their flags record. In a session this holds of the context when
it is the current one and when it is passed by a name under which it is kept. -/
theorem states_decision_iff (h : Lineage steps context) :
    (∀ marker, context.deferredParent = some marker ↔
      ∃ step, Derivation.lastReset? steps = some step ∧ step.Defers marker) ∧
    (∀ marker, context.deferredParent = some marker → marker.IsOpenParent) ∧
    ∀ span, context.span = some span → span.isValid = true →
      (span.isRemote = false → context.deferredParent ≠ some span) ∧
      ∃ header : String,
        (';' ∉ header.toList ↔ context.deferredParent = some span) ∧
        (context.deferredParent = some span →
          header.toList = CloudHeader.identifierChars span) ∧
        (context.deferredParent ≠ some span →
          header.toList =
            CloudHeader.identifierChars span ++ CloudHeader.flagsSuffix span.flags) ∧
        ∀ table : Headers,
          let sent : Headers := table.set (.text CloudHeader.name) (.text header)
          Propagator.cloud.inject (.headers table) context = .ok (.headers sent) ∧
          ∀ session : Session,
            (session.current = context →
              session.inject .cloud (.headers table) .current =
                .ok (.injected (.headers sent) [(CloudHeader.name, header)])) ∧
            ∀ name, session.contexts.get? name = some context →
              session.inject .cloud (.headers table) (.named name) =
                .ok (.injected (.headers sent) [(CloudHeader.name, header)]) := by
  refine ⟨h.deferredParent_iff, fun marker => h.isOpenParent, ?_⟩
  intro span hspan hvalid
  have hstate : ∀ marker, context.deferredParent = some marker → marker.state = ∅ := by
    intro marker hmarker
    exact (h.isOpenParent hmarker).state
  refine ⟨?_, _, ?_, ?_, ?_, fun table => ⟨Propagator.inject_cloud hspan hvalid table, ?_⟩⟩
  · intro hlocal hmarker
    have hremote := (h.isOpenParent hmarker).isRemote
    rw [hlocal] at hremote
    cases hremote
  -- The marker may be stale here. It counts only when it equals the span in every part.
  · rw [String.toList_ofList, CloudHeader.semicolon_mem_join_iff, not_not]
    by_cases hmarker : context.deferredParent = some span
    · simp [CloudHeader.injectedDecision_of_eq hspan hstate hmarker, hmarker]
    · simp [CloudHeader.injectedDecision_of_ne hspan hstate hmarker, hmarker,
        (CloudHeader.suffixChars_ofFlags span.flags).2]
  · intro hmarker
    rw [String.toList_ofList, CloudHeader.join_writtenFields,
      CloudHeader.injectedDecision_of_eq hspan hstate hmarker]
    exact List.append_nil _
  · intro hmarker
    rw [String.toList_ofList, CloudHeader.join_writtenFields,
      CloudHeader.injectedDecision_of_ne hspan hstate hmarker,
      (CloudHeader.suffixChars_ofFlags span.flags).1]
  · intro session
    refine ⟨?_, ?_⟩
    · intro hcurrent
      have hresolve : session.resolve .current = context := hcurrent
      exact Session.inject_cloud hresolve hspan hvalid table
    · intro name hname
      have hresolve : session.resolve (.named name) = context := by
        rw [Session.resolve, hname]
        rfl
      exact Session.inject_cloud hresolve hspan hvalid table

/-- A parent is extracted with an open decision, and a span with the same identifiers is started
under it. -/
def handover : List Derivation := [
  .extract .combined (.headers (Table.ofList
    [(.text "x-cloud-trace-context", .text "00000000000000000000000000000001/05;")])),
  .setSpan (some ⟨1, 5, false, 0, ∅⟩),
  .setValue "peer" (.text "upstream")]

/-- Where it leads to: the marker is still there. -/
def handoverContext : Context where
  span := some ⟨1, 5, false, 0, ∅⟩
  deferredParent := some ⟨1, 5, true, 0, ∅⟩
  values := Table.ofList [("peer", .text "upstream")]

theorem lineage_handover : Lineage handover handoverContext := by
  have hextract : Lineage [handover[0]]
      { span := some ⟨1, 5, true, 0, ∅⟩, deferredParent := some ⟨1, 5, true, 0, ∅⟩ } :=
    .step false .root trivial rfl
  have hspan : Lineage [handover[0], handover[1]]
      { span := some ⟨1, 5, false, 0, ∅⟩, deferredParent := some ⟨1, 5, true, 0, ∅⟩ } :=
    .step false hextract trivial rfl
  exact .step false hspan trivial rfl

/-- The span that was started states its decision, in the current context and in one that is
passed. -/
theorem handover_states_decision :
    Lineage handover handoverContext ∧
    ∃ header : String,
      header.toList = "00000000000000000000000000000001/5;o=0".toList ∧
      Session.inject { current := handoverContext } .cloud (.headers ∅) .current =
        .ok (.injected (.headers (Table.set ∅ (.text CloudHeader.name) (.text header)))
          [(CloudHeader.name, header)]) ∧
      Session.inject { contexts := Table.ofList [("received", handoverContext)] } .cloud
          (.headers ∅) (.named "received") =
        .ok (.injected (.headers (Table.set ∅ (.text CloudHeader.name) (.text header)))
          [(CloudHeader.name, header)]) := by
  obtain ⟨-, -, hspans⟩ := states_decision_iff lineage_handover
  obtain ⟨hlocal, header, -, -, hstated, hinject⟩ :=
    hspans ⟨1, 5, false, 0, ∅⟩ rfl (by decide)
  obtain ⟨-, hsession⟩ := hinject ∅
  exact ⟨lineage_handover, header, (hstated (hlocal rfl)).trans rfl, (hsession _).1 rfl,
    (hsession _).2 "received" rfl⟩

end Lineage

end TraceRelay
