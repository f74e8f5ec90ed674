import TraceRelay.Proofs.CloudHeader.Reading
import TraceRelay.Proofs.TraceParent.Reading

/-!
# What extraction gives

Extraction of the cloud trace header replaces the span and the deferred parent of the base and
keeps the rest. It ends in one of three ways, which `Extracted` names with everything that leads to
them. With the combined propagator the span that the W3C headers describe, if there is one, comes
in the place of the one that was extracted first (`extract_combined`).
-/

set_option autoImplicit false

namespace TraceRelay

namespace CloudHeader

variable {carrier : Carrier} {base context : Context} {logFailures : Bool}

/-- The context that extraction of the cloud trace header gives on top of a base. -/
inductive Extracted (carrier : Carrier) (base : Context) : Context → Prop
  /-- There is no value. -/
  | absent (hfirst : carrier.firstValue name = .ok none) : Extracted carrier base base.withEmpty
  /-- The first value is refused. -/
  | refused {value : Value} {cause : HeaderFault}
      (hfirst : carrier.firstValue name = .ok (some value))
      (hread : read value = .error (.header cause)) : Extracted carrier base base.withEmpty
  /-- The first value describes a parent. -/
  | parent {value : Value} {parent : Parent}
      (hfirst : carrier.firstValue name = .ok (some value)) (hread : read value = .ok parent) :
      Extracted carrier base (base.withRemote (some parent.span) (parent.decision == .deferred))

/-- Extraction that gives a context gives it in one of the three ways. -/
theorem extracted_of_extract (h : (extract logFailures carrier base).result = .ok context) :
    Extracted carrier base context := by
  rw [extract] at h
  cases hfirst : carrier.firstValue name with
  | error fault =>
      rw [hfirst] at h
      cases h
  | ok first =>
      rw [hfirst] at h
      cases first with
      | none =>
          cases h
          exact .absent hfirst
      | some value =>
          cases hread : read value with
          | ok parent =>
              simp only [hread] at h
              cases h
              exact .parent hfirst hread
          | error fault =>
              simp only [hread] at h
              cases fault with
              | header cause =>
                  cases h
                  exact .refused hfirst hread
              | _ => cases h

/-- Extraction of a value that describes a parent. -/
theorem extract_of_read {value : Value} {parent : Parent}
    (hfirst : carrier.firstValue name = .ok (some value)) (hread : read value = .ok parent) :
    extract logFailures carrier base =
      .ok (base.withRemote (some parent.span) (parent.decision == .deferred)) := by
  simp only [extract, hfirst, hread]

theorem extract_of_absent (hfirst : carrier.firstValue name = .ok none) :
    extract logFailures carrier base = .ok base.withEmpty := by
  simp only [extract, hfirst]

/-- Extraction of a value that is refused. Only the record depends on the setting. -/
theorem extract_of_refused {value : Value} {cause : HeaderFault}
    (hfirst : carrier.firstValue name = .ok (some value))
    (hread : read value = .error (.header cause)) :
    extract logFailures carrier base =
      ⟨.ok base.withEmpty, if logFailures then [refusal cause] else []⟩ := by
  simp only [extract, hfirst, hread]

theorem extract_of_fault {value : Value} {fault : Fault}
    (hfirst : carrier.firstValue name = .ok (some value)) (hread : read value = .error fault)
    (hother : ∀ cause, fault ≠ .header cause) :
    extract logFailures carrier base = .error fault := by
  simp only [extract, hfirst, hread]

/-- Of the base, extraction sees the unrelated values only. -/
theorem extract_congr {other : Context} (h : other.values = base.values) :
    extract logFailures carrier other = extract logFailures carrier base := by
  have hempty : other.withEmpty = base.withEmpty := by
    simp only [Context.withEmpty, h]
  have hremote : other.withRemote = base.withRemote := by
    funext span deferred
    simp only [Context.withRemote, h]
  simp only [extract, hempty, hremote]

end CloudHeader

namespace Propagator

variable {headers : Headers} {base context : Context} {logFailures : Bool}

/-- The combined propagator reads the W3C headers on top of the context that the cloud trace header
gave. -/
theorem result_extract_combined (logFailures : Bool) (carrier : Carrier) (base : Context) :
    (combined.extract logFailures carrier base).result =
      (CloudHeader.extract logFailures carrier base).result.bind
        (TraceParent.extract carrier) := by
  rw [extract, Outcome.bind]
  cases (CloudHeader.extract logFailures carrier base).result with
  | error fault => rfl
  | ok context => rfl

/-- With the combined propagator a span that the W3C headers describe comes in the place of the one
that the cloud trace header gave, and without one the context is the one it gave. -/
theorem extract_combined (h : headers.HoldsTexts)
    (hcloud : (CloudHeader.extract logFailures (.headers headers) base).result = .ok context) :
    ((∀ span, ¬ TraceParent.Describes headers span) →
      (combined.extract logFailures (.headers headers) base).result = .ok context) ∧
    ∀ span, TraceParent.Describes headers span →
      (combined.extract logFailures (.headers headers) base).result =
        .ok { context with span := some span } := by
  rw [result_extract_combined, hcloud]
  exact ⟨fun hnone => TraceParent.extract_of_not_describes h hnone context,
    fun span hspan => TraceParent.extract_of_describes h hspan context⟩

/-- Of the base, extraction sees the unrelated values only, with either propagator. -/
theorem extract_congr {propagator : Propagator} {carrier : Carrier} {other : Context}
    (h : other.values = base.values) :
    propagator.extract logFailures carrier other = propagator.extract logFailures carrier base := by
  simp only [extract, CloudHeader.extract_congr h]

end Propagator

/-! ## The deferred parent -/

/-- The first value under the name of the header describes the span, with an open decision. -/
def Carrier.Defers (carrier : Carrier) (span : SpanContext) : Prop :=
  ∃ value, carrier.firstValue CloudHeader.name = .ok (some value) ∧
    CloudHeader.read value = .ok ⟨span, .deferred⟩

/-- Extraction of the cloud trace header sets the marker to the parent it decodes with an open
decision, and clears it in all other cases. -/
theorem CloudHeader.deferredParent_extract {logFailures : Bool} {carrier : Carrier}
    {base context : Context} (h : (extract logFailures carrier base).result = .ok context)
    (marker : SpanContext) : context.deferredParent = some marker ↔ carrier.Defers marker := by
  rw [Carrier.Defers]
  cases extracted_of_extract h with
  | absent hfirst => simp [Context.withEmpty, hfirst]
  | refused hfirst hread => simp [Context.withEmpty, hfirst, hread]
  | @parent value parent hfirst hread =>
      obtain ⟨span, decision⟩ := parent
      cases decision <;> simp [Context.withRemote, hfirst, hread]

/-- Extraction of the W3C headers never touches the marker. -/
theorem TraceParent.deferredParent_extract {carrier : Carrier} {base context : Context}
    (h : extract carrier base = .ok context) : context.deferredParent = base.deferredParent := by
  rw [extract] at h
  cases hread : read carrier with
  | error fault =>
      rw [hread] at h
      cases h
  | ok found =>
      rw [hread] at h
      cases found with
      | none =>
          cases h
          rfl
      | some span =>
          cases h
          rfl

/-- With either propagator the cloud trace header alone decides the marker. -/
theorem Propagator.deferredParent_extract {logFailures : Bool} {propagator : Propagator}
    {carrier : Carrier} {base context : Context}
    (h : (propagator.extract logFailures carrier base).result = .ok context)
    (marker : SpanContext) : context.deferredParent = some marker ↔ carrier.Defers marker := by
  cases propagator with
  | cloud => exact CloudHeader.deferredParent_extract h marker
  | combined =>
      rw [result_extract_combined] at h
      cases hfirst : (CloudHeader.extract logFailures carrier base).result with
      | error fault =>
          rw [hfirst] at h
          cases h
      | ok first =>
          rw [hfirst] at h
          rw [TraceParent.deferredParent_extract h]
          exact CloudHeader.deferredParent_extract hfirst marker

/-- What a header without a decision describes: identifiers in range, received from elsewhere, no
flags and no trace state. -/
structure SpanContext.IsOpenParent (span : SpanContext) : Prop where
  traceId : 1 ≤ span.traceId ∧ span.traceId < 2 ^ 128
  spanId : 0 ≤ span.spanId ∧ span.spanId < 2 ^ 64
  isRemote : span.isRemote = true
  flags : span.flags = 0
  state : span.state = ∅

/-- A span that is decoded with an open decision is an open parent. -/
theorem Carrier.Defers.isOpenParent {carrier : Carrier} {span : SpanContext}
    (h : carrier.Defers span) : span.IsOpenParent := by
  obtain ⟨value, -, hread⟩ := h
  obtain ⟨trace, id, decision, hparent, htrace, hid⟩ := CloudHeader.exists_remote_of_read hread
  cases hparent
  exact ⟨htrace, hid, rfl, rfl, rfl⟩

end TraceRelay
