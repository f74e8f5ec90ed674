import TraceRelay.Proofs.Propagator.Extraction
import TraceRelay.Proofs.Propagator.Injection

/-!
# Two formats in one context

The combined propagator is the one that is built with the W3C headers (`Propagator.including`). When
a session builds it is said by `Session.propagatorFor_run`. It reads the cloud trace header first
and then the W3C headers. The span of the result is the one that the W3C headers describe, if they
describe one, and the marker is always that of the cloud trace header. So a marker may be left
behind that names another span than the one it stands beside. It counts only when both headers tell
of the same parent: the same identifiers, no flags and no trace state (`extract_combined_iff`).
-/

set_option autoImplicit false

namespace TraceRelay

/-- An open parent is a span received from elsewhere exactly when it agrees with it in the
identifiers and the span has neither flags nor a trace state. -/
theorem SpanContext.IsOpenParent.eq_iff {marker span : SpanContext} (h : marker.IsOpenParent)
    (hspan : span.isRemote = true) :
    marker = span ↔ span.traceId = marker.traceId ∧ span.spanId = marker.spanId ∧
      span.flags = 0 ∧ span.state = ∅ := by
  constructor
  · rintro rfl
    exact ⟨rfl, rfl, h.flags, h.state⟩
  · rintro ⟨htrace, hid, hflags, hstate⟩
    obtain ⟨trace, id, isRemote, flags, state⟩ := span
    obtain ⟨trace', id', isRemote', flags', state'⟩ := marker
    have hremote : isRemote' = true := h.isRemote
    have hnone : flags' = 0 := h.flags
    have hempty : state' = ∅ := h.state
    simp only at htrace hid hflags hstate hspan
    subst htrace hid hflags hstate hspan hremote hnone hempty
    rfl

namespace Propagator

variable {headers : Headers} {base context : Context} {logFailures : Bool}

/-- Only what the cloud trace header leaves open makes a span the deferred parent, whatever came in
its place. -/
theorem isDeferredParent_iff_defers
    (hcloud : (CloudHeader.extract logFailures (.headers headers) base).result = .ok context)
    (span : SpanContext) :
    context.isDeferredParent (some span) = true ↔ (Carrier.headers headers).Defers span := by
  rw [Context.isDeferredParent_iff, CloudHeader.deferredParent_extract hcloud]
  intro marker hmarker
  exact ((CloudHeader.deferredParent_extract hcloud marker).mp hmarker).isOpenParent.state

/-- A span that was received is the deferred parent when it agrees with the parent that the cloud
trace header leaves open, without flags and state. -/
theorem isDeferredParent_iff_exists
    (hcloud : (CloudHeader.extract logFailures (.headers headers) base).result = .ok context)
    {span : SpanContext} (hremote : span.isRemote = true) :
    context.isDeferredParent (some span) = true ↔
      ∃ parent, (Carrier.headers headers).Defers parent ∧ span.traceId = parent.traceId ∧
        span.spanId = parent.spanId ∧ span.flags = 0 ∧ span.state = ∅ := by
  rw [isDeferredParent_iff_defers hcloud]
  constructor
  · intro hdefers
    exact ⟨span, hdefers, (hdefers.isOpenParent.eq_iff hremote).mp rfl⟩
  · rintro ⟨parent, hdefers, hsame⟩
    rwa [← (hdefers.isOpenParent.eq_iff hremote).mpr hsame]

/-- The cloud trace header alone makes the span of the context the deferred parent when it leaves
its decision open. -/
theorem isDeferredParent_span_iff
    (hcloud : (CloudHeader.extract logFailures (.headers headers) base).result = .ok context) :
    context.isDeferredParent context.span = true ↔
      ∃ parent, (Carrier.headers headers).Defers parent := by
  constructor
  · intro hdeferred
    cases hspan : context.span with
    | none =>
        cases CloudHeader.extracted_of_extract hcloud <;> cases hspan
    | some span =>
        rw [hspan, isDeferredParent_iff_defers hcloud] at hdeferred
        exact ⟨span, hdeferred⟩
  · rintro ⟨parent, hparent⟩
    have hspan : context.span = some parent := by
      obtain ⟨value, hfirst, hread⟩ := hparent
      rw [CloudHeader.extract_of_read hfirst hread] at hcloud
      cases hcloud
      rfl
    rw [hspan, isDeferredParent_iff_defers hcloud]
    exact hparent

/-- Of headers that hold texts, on which extraction of the cloud trace header gives a context, the
propagator that is built with the W3C headers gives that context when these describe no span, and
that context with the span they describe otherwise. Nothing but the unrelated values comes from the
base. The span of the result is the deferred parent when the cloud trace header leaves its decision
open and the W3C headers describe no span, or the same one without flags and state. The cloud trace
header that is written for a span of the W3C headers has the identifiers of that span, and it states
the decision of its flags unless the span is the deferred parent. -/
theorem extract_combined_iff (h : headers.HoldsTexts)
    (hcloud : (CloudHeader.extract logFailures (.headers headers) base).result = .ok context) :
    ∃ result, ((including true).extract logFailures (.headers headers) base).result = .ok result ∧
      ((∀ span, ¬ TraceParent.Describes headers span) → result = context) ∧
      (∀ span, TraceParent.Describes headers span →
        result = { context with span := some span }) ∧
      (∀ other : Context, other.values = base.values →
        ((including true).extract logFailures (.headers headers) other).result = .ok result) ∧
      (result.isDeferredParent result.span = true ↔
        ∃ parent, (Carrier.headers headers).Defers parent ∧
          ((∀ span, ¬ TraceParent.Describes headers span) ∨
            ∃ span, TraceParent.Describes headers span ∧ span.traceId = parent.traceId ∧
              span.spanId = parent.spanId ∧ span.flags = 0 ∧ span.state = ∅)) ∧
      ∀ span, TraceParent.Describes headers span →
        ∃ header : String,
          header.toList = CloudHeader.identifierChars span ++
            (if result.isDeferredParent (some span) then []
              else CloudHeader.flagsSuffix span.flags) ∧
          ∀ table : Headers, cloud.inject (.headers table) result =
            .ok (.headers (table.set (.text CloudHeader.name) (.text header))) := by
  obtain ⟨hnone, hsome⟩ := extract_combined h hcloud
  by_cases hdescribes : ∃ span, TraceParent.Describes headers span
  · obtain ⟨span, hspan⟩ := hdescribes
    have hunique : ∀ other, TraceParent.Describes headers other → other = span :=
      fun other hother => hother.eq h hspan
    refine ⟨{ context with span := some span }, hsome span hspan, ?_, ?_, ?_, ?_, ?_⟩
    · intro hnever
      exact absurd hspan (hnever span)
    · intro other hother
      rw [hunique other hother]
    · intro other hother
      rw [extract_congr hother]
      exact hsome span hspan
    · -- The marker is the one of the cloud trace header and may name another span.
      have hmarker : Context.isDeferredParent { context with span := some span } (some span) =
          context.isDeferredParent (some span) := rfl
      rw [hmarker, isDeferredParent_iff_exists hcloud hspan.isRemote]
      constructor
      · rintro ⟨parent, hdefers, hsame⟩
        exact ⟨parent, hdefers, Or.inr ⟨span, hspan, hsame⟩⟩
      · rintro ⟨parent, hdefers, hnever | ⟨other, hother, hsame⟩⟩
        · exact absurd hspan (hnever span)
        · rw [hunique other hother] at hsame
          exact ⟨parent, hdefers, hsame⟩
    · intro other hother
      rw [hunique other hother]
      refine ⟨_, ?_, fun table => inject_cloud rfl hspan.isValid table⟩
      rw [String.toList_ofList, CloudHeader.join_injected rfl]
  · have hnever : ∀ span, ¬ TraceParent.Describes headers span := by
      intro span hspan
      exact hdescribes ⟨span, hspan⟩
    refine ⟨context, hnone hnever, fun _ => rfl, ?_, ?_, ?_, ?_⟩
    · intro span hspan
      exact absurd hspan (hnever span)
    · intro other hother
      rw [extract_congr hother]
      exact hnone hnever
    · rw [isDeferredParent_span_iff hcloud]
      constructor
      · rintro ⟨parent, hparent⟩
        exact ⟨parent, hparent, Or.inl hnever⟩
      · rintro ⟨parent, hparent, -⟩
        exact ⟨parent, hparent⟩
    · intro span hspan
      exact absurd hspan (hnever span)

/-- Headers of one parent, which the first one leaves open and the second one calls sampled. -/
def disputedHeaders : Headers :=
  .written [
    (CloudHeader.name, "00000000000000000000000000000001/5"),
    (TraceParent.name, "00-00000000000000000000000000000001-0000000000000005-01")]

/-- Of disputed headers the second one is believed, and the marker that the first one leaves is not
counted. -/
theorem extract_disputedHeaders :
    disputedHeaders.HoldsTexts ∧
    ∃ (result : Context) (header : String),
      ((including true).extract false (.headers disputedHeaders) .root).result = .ok result ∧
      result.span = some ⟨1, 5, true, 1, ∅⟩ ∧
      result.isDeferredParent result.span = false ∧
      header.toList = "00000000000000000000000000000001/5;o=1".toList ∧
      cloud.inject (.headers ∅) result =
        .ok (.headers (Table.set ∅ (.text CloudHeader.name) (.text header))) := by
  have htexts : disputedHeaders.HoldsTexts :=
    (Headers.isTextual_written (by decide)).values
  have hdescribes : TraceParent.Describes disputedHeaders ⟨1, 5, true, 1, ∅⟩ :=
    (TraceParent.read_eq_some_iff htexts).mp rfl
  have hcloud : (CloudHeader.extract false (.headers disputedHeaders) .root).result =
      .ok { span := some ⟨1, 5, true, 0, ∅⟩, deferredParent := some ⟨1, 5, true, 0, ∅⟩ } := rfl
  obtain ⟨result, hextract, -, hresult, -, -, hinject⟩ := extract_combined_iff htexts hcloud
  obtain ⟨header, hheader, hset⟩ := hinject _ hdescribes
  rw [hresult _ hdescribes] at hheader hset hextract
  exact ⟨htexts, _, header, hextract, rfl, rfl, hheader, hset ∅⟩

end Propagator

end TraceRelay
