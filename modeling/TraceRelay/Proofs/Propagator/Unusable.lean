import TraceRelay.Proofs.Propagator.Extraction
import TraceRelay.Proofs.Propagator.Injection

/-!
# Parents that cannot be used

A parent without a valid span should end where it was received. The cloud trace header is written
for valid spans only (`CloudHeader.writes_of_not_isValid`), but the W3C headers are written for
every span except the one that stands for none. Between these two guards lies the span identifier
zero, which the cloud trace header may name. So a parent that cannot be used is dropped, with one
exception: the combined propagator passes on a trace with zero for the span (`inject_unusable_iff`).
-/

set_option autoImplicit false

namespace TraceRelay

/-- The cloud trace header is accepted and describes the parent, but it names zero for the span. -/
def Headers.NamesZeroSpan (headers : Headers) (parent : CloudHeader.Parent) : Prop :=
  ∃ line, headers.firstText? CloudHeader.name = some line ∧
    CloudHeader.read (.text line) = .ok parent ∧ parent.span.spanId = 0

/-- No headers name two traces in this way. -/
theorem Headers.NamesZeroSpan.eq {headers : Headers} {a b : CloudHeader.Parent}
    (ha : headers.NamesZeroSpan a) (hb : headers.NamesZeroSpan b) : a = b := by
  obtain ⟨line, hline, hread, -⟩ := ha
  obtain ⟨other, hother, hreadOther, -⟩ := hb
  rw [hline] at hother
  cases hother
  rw [hread] at hreadOther
  exact Except.ok.inj hreadOther

/-- The context holds a span, and it is not valid. -/
def Context.IsUnusable (context : Context) : Prop :=
  ∃ span, context.span = some span ∧ span.isValid = false

/-- The W3C headers of a trace with zero for the span: a traceparent, and no trace state. -/
theorem TraceParent.writes_of_read {value : Value} {parent : CloudHeader.Parent}
    (hread : CloudHeader.read value = .ok parent) (hid : parent.span.spanId = 0) :
    ∃ header : String, writes parent.span = [(name, header)] ∧
      header.toList = "00-".toList ++ Numeral.hex 32 parent.span.traceId ++
        "-0000000000000000-0".toList ++ [if parent.decision = .sampled then '1' else '0'] := by
  obtain ⟨trace, id, decision, rfl, htrace, -⟩ := CloudHeader.exists_remote_of_read hread
  obtain rfl : id = 0 := hid
  refine ⟨write (.remote trace 0 decision), ?_, ?_⟩
  · -- The trace is not zero, so this is not the span that stands for none.
    have hsame : ¬ (SpanContext.remote trace 0 decision).same .invalid = true := by
      intro hsame
      simp only [SpanContext.same, Bool.and_eq_true, beq_iff_eq] at hsame
      have hzero : trace = 0 := hsame.1.1.1.1
      omega
    rw [writes, if_neg hsame]
    rfl
  · have htail : '-' :: Numeral.hex 16 0 ++ '-' :: Numeral.hex 2 decision.flags =
        "-0000000000000000-0".toList ++ [if decision = .sampled then '1' else '0'] := by
      cases decision <;> rfl
    rw [write, String.toList_ofList, format, SpanContext.remote, List.append_assoc, htail,
      ← List.append_assoc]
    rfl

namespace Propagator

variable {propagator : Propagator} {headers : Headers} {base context : Context}
  {logFailures : Bool}

/-- The W3C headers never describe a span that is not valid, so a context that cannot be used is
what the cloud trace header alone gave. -/
theorem extract_cloud_of_isUnusable (h : headers.HoldsTexts)
    (hextract : (propagator.extract logFailures (.headers headers) base).result = .ok context)
    (hunusable : context.IsUnusable) :
    (CloudHeader.extract logFailures (.headers headers) base).result = .ok context := by
  cases propagator with
  | cloud => exact hextract
  | combined =>
      obtain ⟨first, hfirst⟩ : ∃ first,
          (CloudHeader.extract logFailures (.headers headers) base).result = .ok first := by
        rw [result_extract_combined] at hextract
        cases hfirst : (CloudHeader.extract logFailures (.headers headers) base).result with
        | ok first => exact ⟨first, rfl⟩
        | error fault =>
            rw [hfirst] at hextract
            cases hextract
      obtain ⟨hnone, hsome⟩ := extract_combined h hfirst
      by_cases hdescribes : ∃ span, TraceParent.Describes headers span
      · obtain ⟨span, hspan⟩ := hdescribes
        rw [hsome span hspan] at hextract
        cases hextract
        obtain ⟨received, hreceived, hinvalid⟩ := hunusable
        cases hreceived
        rw [hspan.isValid] at hinvalid
        cases hinvalid
      · rw [hnone fun span hspan => hdescribes ⟨span, hspan⟩] at hextract
        rw [hfirst, hextract]

/-- A context that cannot be used holds no span at all, or the trace that the cloud trace header
names with zero for the span. -/
theorem span_of_isUnusable (h : headers.HoldsTexts)
    (hcloud : (CloudHeader.extract logFailures (.headers headers) base).result = .ok context)
    (hunusable : context.IsUnusable) :
    (context.span = some .invalid ∧ ∀ parent, ¬ headers.NamesZeroSpan parent) ∨
      ∃ parent, headers.NamesZeroSpan parent ∧ context.span = some parent.span := by
  have hfirst := h.firstValue_eq CloudHeader.name
  cases CloudHeader.extracted_of_extract hcloud with
  | absent habsent =>
      left
      refine ⟨rfl, ?_⟩
      rintro parent ⟨line, hline, -⟩
      rw [hfirst, hline] at habsent
      cases habsent
  | @refused value cause hvalue hrefused =>
      left
      refine ⟨rfl, ?_⟩
      rintro parent ⟨line, hline, hread, -⟩
      rw [hfirst, hline] at hvalue
      cases hvalue
      rw [hrefused] at hread
      cases hread
  | @parent value parent hvalue hread =>
      right
      obtain ⟨span, hspan, hinvalid⟩ := hunusable
      cases hspan
      rw [hfirst] at hvalue
      cases hline : headers.firstText? CloudHeader.name with
      | none =>
          rw [hline] at hvalue
          cases hvalue
      | some line =>
          rw [hline] at hvalue
          cases hvalue
          -- The identifiers are in range, so it can only be a zero.
          have hid : parent.span.spanId = 0 := by
            by_contra hne
            rw [CloudHeader.isValid_of_read hread hne] at hinvalid
            cases hinvalid
          exact ⟨parent, ⟨line, hline, hread, hid⟩, rfl⟩

/-- Let a context be extracted from headers that hold texts, and let its span not be valid.
Injecting it with the same propagator leaves every table as it is, unless the combined propagator
injects a trace that was named with zero for the span. In that case a traceparent is set with this
zero, and nothing else. -/
theorem inject_unusable_iff (h : headers.HoldsTexts)
    (hextract : (propagator.extract logFailures (.headers headers) base).result = .ok context)
    (hunusable : context.IsUnusable) :
    ((∀ table : Headers, propagator.inject (.headers table) context = .ok (.headers table)) ↔
      ¬ (propagator = .combined ∧ ∃ parent, headers.NamesZeroSpan parent)) ∧
    (propagator.writes context = .ok [] ↔
      ¬ (propagator = .combined ∧ ∃ parent, headers.NamesZeroSpan parent)) ∧
    ∀ parent, propagator = .combined → headers.NamesZeroSpan parent →
      ∃ header : String,
        header.toList = "00-".toList ++ Numeral.hex 32 parent.span.traceId ++
          "-0000000000000000-0".toList ++ [if parent.decision = .sampled then '1' else '0'] ∧
        propagator.writes context = .ok [(TraceParent.name, header)] ∧
        ∀ table : Headers, propagator.inject (.headers table) context =
          .ok (.headers (table.set (.text TraceParent.name) (.text header))) := by
  have hcases := span_of_isUnusable h (extract_cloud_of_isUnusable h hextract hunusable) hunusable
  obtain ⟨span, hspan, hinvalid⟩ := hunusable
  have hwrites := propagator.writes_of_not_isValid hspan hinvalid
  by_cases hexception : propagator = .combined ∧ ∃ parent, headers.NamesZeroSpan parent
  · have hnot := not_not.mpr hexception
    obtain ⟨rfl, parent, hzero⟩ := hexception
    have hunique : ∀ other, headers.NamesZeroSpan other → other = parent :=
      fun other hother => hother.eq hzero
    have hparent : span = parent.span := by
      rcases hcases with ⟨-, hnone⟩ | ⟨other, hother, hotherSpan⟩
      · exact absurd hzero (hnone parent)
      · rw [hspan, hunique other hother] at hotherSpan
        exact Option.some.inj hotherSpan
    obtain ⟨line, -, hread, hid⟩ := hzero
    obtain ⟨header, hheader, htext⟩ := TraceParent.writes_of_read hread hid
    have hset : combined.writes context = .ok [(TraceParent.name, header)] := by
      rw [hwrites, hparent, furtherWrites, hheader]
    have hinject : ∀ table : Headers, combined.inject (.headers table) context =
        .ok (.headers (table.set (.text TraceParent.name) (.text header))) := by
      intro table
      rw [inject, hset]
      rfl
    refine ⟨iff_of_false ?_ hnot, iff_of_false ?_ hnot, ?_⟩
    · intro hkeeps
      have hempty := hkeeps ∅
      rw [hinject] at hempty
      cases hempty
    · rw [hset]
      intro hnil
      cases hnil
    · intro other _ hother
      rw [hunique other hother]
      exact ⟨header, htext, hset, hinject⟩
  · have hnothing : propagator.writes context = .ok [] := by
      rw [hwrites]
      cases propagator with
      | cloud => rfl
      | combined =>
          rcases hcases with ⟨hnone, -⟩ | ⟨parent, hzero, -⟩
          · rw [hspan] at hnone
            cases hnone
            rfl
          · exact absurd ⟨rfl, parent, hzero⟩ hexception
    refine ⟨iff_of_true (inject_of_writes_nil hnothing) hexception,
      iff_of_true hnothing hexception, ?_⟩
    intro parent hcombined hzero
    exact absurd ⟨hcombined, parent, hzero⟩ hexception

/-- Headers that name a trace and zero for the span. -/
def zeroSpanHeaders : Headers :=
  .written [(CloudHeader.name, "00000000000000000000000000000001/0;o=1")]

/-- The cloud trace header alone drops a span with zero for its identifier, also in the place of a
valid span of the base. -/
theorem inject_zeroSpan_cloud :
    zeroSpanHeaders.HoldsTexts ∧
    ∃ context : Context,
      (cloud.extract true (.headers zeroSpanHeaders)
        { span := some ⟨2, 7, false, 1, ∅⟩ }).result = .ok context ∧
      context.IsUnusable ∧
      ∀ table : Headers, cloud.inject (.headers table) context = .ok (.headers table) := by
  have htexts : zeroSpanHeaders.HoldsTexts := (Headers.isTextual_written (by decide)).values
  have hextract : (cloud.extract true (.headers zeroSpanHeaders)
      { span := some ⟨2, 7, false, 1, ∅⟩ }).result =
      .ok { span := some ⟨1, 0, true, 1, ∅⟩ } := rfl
  have hunusable : Context.IsUnusable { span := some ⟨1, 0, true, 1, ∅⟩ } := ⟨_, rfl, rfl⟩
  obtain ⟨hkeeps, -, -⟩ := inject_unusable_iff htexts hextract hunusable
  refine ⟨htexts, _, hextract, hunusable, hkeeps.mpr ?_⟩
  rintro ⟨hcombined, -⟩
  cases hcombined

/-- Not every parent that cannot be used is dropped. -/
theorem not_drops_every_unusable :
    ¬ ∀ (propagator : Propagator) (logFailures : Bool) (base context : Context)
        (headers table : Headers), headers.HoldsTexts →
      (propagator.extract logFailures (.headers headers) base).result = .ok context →
      context.IsUnusable →
      propagator.inject (.headers table) context = .ok (.headers table) := by
  intro hdrops
  have hempty := hdrops .combined false .root { span := some ⟨1, 0, true, 1, ∅⟩ } zeroSpanHeaders ∅
    (Headers.isTextual_written (by decide)).values rfl ⟨_, rfl, rfl⟩
  have hset : combined.inject (.headers ∅) { span := some ⟨1, 0, true, 1, ∅⟩ } =
      .ok (.headers (Table.set ∅ (.text TraceParent.name)
        (.text "00-00000000000000000000000000000001-0000000000000000-01"))) := rfl
  rw [hset] at hempty
  cases hempty

end Propagator

end TraceRelay
