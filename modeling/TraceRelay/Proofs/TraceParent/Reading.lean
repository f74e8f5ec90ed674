import TraceRelay.Proofs.CloudHeader.Grammar
import TraceRelay.Proofs.TraceParent.Grammar
import TraceRelay.Proofs.TraceParent.Totality

/-!
# Reading the W3C headers

Headers describe a span in the W3C way when the first text under the name of the traceparent is
short enough and spells out acceptable parts. The identifiers and the flags are those of the parts,
and the state is the one that the texts of the trace state describe when they are joined by commas.
Reading finds this span, and none when there is no such line (`read_eq_some_iff`).
-/

set_option autoImplicit false

namespace TraceRelay.TraceParent

/-- The span that the W3C headers describe. -/
def Describes (headers : Headers) (span : SpanContext) : Prop :=
  ∃ (line : String) (parts : Parts) (state : TraceState),
    headers.firstText? name = some line ∧ line.length ≤ 512 ∧ parts.IsSpelledBy line.toList ∧
      TraceState.Describes (TraceState.textOf headers) state ∧
        span = parts.parent.spanContext state

theorem ofLine?_eq_some_iff {line : String} {parent : TraceParent} :
    ofLine? line = some parent ↔ line.length ≤ 512 ∧
      ∃ parts : Parts, parts.IsSpelledBy line.toList ∧ parent = parts.parent := by
  have hlength : maxLength < line.length ↔ ¬ line.length ≤ 512 := not_le.symm
  simp only [ofLine?, hlength, ← parse?_eq_some_iff]
  by_cases hshort : line.length ≤ 512 <;> simp [hshort]

variable {headers : Headers}

/-- Reading finds the span that the headers describe, and no other. -/
theorem read_eq_some_iff (h : headers.HoldsTexts) {span : SpanContext} :
    read (.headers headers) = .ok (some span) ↔ Describes headers span := by
  rw [read_of_holdsTexts h, Except.ok.injEq]
  simp only [Option.map_eq_some_iff, Option.bind_eq_some_iff, ofLine?_eq_some_iff]
  constructor
  · rintro ⟨parent, ⟨line, hline, hlength, parts, hparts, rfl⟩, rfl⟩
    exact ⟨line, parts, _, hline, hlength, hparts, TraceState.ofText_eq_iff.mp rfl, rfl⟩
  · rintro ⟨line, parts, state, hline, hlength, hparts, hstate, rfl⟩
    rw [← TraceState.ofText_eq_iff] at hstate
    subst hstate
    exact ⟨parts.parent, ⟨line, hline, hlength, parts, hparts, rfl⟩, rfl⟩

/-- Extraction puts the span that the headers describe in the place of the span of the base. -/
theorem extract_of_describes (h : headers.HoldsTexts) {span : SpanContext}
    (hspan : Describes headers span) (base : Context) :
    extract (.headers headers) base = .ok { base with span := some span } := by
  rw [extract, (read_eq_some_iff h).mpr hspan]
  rfl

/-- Without such a span extraction gives the base. -/
theorem extract_of_not_describes (h : headers.HoldsTexts)
    (hnone : ∀ span, ¬ Describes headers span) (base : Context) :
    extract (.headers headers) base = .ok base := by
  obtain ⟨found, hfound⟩ := read_total h
  cases found with
  | none =>
      rw [extract, hfound]
      rfl
  | some span => exact absurd ((read_eq_some_iff h).mp hfound) (hnone span)

/-- No headers describe two spans. -/
theorem Describes.eq (h : headers.HoldsTexts) {a b : SpanContext} (ha : Describes headers a)
    (hb : Describes headers b) : a = b := by
  rw [← read_eq_some_iff h] at ha hb
  rw [ha] at hb
  exact Option.some.inj (Except.ok.inj hb)

theorem Describes.isRemote {span : SpanContext} (h : Describes headers span) :
    span.isRemote = true := by
  obtain ⟨line, parts, state, -, -, -, -, rfl⟩ := h
  rfl

/-- The span that headers describe is valid. -/
theorem Describes.isValid {span : SpanContext} (h : Describes headers span) :
    span.isValid = true := by
  obtain ⟨line, parts, state, -, -, hparts, -, rfl⟩ := h
  have htrace := Numeral.numberOf_lt (by omega) hparts.trace.digits
  have hspan := Numeral.numberOf_lt (by omega) hparts.span.digits
  have htrace_ne := (numberOf_ne_zero_iff hparts.trace.digits).mpr hparts.traceNonzero
  have hspan_ne := (numberOf_ne_zero_iff hparts.span.digits).mpr hparts.spanNonzero
  rw [hparts.trace.length_eq] at htrace
  rw [hparts.span.length_eq] at hspan
  rw [SpanContext.isValid_iff]
  simp only [spanContext, Parts.parent]
  omega

end TraceRelay.TraceParent
