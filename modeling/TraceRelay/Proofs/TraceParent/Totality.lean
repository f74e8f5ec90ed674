import TraceRelay.Proofs.Carrier.Textual
import TraceRelay.Proofs.TraceState.Reading

/-!
# The W3C headers never fail on texts

Whatever texts stand under the W3C names, extraction gives a context: a traceparent that is too
long or not well formed leaves the base as it is, and a bad tracestate counts as empty
(`extract_total`).
-/

set_option autoImplicit false

namespace TraceRelay

namespace TraceState

/-- The text of the header in a table: what stands under its name, with a comma between values. -/
def textOf (headers : Headers) : List Char :=
  joined (headers.texts name)

/-- The values of the header in a table of texts are read as its text. -/
theorem exists_values {headers : Headers} (h : headers.HoldsTexts) :
    ∃ values, (Carrier.headers headers).values name = .ok values ∧
      ofValues (values.getD []) = .ok (ofText (textOf headers)) := by
  obtain ⟨hvalues, -⟩ := Carrier.values_of_isTextual name fun _ => h.get?
  refine ⟨_, hvalues, ?_⟩
  rw [textOf, Headers.texts, ← ofValues_text]
  cases (headers.get? (.text name)).map Value.texts with
  | none => rfl
  | some lines => rfl

end TraceState

namespace TraceParent

/-- What a line says, if it is short enough to be looked at and acceptable. -/
def ofLine? (line : String) : Option TraceParent :=
  if maxLength < line.length then none else parse? line.toList

/-- A text is looked at as the line it is. -/
theorem ofValue_text (line : String) : ofValue (.text line) = .ok (ofLine? line) := by
  have hline : ofValue (.text line) =
      if maxLength < line.length then .ok none else .ok (parse? line.toList) := rfl
  rw [hline, ofLine?]
  split
  · rfl
  · rfl

/-- Headers that hold texts can always be read. The first text under the name of the header counts,
with the state that the text of the trace state is read as. -/
theorem read_of_holdsTexts {headers : Headers} (h : headers.HoldsTexts) :
    read (.headers headers) =
      .ok (((headers.firstText? name).bind ofLine?).map
        (·.spanContext (TraceState.ofText (TraceState.textOf headers)))) := by
  rw [read, h.firstValue_eq]
  cases headers.firstText? name with
  | none => rfl
  | some line =>
      -- The trace state is looked at only behind an acceptable traceparent.
      cases hfound : ofLine? line with
      | none => simp [bind, Except.bind, ofValue_text, hfound, pure, Except.pure]
      | some parent =>
          obtain ⟨values, hvalues, hstate⟩ := TraceState.exists_values h
          simp [bind, Except.bind, ofValue_text, hfound, hvalues, hstate, pure, Except.pure]

theorem read_total {headers : Headers} (h : headers.HoldsTexts) :
    ∃ found, read (.headers headers) = .ok found :=
  ⟨_, read_of_holdsTexts h⟩

theorem extract_total {headers : Headers} (h : headers.HoldsTexts) (base : Context) :
    ∃ context, extract (.headers headers) base = .ok context := by
  obtain ⟨found, hfound⟩ := read_total h
  rw [extract, hfound]
  cases found with
  | none => exact ⟨base, rfl⟩
  | some span => exact ⟨base.setSpan (some span), rfl⟩

end TraceParent

end TraceRelay
