import TraceRelay.Proofs.CloudHeader.Writing
import TraceRelay.Proofs.Numeral.Canonical

/-!
# The canonical header

An accepted line may have blanks around it, redundant zeros in its span field, and any suffix. The
header that is written for what it describes has none of this: it keeps the trace field as it
stands and the significant digits of the span field, and it has a suffix only for a decision that
is stated (`writtenFields_parent`). That header describes the same parent (`read_headerOf`), so it
is the one representative of all lines that do, and the line itself is that header exactly when
nothing in it is redundant (`reformat_canonical`).
-/

set_option autoImplicit false

namespace TraceRelay.CloudHeader

open Numeral

/-! ## Canonical fields -/

/-- The fields without redundant zeros in the span, and without a suffix that states nothing. -/
def Fields.canonical (fields : Fields) : Fields :=
  ⟨fields.trace, significant fields.span, statedSuffix fields.decision⟩

/-- A suffix is what is written for the decision it states exactly when it is missing or one of
the two that state something. -/
theorem Fields.statedSuffix_decision_eq_iff (fields : Fields) :
    statedSuffix fields.decision = fields.suffix ↔
      fields.suffix = none ∨ fields.suffix = some ['o', '=', '0'] ∨
        fields.suffix = some ['o', '=', '1'] := by
  obtain ⟨trace, span, suffix⟩ := fields
  simp only [Fields.decision]
  by_cases hsampled : suffix = some ['o', '=', '1']
  · subst hsampled
    simp [statedSuffix]
  · by_cases hnotSampled : suffix = some ['o', '=', '0']
    · subst hnotSampled
      simp [statedSuffix]
    · simp [statedSuffix, hsampled, hnotSampled, eq_comm]

theorem Fields.canonical_eq_self_iff {fields : Fields} (hspan : fields.span ≠ []) :
    fields.canonical = fields ↔ IsPlain fields.span ∧
      (fields.suffix = none ∨ fields.suffix = some ['o', '=', '0'] ∨
        fields.suffix = some ['o', '=', '1']) := by
  rw [← fields.statedSuffix_decision_eq_iff, ← significant_eq_self_iff hspan]
  obtain ⟨trace, span, suffix⟩ := fields
  simp only [Fields.canonical, Fields.mk.injEq, true_and]

/-- What is written for the parent of fields are the fields in canonical form. -/
theorem writtenFields_parent {fields : Fields} (htrace : IsTraceField fields.trace)
    (hspan : IsSpanField fields.span) :
    writtenFields fields.parent.span fields.decision = fields.canonical := by
  have htrace_ne : fields.trace ≠ [] := by
    intro hnil
    have hlength := htrace.length_eq
    rw [hnil] at hlength
    cases hlength
  have hhex : hex 32 (numberOf 16 fields.trace) = fields.trace := by
    have hwidth := hex_numberOf htrace_ne htrace.digits
    rwa [htrace.length_eq] at hwidth
  have hdecimal : Numeral.decimal (numberOf 10 fields.span) = significant fields.span :=
    decimal_numberOf hspan.ne_nil hspan.digits
  simp only [writtenFields, Fields.parent, Fields.canonical, hhex, hdecimal]

/-! ## The header of a parent -/

/-- The header that is written for a parent with its decision. -/
def headerOf (parent : Parent) : String :=
  String.ofList (writtenFields parent.span parent.decision).join

/-- The header that is written for identifiers in range describes them with the decision that is
written. -/
theorem read_written {span : SpanContext} (htrace : 1 ≤ span.traceId ∧ span.traceId < 2 ^ 128)
    (hspan : 0 ≤ span.spanId ∧ span.spanId < 2 ^ 64) (decision : Decision) :
    read (.text (String.ofList (writtenFields span decision).join)) =
      .ok ⟨.remote span.traceId span.spanId decision, decision⟩ := by
  rw [read_text, String.toList_ofList, parse_join_writtenFields,
    parseTrimmed_of_isSpanField (isCut_writtenFields _ _) (isTraceField_hex_iff.mpr htrace)
      (isSpanField_decimal_iff.mpr hspan), parent_writtenFields _ htrace.1 hspan.1]

theorem ofFlags_flags (decision : Decision) :
    Decision.ofFlags decision.flags =
      if decision = .deferred then .notSampled else decision := by
  cases decision <;> rfl

section Accepted

variable {value : Value} {parent : Parent}

/-- A span that was read is written with any decision, and what is written describes it with that
decision. -/
theorem read_written_of_read (h : read value = .ok parent) (decision : Option Decision) :
    let stated := decision.getD (.ofFlags parent.span.flags)
    ∃ header, write parent.span decision = .ok header ∧
      header = String.ofList (writtenFields parent.span stated).join ∧
      read (.text header) =
        .ok ⟨.remote parent.span.traceId parent.span.spanId stated, stated⟩ := by
  intro stated
  obtain ⟨trace, id, found, rfl, htrace, hid⟩ := exists_remote_of_read h
  have hlimit : id.natAbs < 10 ^ digitLimit := natAbs_lt_of_isSpanId hid.1 hid.2
  exact ⟨_, write_eq_join decision hlimit, rfl, read_written htrace hid stated⟩

theorem write_headerOf (h : read value = .ok parent) :
    write parent.span (some parent.decision) = .ok (headerOf parent) := by
  obtain ⟨header, hwrite, rfl, -⟩ := read_written_of_read h (some parent.decision)
  exact hwrite

theorem read_headerOf (h : read value = .ok parent) :
    read (.text (headerOf parent)) = .ok parent := by
  obtain ⟨header, -, rfl, hread⟩ := read_written_of_read h (some parent.decision)
  obtain ⟨trace, id, decision, rfl, -⟩ := exists_remote_of_read h
  exact hread

/-- Parents that were read have the same header only when they are the same. -/
theorem headerOf_eq_iff {other : Value} {otherParent : Parent} (h : read value = .ok parent)
    (hother : read other = .ok otherParent) :
    headerOf otherParent = headerOf parent ↔ otherParent = parent := by
  constructor
  · intro heq
    have hread := read_headerOf hother
    rw [heq, read_headerOf h] at hread
    exact (Except.ok.inj hread).symm
  · rintro rfl
    rfl

end Accepted

/-- The header of the parent that a line describes is the canonical form of its fields. -/
theorem headerOf_parent {fields : Fields} {line : List Char} (h : fields.IsSpelledBy line) :
    headerOf fields.parent = String.ofList fields.canonical.join := by
  rw [headerOf, ← writtenFields_parent h.trace h.span]
  rfl

/-- A line is the header of its parent when it has no blanks around it and its fields are
canonical. -/
theorem headerOf_parent_eq_iff {fields : Fields} {line : String}
    (h : fields.IsSpelledBy line.toList) :
    headerOf fields.parent = line ↔ line.toList = fields.join ∧ fields.canonical = fields := by
  rw [headerOf_parent h, ← writtenFields_parent h.trace h.span, ← String.toList_inj,
    String.toList_ofList]
  constructor
  · intro hline
    -- No blank is written, so the line is trimmed, and it is taken apart in one way only.
    have hjoin : line.toList = fields.join := by
      rw [← h.trims.trim_eq, ← hline, Text.trim_eq_self]
      · intro c hc
        exact isBlank_of_mem_join (List.mem_of_mem_head? hc)
      · intro c hc
        exact isBlank_of_mem_join (List.mem_of_mem_getLast? hc)
    refine ⟨hjoin, ?_⟩
    apply Fields.eq_of_join_eq (isCut_writtenFields _ _) h.isCut
    rw [hline, hjoin]
  · rintro ⟨hjoin, hcanonical⟩
    rw [hcanonical, hjoin]

theorem Fields.join_canonical (fields : Fields) :
    fields.canonical.join =
      fields.trace ++ '/' :: significant fields.span ++ suffixChars fields.decision := by
  cases hdecision : fields.decision <;>
    simp [Fields.canonical, Fields.join, hdecision, statedSuffix, suffixChars, Decision.suffix]

/-! ## Reformatting -/

/-- The line that is written for what a line describes. -/
def reformat (line : String) : Except Fault String := do
  let parent ← read (.text line)
  write parent.span (some parent.decision)

/-- Reformatting an accepted line gives the header of its parent. -/
theorem reformat_of_read {line : String} {parent : Parent} (h : read (.text line) = .ok parent) :
    reformat line = .ok (headerOf parent) := by
  rw [reformat, h]
  exact write_headerOf h

/-- Reformatting an accepted line gives a canonical header: the trace field as it stands, the span
field without redundant zeros, and the suffix of the decision. It describes the same parent, is
reformatted to itself, and is shared by exactly the accepted lines that describe this parent. The
line is that header when it has no blanks around it, no redundant zero, and no suffix but the two
that state a decision. Without a decision the header describes the same span, with a decision that
is never open. -/
theorem reformat_canonical {line : String} {parent : Parent}
    (h : read (.text line) = .ok parent) :
    ∃ header : String, write parent.span (some parent.decision) = .ok header ∧
      (∃ fields : Fields, fields.IsSpelledBy line.toList ∧
        header.toList =
          fields.trace ++ '/' :: significant fields.span ++ suffixChars parent.decision ∧
        (header = line ↔ line.toList = fields.join ∧ IsPlain fields.span ∧
          (fields.suffix = none ∨ fields.suffix = some ['o', '=', '0'] ∨
            fields.suffix = some ['o', '=', '1']))) ∧
      read (.text header) = .ok parent ∧
      reformat line = .ok header ∧ reformat header = .ok header ∧
      (∀ other otherParent, read (.text other) = .ok otherParent →
        (reformat other = .ok header ↔ otherParent = parent)) ∧
      ∃ flagged : String, write parent.span none = .ok flagged ∧
        read (.text flagged) = .ok ⟨parent.span,
          if parent.decision = .deferred then .notSampled else parent.decision⟩ := by
  have hheader := read_headerOf h
  refine ⟨headerOf parent, write_headerOf h, ?_, hheader, reformat_of_read h,
    reformat_of_read hheader, ?_, ?_⟩
  · rw [read_text] at h
    obtain ⟨fields, hfields, rfl⟩ := exists_isSpelledBy_of_parse h
    refine ⟨fields, hfields, ?_, ?_⟩
    · rw [headerOf_parent hfields, String.toList_ofList]
      exact fields.join_canonical
    · rw [headerOf_parent_eq_iff hfields, Fields.canonical_eq_self_iff hfields.span.ne_nil]
  · intro other otherParent hother
    rw [reformat_of_read hother, Except.ok.injEq]
    exact headerOf_eq_iff h hother
  · obtain ⟨flagged, hwrite, -, hread⟩ := read_written_of_read h none
    obtain ⟨trace, id, decision, rfl, -⟩ := exists_remote_of_read h
    refine ⟨flagged, hwrite, ?_⟩
    -- The flags are the same, although they record an open decision as not sampled.
    have hstated : (none : Option Decision).getD (.ofFlags (SpanContext.remote trace id
        decision).flags) = if decision = .deferred then .notSampled else decision :=
      ofFlags_flags decision
    rw [hread, hstated]
    cases decision <;> rfl

/-- Blanks, zeros and a suffix that states nothing are all lost. -/
theorem reformat_spacious :
    ∃ parent, read (.text "\t00000000000000000000000000000abc/0042;o=2 ") = .ok parent ∧
      ∃ header : String,
        reformat "\t00000000000000000000000000000abc/0042;o=2 " = .ok header ∧
        reformat header = .ok header ∧ read (.text header) = .ok parent := by
  have hread : read (.text "\t00000000000000000000000000000abc/0042;o=2 ") =
      .ok ⟨⟨0xabc, 42, true, 0, ∅⟩, .deferred⟩ := rfl
  obtain ⟨header, -, -, hparent, hline, hheader, -, -⟩ := reformat_canonical hread
  exact ⟨_, hread, header, hline, hheader, hparent⟩

end TraceRelay.CloudHeader
