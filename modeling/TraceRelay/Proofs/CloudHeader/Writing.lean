import TraceRelay.Proofs.CloudHeader.Reading
import TraceRelay.Proofs.Numeral.Writing

/-!
# Writing the cloud trace header

What is written for a span context are the numerals of its two identifiers and the suffix of a
decision, joined by the separators (`format_eq_join`). The numeral of the trace is a trace field
for trace identifiers and for no other integer, not even for those that are negative, zero or of
more than 128 bits (`isTraceField_hex_iff`), and likewise for spans (`isSpanField_decimal_iff`).
So a written header is read back as the parent it was written for, or it is refused for the
identifier that is out of range (`read_write`).
-/

set_option autoImplicit false

namespace TraceRelay.CloudHeader

open Numeral

/-! ## The written fields -/

/-- The suffix that is written for a decision, if there is one. -/
def statedSuffix : Decision → Option (List Char)
  | .sampled => some ['o', '=', '1']
  | .notSampled => some ['o', '=', '0']
  | .deferred => none

/-- The fields that are written for a span context and a decision. -/
def writtenFields (span : SpanContext) (decision : Decision) : Fields :=
  ⟨hex 32 span.traceId, Numeral.decimal span.spanId, statedSuffix decision⟩

theorem decision_writtenFields (span : SpanContext) (decision : Decision) :
    (writtenFields span decision).decision = decision := by
  cases decision <;> rfl

/-- A span context with a span identifier that can be written has its fields for a header. -/
theorem format_eq_join {span : SpanContext} (decision : Option Decision)
    (h : span.spanId.natAbs < 10 ^ digitLimit) :
    format span decision =
      .ok (writtenFields span (decision.getD (.ofFlags span.flags))).join := by
  have hdigits : spanIdChars span.spanId = .ok (Numeral.decimal span.spanId) := by
    rw [spanIdChars, Identifier.spanIdChars, decimal?_eq_some h]
  rw [format, hdigits]
  cases decision.getD (.ofFlags span.flags) with
  | sampled => rfl
  | notSampled => rfl
  | deferred => rfl

/-- The text of a header up to the part that states a decision. -/
def identifierChars (span : SpanContext) : List Char :=
  hex 32 span.traceId ++ '/' :: Numeral.decimal span.spanId

/-- The written header: the two numerals with a slash between them, and the part that states the
decision. -/
theorem join_writtenFields (span : SpanContext) (decision : Decision) :
    (writtenFields span decision).join = identifierChars span ++ suffixChars decision := by
  cases decision with
  | sampled => simp [writtenFields, Fields.join, statedSuffix, suffixChars, Decision.suffix,
      identifierChars]
  | notSampled => simp [writtenFields, Fields.join, statedSuffix, suffixChars, Decision.suffix,
      identifierChars]
  | deferred => simp [writtenFields, Fields.join, statedSuffix, suffixChars, identifierChars]

theorem not_mem_numeral {base width : Nat} (hone : 1 < base) (hbase : base ≤ 16) (n : Int)
    {c : Char} (hsign : c ≠ '-') (hdigit : c ∉ alphabet) : c ∉ signed base width n := by
  intro h
  rcases mem_signed hone hbase h with hc | hc
  · exact hsign hc
  · exact hdigit hc

theorem not_mem_numerals (span : SpanContext) {c : Char} (hsign : c ≠ '-') (hdigit : c ∉ alphabet) :
    c ∉ hex 32 span.traceId ∧ c ∉ Numeral.decimal span.spanId :=
  ⟨not_mem_numeral (by omega) (by omega) _ hsign hdigit,
    not_mem_numeral (by omega) (by omega) _ hsign hdigit⟩

/-- A written header has a semicolon exactly when it states a decision. -/
theorem semicolon_mem_join_iff (span : SpanContext) (decision : Decision) :
    ';' ∈ (writtenFields span decision).join ↔ decision ≠ .deferred := by
  obtain ⟨htrace, hspan⟩ := @not_mem_numerals span ';' (by decide) (by decide)
  have hsuffix : ';' ∈ suffixChars decision ↔ decision ≠ .deferred := by
    cases decision <;> decide
  rw [join_writtenFields, ← hsuffix, identifierChars]
  simp [htrace, hspan]

theorem isCut_writtenFields (span : SpanContext) (decision : Decision) :
    (writtenFields span decision).IsCut :=
  ⟨(not_mem_numerals span (by decide) (by decide)).1,
    (not_mem_numerals span (by decide) (by decide)).2⟩

/-- No blank is written. -/
theorem isBlank_of_mem_join {span : SpanContext} {decision : Decision} {c : Char}
    (h : c ∈ (writtenFields span decision).join) : Text.isBlank c = false := by
  have hnumeral : c = '-' ∨ c ∈ alphabet → Text.isBlank c = false := by
    have hall : (alphabet.all fun d => !Text.isBlank d) = true := by decide
    rintro (rfl | hc)
    · rfl
    · simpa using List.all_eq_true.mp hall c hc
  have hsuffix : c ∈ suffixChars decision → Text.isBlank c = false := by
    have hall : ((suffixChars decision).all fun d => !Text.isBlank d) = true := by
      cases decision <;> rfl
    intro hc
    simpa using List.all_eq_true.mp hall c hc
  rw [join_writtenFields, identifierChars] at h
  simp only [List.mem_append, List.mem_cons] at h
  rcases h with (h | rfl | h) | h
  · exact hnumeral (mem_signed (by omega) (by omega) h)
  · rfl
  · exact hnumeral (mem_signed (by omega) (by omega) h)
  · exact hsuffix h

theorem parse_join_writtenFields (span : SpanContext) (decision : Decision) :
    parse (writtenFields span decision).join =
      parseTrimmed (writtenFields span decision).join := by
  rw [parse, Text.trim_eq_self]
  · intro c hc
    exact isBlank_of_mem_join (List.mem_of_mem_head? hc)
  · intro c hc
    exact isBlank_of_mem_join (List.mem_of_mem_getLast? hc)

/-! ## Numerals as fields -/

/-- The hexadecimal numeral of an integer in 32 characters is a trace field exactly for trace
identifiers. -/
theorem isTraceField_hex_iff {n : Int} : IsTraceField (hex 32 n) ↔ 1 ≤ n ∧ n < 2 ^ 128 := by
  constructor
  · intro h
    have hnonneg : 0 ≤ n := by
      by_contra hneg
      exact not_isRow_signed_of_neg 32 (by omega) h.digits
    have hnonzero : n ≠ 0 := by
      intro hzero
      obtain ⟨c, hc, hne⟩ := h.nonzero
      have hnumber := numberOf_hex 32 hnonneg
      rw [hzero] at hnumber hc
      have hall := (numberOf_eq_zero_iff (by omega) (isRow_hex 32 (le_refl 0))).mp
        (Int.natCast_eq_zero.mp hnumber)
      exact hne (hall c hc)
    -- A greater number has a longer numeral, for nothing of it is cut off.
    have hfits : n < 16 ^ 32 := by
      by_contra hlong
      have hlength := @lt_length_hex 32 n (by omega) (not_lt.mp hlong)
      rw [h.length_eq] at hlength
      exact lt_irrefl 32 hlength
    omega
  · rintro ⟨hone, hfits⟩
    have hnonneg : 0 ≤ n := by omega
    refine ⟨length_hex (by omega) hnonneg (by omega), isRow_hex 32 hnonneg, ?_⟩
    by_contra hnone
    have hzeros : ∀ c ∈ hex 32 n, c = '0' := by
      intro c hc
      by_contra hne
      exact hnone ⟨c, hc, hne⟩
    have hnumber := numberOf_hex 32 hnonneg
    rw [(numberOf_eq_zero_iff (by omega) (isRow_hex 32 hnonneg)).mpr hzeros] at hnumber
    omega

/-- The decimal numeral of an integer is a span field exactly for span identifiers. -/
theorem isSpanField_decimal_iff {n : Int} :
    IsSpanField (Numeral.decimal n) ↔ 0 ≤ n ∧ n < 2 ^ 64 := by
  constructor
  · intro h
    have hnonneg : 0 ≤ n := by
      by_contra hneg
      exact not_isRow_signed_of_neg 0 (by omega) h.digits
    have hnumber := numberOf_decimal hnonneg
    have hsmall := h.small
    omega
  · rintro ⟨hnonneg, hsmall⟩
    have hnumber := numberOf_decimal hnonneg
    refine ⟨decimal_ne_nil hnonneg, isRow_decimal hnonneg, ?_, by omega⟩
    have hlength := @length_decimal_le 20 n (by omega) hnonneg (by omega)
    omega

/-- A numeral that can be written is not overlong. -/
theorem not_isOverlongField_decimal {n : Int} (h : n.natAbs < 10 ^ digitLimit) :
    ¬ IsOverlongField (Numeral.decimal n) := by
  intro hlong
  have hnonneg : 0 ≤ n := by
    by_contra hneg
    exact not_isRow_signed_of_neg 0 (not_le.mp hneg) hlong.digits
  have hlength := hlong.length_gt
  rw [decimal_of_nonneg hnonneg] at hlength
  have hle : (Nat.toDigits 10 n.natAbs).length ≤ digitLimit :=
    (Nat.length_toDigits_le_iff (by omega) (by decide)).mpr h
  exact absurd hlength (not_lt.mpr hle)

theorem natAbs_lt_of_isSpanId {n : Int} (hnonneg : 0 ≤ n) (hsmall : n < 2 ^ 64) :
    n.natAbs < 10 ^ digitLimit :=
  calc n.natAbs < 10 ^ 20 := by omega
    _ ≤ 10 ^ digitLimit := Nat.pow_le_pow_right (by omega) (by decide)

/-- The header of a span context as a string. -/
theorem write_eq_join {span : SpanContext} (decision : Option Decision)
    (h : span.spanId.natAbs < 10 ^ digitLimit) :
    write span decision = .ok (String.ofList
      (writtenFields span (decision.getD (.ofFlags span.flags))).join) := by
  rw [write, format_eq_join decision h]
  rfl

/-! ## Reading what was written -/

/-- The parent that the written fields of valid identifiers describe. -/
theorem parent_writtenFields {span : SpanContext} (decision : Decision)
    (htrace : 1 ≤ span.traceId) (hspan : 0 ≤ span.spanId) :
    (writtenFields span decision).parent =
      ⟨.remote span.traceId span.spanId decision, decision⟩ := by
  have htraceNumber : (numberOf 16 (hex 32 span.traceId) : Int) = span.traceId :=
    numberOf_hex 32 (by omega)
  have hspanNumber : (numberOf 10 (Numeral.decimal span.spanId) : Int) = span.spanId :=
    numberOf_decimal hspan
  rw [Fields.parent, ← Fields.flags_decision, decision_writtenFields]
  simp only [writtenFields, htraceNumber, hspanNumber]
  rfl

/-- A written header is read back as the parent it was written for when both identifiers are in
range. Otherwise it is refused for the trace identifier, or for the span identifier when only that
one is out of range. -/
theorem read_write (span : SpanContext) (decision : Option Decision)
    (h : span.spanId.natAbs < 10 ^ 4300) :
    let stated : Decision :=
      decision.getD (if span.flags % 2 = 1 then .sampled else .notSampled)
    ∃ header, write span decision = .ok header ∧
      (1 ≤ span.traceId ∧ span.traceId < 2 ^ 128 → 0 ≤ span.spanId ∧ span.spanId < 2 ^ 64 →
        read (.text header) = .ok ⟨.remote span.traceId span.spanId stated, stated⟩) ∧
      (¬ (1 ≤ span.traceId ∧ span.traceId < 2 ^ 128) →
        ∃ cause : HeaderFault, read (.text header) = .error (.header cause) ∧
          cause.category = .traceId) ∧
      (1 ≤ span.traceId ∧ span.traceId < 2 ^ 128 →
        ¬ (0 ≤ span.spanId ∧ span.spanId < 2 ^ 64) →
        ∃ cause : HeaderFault, read (.text header) = .error (.header cause) ∧
          cause.category = .spanId) := by
  intro stated
  have hlimit : span.spanId.natAbs < 10 ^ digitLimit := by
    rw [show digitLimit = 4300 from rfl]
    exact h
  have hstated : decision.getD (.ofFlags span.flags) = stated := rfl
  have hcut := isCut_writtenFields span stated
  have hread : read (.text (String.ofList (writtenFields span stated).join)) =
      parseTrimmed (writtenFields span stated).join := by
    rw [read_text, String.toList_ofList, parse_join_writtenFields]
  refine ⟨String.ofList (writtenFields span stated).join, ?_, ?_, ?_, ?_⟩
  · rw [write_eq_join decision hlimit, hstated]
  · intro htrace hspan
    rw [hread, parseTrimmed_of_isSpanField hcut (isTraceField_hex_iff.mpr htrace)
      (isSpanField_decimal_iff.mpr hspan), parent_writtenFields stated htrace.1 hspan.1]
  · intro htrace
    obtain ⟨cause, hparse, hcategory, -⟩ :=
      parseTrimmed_of_not_isTraceField hcut (mt isTraceField_hex_iff.mp htrace)
    exact ⟨cause, hread.trans hparse, hcategory⟩
  · -- The numeral was written, so it is short enough to be read, and only its size can be wrong.
    intro htrace hspan
    obtain ⟨cause, hparse, hcategory, -⟩ :=
      parseTrimmed_of_not_isSpanField hcut (isTraceField_hex_iff.mpr htrace)
        (mt isSpanField_decimal_iff.mp hspan) (not_isOverlongField_decimal hlimit)
    exact ⟨cause, hread.trans hparse, hcategory⟩

/-- The greatest span identifier comes back, and all flags but the sampled one are lost. -/
theorem read_write_maxSpanId :
    let span : SpanContext := ⟨1, Identifier.maxSpanId, false, -1, ∅⟩
    span.spanId.natAbs < 10 ^ 4300 ∧
    ∃ header, write span none = .ok header ∧
      read (.text header) = .ok ⟨.remote 1 Identifier.maxSpanId .sampled, .sampled⟩ := by
  intro span
  have hsmall : span.spanId.natAbs < 10 ^ 20 :=
    show Identifier.maxSpanId.natAbs < 10 ^ 20 by decide
  have hlimit : span.spanId.natAbs < 10 ^ 4300 := by
    apply lt_of_lt_of_le hsmall
    apply Nat.pow_le_pow_right
    · omega
    · omega
  obtain ⟨header, hwrite, hread, -⟩ := read_write span none hlimit
  exact ⟨hlimit, header, hwrite, hread (by decide) (by decide)⟩

end TraceRelay.CloudHeader
