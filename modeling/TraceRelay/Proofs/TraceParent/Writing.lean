import TraceRelay.Proofs.Numeral.Writing
import TraceRelay.Proofs.TraceParent.Reading

/-!
# Writing the traceparent header

What is written for a span are its identifiers and its flags in the first version of the header,
without anything around it. The flags are written as the integer they are, and nothing is cut off.
So a written header can be read back exactly when the flags fit into eight bits
(`isSpelledBy_format_iff`), and then it says what was written. Otherwise it is no header at all.
-/

set_option autoImplicit false

namespace TraceRelay.TraceParent

open Numeral

/-! ## Written parts -/

/-- The parts that are written for a span. -/
def writtenParts (span : SpanContext) : Parts :=
  ⟨['0', '0'], hex 32 span.traceId, hex 16 span.spanId, hex 2 span.flags, []⟩

theorem format_eq_join (span : SpanContext) : format span = (writtenParts span).join := by
  simp [format, writtenParts, Parts.join]

theorem isHexField_hex {width : Nat} {n : Int} (hwidth : 0 < width) (h : 0 ≤ n)
    (hfits : n < 16 ^ width) : IsHexField width (hex width n) :=
  ⟨length_hex hwidth h hfits, isRow_hex width h⟩

theorem exists_nonzero_mem_hex (width : Nat) {n : Int} (h : 1 ≤ n) :
    ∃ c ∈ hex width n, c ≠ '0' := by
  have hnonneg : 0 ≤ n := by omega
  have hnumber := numberOf_hex width hnonneg
  rw [← numberOf_ne_zero_iff (isRow_hex width hnonneg)]
  omega

variable {span : SpanContext}

theorem isHexField_of_isValid (h : span.isValid = true) :
    IsHexField 32 (hex 32 span.traceId) ∧ IsHexField 16 (hex 16 span.spanId) := by
  obtain ⟨htrace, hspan⟩ := SpanContext.isValid_iff.mp h
  exact ⟨isHexField_hex (by omega) (by omega) (by omega),
    isHexField_hex (by omega) (by omega) (by omega)⟩

/-- With flags of eight bits the parts that are written for a valid span are acceptable. -/
theorem isSpelledBy_writtenParts (h : span.isValid = true)
    (hflags : 0 ≤ span.flags ∧ span.flags < 256) :
    (writtenParts span).IsSpelledBy (format span) where
  surrounded := ⟨[], [], by simp [format_eq_join], by simp, Or.inl rfl⟩
  version := ⟨rfl, show IsRow 16 ['0', '0'] by decide⟩
  trace := (isHexField_of_isValid h).1
  span := (isHexField_of_isValid h).2
  flags := isHexField_hex (by omega) hflags.1 (by omega)
  ending := Or.inl (by simp [Parts.IsPlain, writtenParts])
  used := by simp [writtenParts]
  traceNonzero := exists_nonzero_mem_hex 32 (SpanContext.isValid_iff.mp h).1.1
  spanNonzero := exists_nonzero_mem_hex 16 (SpanContext.isValid_iff.mp h).2.1

theorem spanContext_writtenParts (h : span.isValid = true) (hflags : 0 ≤ span.flags)
    (state : TraceState) :
    (writtenParts span).parent.spanContext state =
      ⟨span.traceId, span.spanId, true, span.flags, state⟩ := by
  obtain ⟨htrace, hspan⟩ := SpanContext.isValid_iff.mp h
  have htrace_nonneg : 0 ≤ span.traceId := by omega
  have hspan_nonneg : 0 ≤ span.spanId := by omega
  simp only [writtenParts, Parts.parent, spanContext, numberOf_hex 32 htrace_nonneg,
    numberOf_hex 16 hspan_nonneg, numberOf_hex 2 hflags]

/-! ## Flags that do not fit -/

/-- No digit stands directly behind the flags of acceptable parts. -/
theorem Parts.IsSpelledBy.not_mem_alphabet {parts : Parts} {line feed : List Char}
    (h : parts.IsSpelledBy line) (hfeed : feed = [] ∨ feed = ['\n']) {c : Char}
    (hc : (parts.rest ++ feed).head? = some c) : c ∉ alphabet := by
  intro hmem
  obtain ⟨hpadding, hlineFeed⟩ := not_isPadding_of_mem_alphabet hmem
  cases hrest : parts.rest with
  | nil =>
      rcases hfeed with rfl | rfl
      · simp [hrest] at hc
      · simp [hrest] at hc
        exact hlineFeed hc.symm
  | cons d ds =>
      obtain rfl : d = c := by simpa [hrest] using hc
      rcases h.ending with hplain | ⟨⟨more, hmore, -⟩, -⟩
      · have hd := hplain d (by simp [hrest])
        rw [hpadding] at hd
        cases hd
      · rw [hrest] at hmore
        obtain ⟨rfl, -⟩ := List.cons.inj hmore
        exact absurd hmem (by decide)

/-- Whatever parts a written header spells out, its flags are theirs with what stands behind. -/
theorem hex_flags_of_isSpelledBy (h : span.isValid = true) {parts : Parts}
    (hparts : parts.IsSpelledBy (format span)) :
    ∃ feed, hex 2 span.flags = parts.flags ++ (parts.rest ++ feed) ∧
      (feed = [] ∨ feed = ['\n']) := by
  obtain ⟨padding, feed, hline, hpadding, hfeed⟩ := hparts.surrounded
  obtain ⟨htrace, hspan⟩ := isHexField_of_isValid h
  -- The header starts with a digit, so there is no padding.
  have hnone : padding = [] := by
    cases padding with
    | nil => rfl
    | cons c cs =>
        have hhead : '0' = c := by simpa [format] using congrArg List.head? hline
        subst hhead
        exact absurd (hpadding '0' List.mem_cons_self) (by decide)
  subst hnone
  refine ⟨feed, ?_, hfeed⟩
  rw [format_eq_join] at hline
  simp only [Parts.join, writtenParts, List.nil_append, List.append_assoc, List.cons_append,
    List.append_nil] at hline
  -- All fields before the flags have the same widths on both sides.
  have hversions := @List.append_inj _ ['0', '0'] _ _ _ hline hparts.version.length_eq.symm
  have htraces := List.append_inj (List.cons.inj hversions.2).2
    (htrace.length_eq.trans hparts.trace.length_eq.symm)
  have hspans := List.append_inj (List.cons.inj htraces.2).2
    (hspan.length_eq.trans hparts.span.length_eq.symm)
  exact (List.cons.inj hspans.2).2

/-- A header that was written for a valid span can be read exactly when the flags have eight
bits. -/
theorem isSpelledBy_format_iff (h : span.isValid = true) :
    (∃ parts : Parts, parts.IsSpelledBy (format span)) ↔ 0 ≤ span.flags ∧ span.flags < 256 := by
  constructor
  · rintro ⟨parts, hparts⟩
    obtain ⟨feed, hflags, hfeed⟩ := hex_flags_of_isSpelledBy h hparts
    have hlength := hparts.flags.length_eq
    -- A sign would stand in the place of the first digit.
    have hnonneg : 0 ≤ span.flags := by
      by_contra hneg
      cases hfield : parts.flags with
      | nil => simp [hfield] at hlength
      | cons c cs =>
          have hsign : '-' = c := by
            rw [hex, signed, if_pos (not_le.mp hneg), hfield] at hflags
            exact (List.cons.inj hflags).1
          have hdigit := hparts.flags.digits c (by simp [hfield])
          rw [← hsign] at hdigit
          exact absurd hdigit (by decide)
    refine ⟨hnonneg, ?_⟩
    have hnone : parts.rest ++ feed = [] := by
      cases hbehind : parts.rest ++ feed with
      | nil => rfl
      | cons c cs =>
          have hdigit : c ∈ alphabet.take 16 :=
            isRow_hex 2 hnonneg c (by rw [hflags, hbehind]; simp)
          exact absurd hdigit (hparts.not_mem_alphabet hfeed (by rw [hbehind]; rfl))
    rw [hnone, List.append_nil] at hflags
    by_contra hlarge
    have hlonger := @lt_length_hex 2 span.flags (by omega) (by omega)
    rw [hflags, hlength] at hlonger
    omega
  · intro hflags
    exact ⟨writtenParts span, isSpelledBy_writtenParts h hflags⟩

/-- A written header is short enough to be looked at when its flags have eight bits. -/
theorem length_write_le (h : span.isValid = true) (hflags : 0 ≤ span.flags ∧ span.flags < 256) :
    (write span).length ≤ 512 := by
  obtain ⟨htrace, hspan⟩ := isHexField_of_isValid h
  have hfield : (hex 2 span.flags).length = 2 := length_hex (by omega) hflags.1 (by omega)
  rw [write, String.length_ofList]
  simp only [format, List.length_append, List.length_cons, List.length_nil, htrace.length_eq,
    hspan.length_eq, hfield]
  omega

end TraceRelay.TraceParent
