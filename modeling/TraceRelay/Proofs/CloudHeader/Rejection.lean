import TraceRelay.Proofs.CloudHeader.Reading

/-!
# Why a line is refused

A line is refused for the first thing that is wrong with its header, from left to right: the missing
slash, the trace field, the span field. The report names the category and shows the text at fault,
trimmed and cut but otherwise as it stands in the line. A span field of too many digits is no
refusal but a fault of its own. Each of these outcomes comes about under exactly one condition
(`isRefusedFor_missingSeparator_iff`, `isRefusedFor_traceId_iff`, `isRefusedFor_spanId_iff`,
`read_overlong_iff`), and reading fails in no other case (`read_text_rejected_iff`).
-/

set_option autoImplicit false

namespace TraceRelay

namespace HeaderFault

/-- The report of a refusal has its category, and one detail: the text at fault under its name. -/
theorem entries_details_report (cause : HeaderFault) :
    cause.report.details.entries = [(cause.culpritName, .text cause.culprit)] := rfl

theorem culpritName_eq_field {cause : HeaderFault} (h : cause.category ≠ .missingSeparator) :
    cause.culpritName = "field" := by
  cases cause with
  | missingSeparator header => exact absurd rfl h
  | _ => rfl

end HeaderFault

namespace CloudHeader

open Numeral

/-! ## Span fields that are refused -/

/-- What is refused as a span field: nothing at all, a text with a character that is no decimal
digit, and digits that can be read but are too large for 64 bits. -/
inductive IsRefusedSpanField (field : List Char) : Prop
  | empty (hnil : field = [])
  | stray {c : Char} (hc : c ∈ field)
      (hdigit : c ∉ ['0', '1', '2', '3', '4', '5', '6', '7', '8', '9'])
  | large (hdigits : IsRow 10 field) (hlength : field.length ≤ 4300)
      (hlarge : 2 ^ 64 ≤ numberOf 10 field)

/-- A field is refused when it neither names a span nor has too many digits. -/
theorem isRefusedSpanField_iff {field : List Char} :
    IsRefusedSpanField field ↔ ¬ IsSpanField field ∧ ¬ IsOverlongField field := by
  constructor
  · intro h
    cases h with
    | empty hnil =>
        subst hnil
        exact ⟨fun hspan => hspan.ne_nil rfl, fun hlong => absurd hlong.length_gt (by decide)⟩
    | @stray c hc hdigit =>
        exact ⟨fun hspan => hdigit (hspan.digits c hc), fun hlong => hdigit (hlong.digits c hc)⟩
    | large hdigits hlength hlarge =>
        exact ⟨fun hspan => absurd hspan.small (by omega),
          fun hlong => absurd hlong.length_gt (by omega)⟩
  · rintro ⟨hspan, hshort⟩
    by_cases hnil : field = []
    · exact .empty hnil
    · by_cases hdigits : IsRow 10 field
      · have hlength : field.length ≤ 4300 := by
          by_contra hlong
          exact hshort ⟨hdigits, by omega⟩
        refine .large hdigits hlength ?_
        by_contra hsmall
        exact hspan ⟨hnil, hdigits, hlength, by omega⟩
      · obtain ⟨c, hc, hdigit⟩ : ∃ c ∈ field, c ∉ alphabet.take 10 := by
          simpa [IsRow] using hdigits
        exact .stray hc hdigit

/-! ## Refused lines -/

/-- The line is refused in a category, and its report shows a text under a name and nothing else. -/
def IsRefusedFor (line : String) (category : Category) (name : String) (culprit : List Char) :
    Prop :=
  ∃ cause, read (.text line) = .error (.header cause) ∧ cause.report.category = category ∧
    cause.report.details.entries = [(name, .text (String.ofList culprit))]

/-- The header of a line is the line without the blanks at its ends. -/
def headerOfLine (line : String) : List Char :=
  Text.trim Text.isBlank line.toList

variable {line : String} {fields : Fields}

/-- A line is read as its header. -/
theorem read_text_eq_parseTrimmed (line : String) :
    read (.text line) = parseTrimmed (headerOfLine line) :=
  read_text line

theorem isRefusedFor_field {category : Category} {culprit : List Char} {cause : HeaderFault}
    (hread : read (.text line) = .error (.header cause)) (hcategory : cause.category = category)
    (hfield : category ≠ .missingSeparator) (hculprit : cause.culprit = String.ofList culprit) :
    IsRefusedFor line category "field" culprit := by
  subst hcategory
  refine ⟨cause, hread, rfl, ?_⟩
  rw [cause.entries_details_report, HeaderFault.culpritName_eq_field hfield, hculprit]

/-- A line is refused as a whole when its header has no slash. -/
theorem isRefusedFor_missingSeparator_iff (line : String) :
    IsRefusedFor line .missingSeparator "header" (headerOfLine line) ↔
      '/' ∉ headerOfLine line := by
  constructor
  · rintro ⟨cause, hread, hcategory, -⟩ hslash
    have hverdict := verdict_parseTrimmed (headerOfLine line)
    rw [← read_text_eq_parseTrimmed, hread] at hverdict
    have hsame : cause.category = .missingSeparator := hcategory
    cases hverdict with
    | missingSeparator hnone => exact hnone hslash
    | badTrace _ _ _ hother _ =>
        rw [hother] at hsame
        cases hsame
    | badSpan _ _ _ _ _ hother _ =>
        rw [hother] at hsame
        cases hsame
  · intro hslash
    refine ⟨.missingSeparator (String.ofList (headerOfLine line)), ?_, rfl, rfl⟩
    rw [read_text_eq_parseTrimmed, parseTrimmed, split_of_not_mem hslash]
    rfl

/-- What a header with a trace field comes to is decided by its span field. -/
theorem read_of_isTraceField (hcut : fields.IsCut) (hjoin : fields.join = headerOfLine line)
    (htrace : IsTraceField fields.trace) :
    (IsSpanField fields.span ∧ read (.text line) = .ok fields.parent) ∨
      (IsOverlongField fields.span ∧
        read (.text line) = .error (.numeralRead fields.span.length)) ∨
      (IsRefusedSpanField fields.span ∧ ∃ cause, read (.text line) = .error (.header cause) ∧
        cause.category = .spanId ∧ cause.culprit = String.ofList fields.span) := by
  rw [read_text_eq_parseTrimmed, ← hjoin]
  by_cases hspan : IsSpanField fields.span
  · exact Or.inl ⟨hspan, parseTrimmed_of_isSpanField hcut htrace hspan⟩
  · by_cases hlong : IsOverlongField fields.span
    · exact Or.inr (Or.inl ⟨hlong, parseTrimmed_of_isOverlongField hcut htrace hlong⟩)
    · exact Or.inr (Or.inr ⟨isRefusedSpanField_iff.mpr ⟨hspan, hlong⟩,
        parseTrimmed_of_not_isSpanField hcut htrace hspan hlong⟩)

/-- A line is refused for its trace field when this names no trace. -/
theorem isRefusedFor_traceId_iff (hcut : fields.IsCut) (hjoin : fields.join = headerOfLine line) :
    IsRefusedFor line .traceId "field" fields.trace ↔ ¬ IsTraceField fields.trace := by
  constructor
  · rintro ⟨cause, hread, hcategory, -⟩ htrace
    have hsame : cause.category = .traceId := hcategory
    rcases read_of_isTraceField hcut hjoin htrace with ⟨-, hok⟩ | ⟨-, hlong⟩ |
      ⟨-, other, hother, hspan, -⟩
    · rw [hok] at hread
      cases hread
    · rw [hlong] at hread
      cases hread
    · rw [hother] at hread
      cases hread
      rw [hspan] at hsame
      cases hsame
  · intro htrace
    obtain ⟨cause, hparse, hcategory, hculprit⟩ := parseTrimmed_of_not_isTraceField hcut htrace
    rw [hjoin, ← read_text_eq_parseTrimmed] at hparse
    exact isRefusedFor_field hparse hcategory (by decide) hculprit

/-- A line with a trace field is refused for what stands behind it when that is refused as a span
field. -/
theorem isRefusedFor_spanId_iff (hcut : fields.IsCut) (hjoin : fields.join = headerOfLine line)
    (htrace : IsTraceField fields.trace) :
    IsRefusedFor line .spanId "field" fields.span ↔ IsRefusedSpanField fields.span := by
  have hcases := read_of_isTraceField hcut hjoin htrace
  constructor
  · rintro ⟨cause, hread, -⟩
    rw [hread] at hcases
    rcases hcases with ⟨-, hok⟩ | ⟨-, hlong⟩ | ⟨hrefused, -⟩
    · cases hok
    · cases hlong
    · exact hrefused
  · intro hrefused
    obtain ⟨hspan, hshort⟩ := isRefusedSpanField_iff.mp hrefused
    rcases hcases with ⟨hok, -⟩ | ⟨hlong, -⟩ | ⟨-, cause, hread, hcategory, hculprit⟩
    · exact absurd hok hspan
    · exact absurd hlong hshort
    · exact isRefusedFor_field hread hcategory (by decide) hculprit

/-- A line with a trace field cannot be read when there are too many digits behind it. -/
theorem read_overlong_iff (hcut : fields.IsCut) (hjoin : fields.join = headerOfLine line)
    (htrace : IsTraceField fields.trace) :
    read (.text line) = .error (.numeralRead fields.span.length) ↔
      IsOverlongField fields.span := by
  have hcases := read_of_isTraceField hcut hjoin htrace
  constructor
  · intro hread
    rw [hread] at hcases
    simpa using hcases
  · intro hlong
    rcases hcases with ⟨hspan, -⟩ | ⟨-, hread⟩ | ⟨hrefused, -⟩
    · have hlength := hspan.length_le
      have hgreater := hlong.length_gt
      omega
    · exact hread
    · exact absurd hlong (isRefusedSpanField_iff.mp hrefused).2

/-! ## All lines -/

/-- The header is refused: it has no slash, or names no trace before the slash, or has behind the
trace what is refused as a span field. -/
def IsRefusedHeader (header : List Char) : Prop :=
  '/' ∉ header ∨ ∃ fields : Fields, fields.IsCut ∧ fields.join = header ∧
    (¬ IsTraceField fields.trace ∨ IsRefusedSpanField fields.span)

/-- The header names a trace and has too many digits behind it. -/
def IsOverlongHeader (header : List Char) : Prop :=
  ∃ fields : Fields, fields.IsCut ∧ fields.join = header ∧
    IsTraceField fields.trace ∧ IsOverlongField fields.span

/-- Reading refuses the lines with a refused header, and no other ones. -/
theorem exists_cause_iff (line : String) :
    (∃ cause, read (.text line) = .error (.header cause)) ↔
      IsRefusedHeader (headerOfLine line) := by
  constructor
  · rintro ⟨cause, hread⟩
    have hverdict := verdict_parseTrimmed (headerOfLine line)
    rw [← read_text_eq_parseTrimmed, hread] at hverdict
    cases hverdict with
    | missingSeparator hslash => exact Or.inl hslash
    | badTrace hcut hjoin htrace _ _ => exact Or.inr ⟨_, hcut, hjoin, Or.inl htrace⟩
    | badSpan hcut hjoin _ hspan hshort _ _ =>
        exact Or.inr ⟨_, hcut, hjoin, Or.inr (isRefusedSpanField_iff.mpr ⟨hspan, hshort⟩)⟩
  · rintro (hslash | ⟨fields, hcut, hjoin, hfield⟩)
    · obtain ⟨cause, hread, -⟩ := (isRefusedFor_missingSeparator_iff line).mpr hslash
      exact ⟨cause, hread⟩
    · -- The span field counts only behind a trace.
      by_cases htrace : IsTraceField fields.trace
      · have hspan : IsRefusedSpanField fields.span := hfield.resolve_left (not_not.mpr htrace)
        obtain ⟨cause, hread, -⟩ := (isRefusedFor_spanId_iff hcut hjoin htrace).mpr hspan
        exact ⟨cause, hread⟩
      · obtain ⟨cause, hread, -⟩ := (isRefusedFor_traceId_iff hcut hjoin).mpr htrace
        exact ⟨cause, hread⟩

/-- Reading that fails has refused the line or found too many digits. -/
theorem isRefusedHeader_or_isOverlongHeader {fault : Fault}
    (h : read (.text line) = .error fault) :
    IsRefusedHeader (headerOfLine line) ∨ IsOverlongHeader (headerOfLine line) := by
  have hverdict := verdict_parseTrimmed (headerOfLine line)
  rw [← read_text_eq_parseTrimmed, h] at hverdict
  cases hverdict with
  | overlong hcut hjoin htrace hspan => exact Or.inr ⟨_, hcut, hjoin, htrace, hspan⟩
  | _ => exact Or.inl ((exists_cause_iff line).mp ⟨_, h⟩)

/-- Only the trace field and the span field can make reading fail. -/
theorem parseTrimmed_eq_error_iff (hcut : fields.IsCut) (fault : Fault) :
    parseTrimmed fields.join = .error fault ↔
      traceId fields.trace = .error fault ∨
        ∃ trace, traceId fields.trace = .ok trace ∧ spanId fields.span = .error fault := by
  rw [parseTrimmed_join hcut]
  cases htrace : traceId fields.trace with
  | error other => simp [bind, Except.bind]
  | ok trace =>
      cases hspan : spanId fields.span with
      | error other => simp [bind, Except.bind]
      | ok span => simp [bind, Except.bind, pure, Except.pure]

/-- A line without a slash in its header is refused as a whole, and no other line is. Any other
header can be cut into fields, which decide: the line is refused for its trace field when that names
no trace, whatever follows; otherwise for its span field when that is refused as one; otherwise it
cannot be read when its digits are too many. In no other case does reading fail, and the suffix
never matters. Decoding finds nothing in the refused lines, and only in them. -/
theorem read_text_rejected_iff (line : String) :
    (IsRefusedFor line .missingSeparator "header" (headerOfLine line) ↔
      '/' ∉ headerOfLine line) ∧
    ('/' ∈ headerOfLine line → ∃ fields : Fields, fields.IsCut ∧ fields.join = headerOfLine line) ∧
    (∀ fields : Fields, fields.IsCut → fields.join = headerOfLine line →
      (IsRefusedFor line .traceId "field" fields.trace ↔ ¬ IsTraceField fields.trace) ∧
      (IsTraceField fields.trace →
        (IsRefusedFor line .spanId "field" fields.span ↔ IsRefusedSpanField fields.span) ∧
        (read (.text line) = .error (.numeralRead fields.span.length) ↔
          IsOverlongField fields.span))) ∧
    (∀ fault, read (.text line) = .error fault →
      IsRefusedHeader (headerOfLine line) ∨ IsOverlongHeader (headerOfLine line)) ∧
    (∀ (other : String) (suffix : Option (List Char)) (fields : Fields), fields.IsCut →
      fields.join = headerOfLine line → Fields.join { fields with suffix } = headerOfLine other →
      ∀ fault, read (.text line) = .error fault ↔ read (.text other) = .error fault) ∧
    (decode (.text line) = .ok none ↔ IsRefusedHeader (headerOfLine line)) := by
  refine ⟨isRefusedFor_missingSeparator_iff line, exists_isCut_of_mem, ?_, ?_, ?_, ?_⟩
  · intro fields hcut hjoin
    refine ⟨isRefusedFor_traceId_iff hcut hjoin, ?_⟩
    intro htrace
    exact ⟨isRefusedFor_spanId_iff hcut hjoin htrace, read_overlong_iff hcut hjoin htrace⟩
  · intro fault hread
    exact isRefusedHeader_or_isOverlongHeader hread
  · intro other suffix fields hcut hline hother fault
    have hcutOther : Fields.IsCut { fields with suffix } := ⟨hcut.slash, hcut.semicolon⟩
    rw [read_text_eq_parseTrimmed, read_text_eq_parseTrimmed, ← hline, ← hother,
      parseTrimmed_eq_error_iff hcut, parseTrimmed_eq_error_iff hcutOther]
  · rw [decode_eq_none_iff, exists_cause_iff]

/-- A line in which both fields are wrong: zeros for the trace, and a letter in the span field. -/
def spoiltLine : String := "\t00000000000000000000000000000000/12x;o=1 "

/-- A line with one more than the greatest span identifier, and with an unknown suffix. -/
def excessLine : String := "00000000000000000000000000000001/18446744073709551616;o=2"

/-- The first of two wrong fields is reported, and a number that is too large is reported in spite
of its suffix. -/
theorem spoiltLine_rejected :
    IsRefusedSpanField "12x".toList ∧
    IsRefusedFor spoiltLine .traceId "field" (List.replicate 32 '0') ∧
    IsRefusedFor excessLine .spanId "field" "18446744073709551616".toList ∧
    decode (.text excessLine) = .ok none := by
  have hletter : IsRefusedSpanField "12x".toList :=
    .stray (show 'x' ∈ "12x".toList by decide) (by decide)
  have hzeros : ¬ IsTraceField (List.replicate 32 '0') := by
    rintro ⟨-, -, c, hc, hne⟩
    exact hne (List.eq_of_mem_replicate hc)
  have htrace : IsTraceField "00000000000000000000000000000001".toList :=
    ⟨rfl, by decide, '1', by decide, by decide⟩
  have hlarge : IsRefusedSpanField "18446744073709551616".toList :=
    .large (by decide) (by decide) (by decide)
  obtain ⟨-, -, hspoilt, -⟩ := read_text_rejected_iff spoiltLine
  obtain ⟨-, -, hexcess, -, -, hdecode⟩ := read_text_rejected_iff excessLine
  have hspoiltCut : Fields.IsCut ⟨List.replicate 32 '0', "12x".toList, some "o=1".toList⟩ :=
    ⟨by decide, by decide⟩
  have hexcessCut : Fields.IsCut ⟨"00000000000000000000000000000001".toList,
      "18446744073709551616".toList, some "o=2".toList⟩ := ⟨by decide, by decide⟩
  refine ⟨hletter, (hspoilt _ hspoiltCut rfl).1.mpr hzeros,
    ((hexcess _ hexcessCut rfl).2 htrace).1.mpr hlarge, hdecode.mpr ?_⟩
  exact Or.inr ⟨_, hexcessCut, rfl, Or.inr hlarge⟩

end CloudHeader

end TraceRelay
