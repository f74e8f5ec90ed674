import TraceRelay.CloudHeader
import TraceRelay.Proofs.Numeral.Reading
import TraceRelay.Proofs.Text.Trim

/-!
# The grammar of the cloud trace header

A header is a trace field, a slash and a span field, and possibly a semicolon and a suffix. The
trace field has 32 hexadecimal digits that are not all zeros. The span field has between one and
4300 decimal digits and denotes a number of 64 bits. Any suffix will do, and only two of them
state a decision.

The cuts at the first slash and the first semicolon behind it are the only way to take a header
apart (`Fields.eq_of_join_eq`). What reading comes to is said once, with all conditions, by
`Verdict`: every header without surrounding blanks gets exactly the outcome that its verdict names
(`verdict_parseTrimmed`).
-/

set_option autoImplicit false

namespace TraceRelay.CloudHeader

open Numeral

/-! ## Identifiers -/

theorem isTraceId_iff {id : Int} :
    Identifier.isTraceId id = true ↔ 1 ≤ id ∧ id < 2 ^ 128 := by
  simp only [Identifier.isTraceId, Bool.and_eq_true, decide_eq_true_eq]
  rw [Identifier.maxTraceId]
  omega

theorem isSpanId_iff {id : Int} : Identifier.isSpanId id = true ↔ 0 ≤ id ∧ id < 2 ^ 64 := by
  simp only [Identifier.isSpanId, Bool.and_eq_true, decide_eq_true_eq]
  rw [Identifier.maxSpanId]
  omega

/-! ## Fields -/

/-- A field that names a trace. -/
structure IsTraceField (field : List Char) : Prop where
  length_eq : field.length = 32
  digits : IsRow 16 field
  nonzero : ∃ c ∈ field, c ≠ '0'

/-- A field that names a span. -/
structure IsSpanField (field : List Char) : Prop where
  ne_nil : field ≠ []
  digits : IsRow 10 field
  length_le : field.length ≤ 4300
  small : numberOf 10 field < 2 ^ 64

/-- A field of more digits than a numeral may have. -/
structure IsOverlongField (field : List Char) : Prop where
  digits : IsRow 10 field
  length_gt : 4300 < field.length

namespace Fields

/-- The fields are cut at the first slash and at the first semicolon behind it. -/
structure IsCut (fields : Fields) : Prop where
  slash : '/' ∉ fields.trace
  semicolon : ';' ∉ fields.span

/-- The decision that the suffix states. -/
def decision (fields : Fields) : Decision :=
  if fields.suffix = some ['o', '=', '1'] then .sampled
  else if fields.suffix = some ['o', '=', '0'] then .notSampled
  else .deferred

/-- The parent that the fields describe: the numbers the two fields denote, received from
elsewhere, with the sampled flag only for the suffix that says so, and without a trace state. -/
def parent (fields : Fields) : Parent where
  span :=
    { traceId := numberOf 16 fields.trace
      spanId := numberOf 10 fields.span
      isRemote := true
      flags := if fields.suffix = some ['o', '=', '1'] then 1 else 0
      state := ∅ }
  decision := fields.decision

end Fields

theorem not_mem_of_isRow {base : Nat} {cs : List Char} {c : Char} (h : IsRow base cs)
    (hc : c ∉ alphabet) : c ∉ cs := by
  intro hmem
  exact hc (List.mem_of_mem_take (h c hmem))

theorem IsTraceField.not_mem_slash {field : List Char} (h : IsTraceField field) :
    '/' ∉ field :=
  not_mem_of_isRow h.digits (by decide)

theorem IsSpanField.not_mem_semicolon {field : List Char} (h : IsSpanField field) :
    ';' ∉ field :=
  not_mem_of_isRow h.digits (by decide)

theorem IsOverlongField.not_mem_semicolon {field : List Char} (h : IsOverlongField field) :
    ';' ∉ field :=
  not_mem_of_isRow h.digits (by decide)

/-! ## Cutting and joining -/

/-- Splitting undoes joining when the fields are cut at the first separators. -/
theorem split_join {fields : Fields} (h : fields.IsCut) : split fields.join = .ok fields := by
  obtain ⟨trace, span, suffix⟩ := fields
  obtain ⟨hslash, hsemicolon⟩ := h
  cases suffix with
  | none =>
      have hjoin : Fields.join ⟨trace, span, none⟩ = trace ++ '/' :: span := by
        simp [Fields.join]
      rw [hjoin, split, Text.cut_append span hslash]
      simp only [Text.cut_of_not_mem hsemicolon]
  | some suffix =>
      have hjoin : Fields.join ⟨trace, span, some suffix⟩ =
          trace ++ '/' :: (span ++ ';' :: suffix) := by
        simp [Fields.join]
      rw [hjoin, split, Text.cut_append (span ++ ';' :: suffix) hslash]
      simp only [Text.cut_append suffix hsemicolon]

/-- A header is taken apart in one way only. -/
theorem Fields.eq_of_join_eq {a b : Fields} (ha : a.IsCut) (hb : b.IsCut)
    (h : a.join = b.join) : a = b := by
  have hsplit : Except.ok (ε := Fault) a = .ok b := by
    rw [← split_join ha, ← split_join hb, h]
  exact Except.ok.inj hsplit

theorem exists_isCut_of_mem {header : List Char} (h : '/' ∈ header) :
    ∃ fields : Fields, fields.IsCut ∧ fields.join = header := by
  obtain ⟨trace, rest, rfl, htrace⟩ := List.eq_append_cons_of_mem h
  by_cases hsemicolon : ';' ∈ rest
  · obtain ⟨span, suffix, rfl, hspan⟩ := List.eq_append_cons_of_mem hsemicolon
    exact ⟨⟨trace, span, some suffix⟩, ⟨htrace, hspan⟩, by simp [Fields.join]⟩
  · exact ⟨⟨trace, rest, none⟩, ⟨htrace, hsemicolon⟩, by simp [Fields.join]⟩

theorem split_of_not_mem {header : List Char} (h : '/' ∉ header) :
    split header = .error (.header (.missingSeparator (String.ofList header))) := by
  rw [split, Text.cut_of_not_mem h]

/-! ## Reading the fields -/

/-- A trace field denotes a trace identifier. -/
theorem IsTraceField.isTraceId {field : List Char} (h : IsTraceField field) :
    Identifier.isTraceId (numberOf 16 field) = true := by
  have hlt : numberOf 16 field < 16 ^ 32 := by
    rw [← h.length_eq]
    exact numberOf_lt (by omega) h.digits
  have hne : numberOf 16 field ≠ 0 := by
    intro hzero
    obtain ⟨c, hc, hnonzero⟩ := h.nonzero
    exact hnonzero ((numberOf_eq_zero_iff (by omega) h.digits).mp hzero c hc)
  rw [isTraceId_iff]
  omega

theorem traceId_of_isTraceField {field : List Char} (h : IsTraceField field) :
    traceId field = .ok (numberOf 16 field) := by
  have hshape : field.length = Identifier.traceIdWidth ∧ field.all isHexDigit = true :=
    ⟨h.length_eq, all_isHexDigit_iff.mpr h.digits⟩
  rw [traceId, if_pos hshape]
  simp only [value_eq_numberOf 16 h.digits, h.isTraceId, if_true]

/-- Any other field is refused as a trace field, whether for its shape or for being zero. -/
theorem traceId_of_not_isTraceField {field : List Char} (h : ¬ IsTraceField field) :
    ∃ cause : HeaderFault, traceId field = .error (.header cause) ∧
      cause.category = .traceId ∧ cause.culprit = String.ofList field := by
  rw [traceId]
  split
  · rename_i hshape
    have hdigits : IsRow 16 field := all_isHexDigit_iff.mp hshape.2
    have hzero : numberOf 16 field = 0 := by
      rw [numberOf_eq_zero_iff (by omega) hdigits]
      intro c hc
      by_contra hne
      exact h ⟨hshape.1, hdigits, c, hc, hne⟩
    have hid : Identifier.isTraceId (value 16 field : Int) = false := by
      rw [value_eq_numberOf 16 hdigits, hzero]
      rfl
    refine ⟨.traceIdZero (String.ofList field), ?_, rfl, rfl⟩
    simp only [hid, Bool.false_eq_true, if_false]
  · exact ⟨.traceIdShape (String.ofList field), rfl, rfl, rfl⟩

theorem isSpanId_natCast (n : Nat) : Identifier.isSpanId n = true ↔ n < 2 ^ 64 := by
  rw [isSpanId_iff]
  omega

/-- A span field is read as the number it denotes. -/
theorem spanId_of_isSpanField {field : List Char} (h : IsSpanField field) :
    spanId field = .ok (numberOf 10 field) := by
  have hshape : field ≠ [] ∧ field.all isDecimalDigit = true :=
    ⟨h.ne_nil, all_isDecimalDigit_iff.mpr h.digits⟩
  have hlength : ¬ digitLimit < field.length := Nat.not_lt.mpr h.length_le
  have hid : Identifier.isSpanId (numberOf 10 field) = true := (isSpanId_natCast _).mpr h.small
  rw [spanId, if_pos hshape, if_neg hlength]
  simp only [value_eq_numberOf 10 (h.digits.mono (by omega)), hid, if_true]

/-- An overlong field is not read at all. -/
theorem spanId_of_isOverlongField {field : List Char} (h : IsOverlongField field) :
    spanId field = .error (.numeralRead field.length) := by
  have hne : field ≠ [] := by
    rintro rfl
    exact absurd h.length_gt (by decide)
  have hshape : field ≠ [] ∧ field.all isDecimalDigit = true :=
    ⟨hne, all_isDecimalDigit_iff.mpr h.digits⟩
  rw [spanId, if_pos hshape, if_pos (show digitLimit < field.length from h.length_gt)]

/-- Any other field is refused as a span field, whether for its shape or for its size. -/
theorem spanId_of_not_isSpanField {field : List Char} (h : ¬ IsSpanField field)
    (hshort : ¬ IsOverlongField field) :
    ∃ cause : HeaderFault, spanId field = .error (.header cause) ∧
      cause.category = .spanId ∧ cause.culprit = String.ofList field := by
  rw [spanId]
  split
  · rename_i hshape
    have hdigits : IsRow 10 field := all_isDecimalDigit_iff.mp hshape.2
    have hlength : ¬ digitLimit < field.length := by
      intro hlong
      exact hshort ⟨hdigits, hlong⟩
    have hid : Identifier.isSpanId (value 10 field : Int) = false := by
      rw [value_eq_numberOf 10 (hdigits.mono (by omega)), Bool.eq_false_iff]
      intro hsmall
      exact h ⟨hshape.1, hdigits, Nat.not_lt.mp hlength, (isSpanId_natCast _).mp hsmall⟩
    refine ⟨.spanIdRange (String.ofList field), ?_, rfl, rfl⟩
    rw [if_neg hlength]
    simp only [hid, Bool.false_eq_true, if_false]
  · exact ⟨.spanIdShape (String.ofList field), rfl, rfl, rfl⟩

/-! ## Reading the header -/

/-- Suffixes are compared as texts. -/
theorem ofSuffix_map_ofList (fields : Fields) :
    Decision.ofSuffix (fields.suffix.map String.ofList) = fields.decision := by
  have hsampled : fields.suffix.map String.ofList = some "o=1" ↔
      fields.suffix = some ['o', '=', '1'] := by
    rw [show some "o=1" = (some ['o', '=', '1']).map String.ofList from rfl]
    exact (Option.map_injective fun _ _ => String.ofList_injective).eq_iff
  have hnotSampled : fields.suffix.map String.ofList = some "o=0" ↔
      fields.suffix = some ['o', '=', '0'] := by
    rw [show some "o=0" = (some ['o', '=', '0']).map String.ofList from rfl]
    exact (Option.map_injective fun _ _ => String.ofList_injective).eq_iff
  simp only [Decision.ofSuffix, Decision.suffix, Fields.decision, hsampled, hnotSampled]

/-- The flags of the decision that the suffix states. -/
theorem Fields.flags_decision (fields : Fields) :
    fields.decision.flags = if fields.suffix = some ['o', '=', '1'] then 1 else 0 := by
  rw [Fields.decision]
  split
  · rfl
  · split <;> rfl

theorem parseTrimmed_join {fields : Fields} (h : fields.IsCut) :
    parseTrimmed fields.join = do
      let trace ← traceId fields.trace
      let span ← spanId fields.span
      return ⟨.remote trace span fields.decision, fields.decision⟩ := by
  rw [parseTrimmed, split_join h, ← ofSuffix_map_ofList]
  rfl

theorem Fields.parent_eq_remote (fields : Fields) :
    fields.parent = ⟨.remote (numberOf 16 fields.trace) (numberOf 10 fields.span)
      fields.decision, fields.decision⟩ := by
  rw [SpanContext.remote, Fields.flags_decision]
  rfl

/-- A header that names a trace and a span describes their parent. -/
theorem parseTrimmed_of_isSpanField {fields : Fields} (hcut : fields.IsCut)
    (htrace : IsTraceField fields.trace) (hspan : IsSpanField fields.span) :
    parseTrimmed fields.join = .ok fields.parent := by
  rw [parseTrimmed_join hcut, traceId_of_isTraceField htrace, spanId_of_isSpanField hspan,
    fields.parent_eq_remote]
  rfl

theorem parseTrimmed_of_isOverlongField {fields : Fields} (hcut : fields.IsCut)
    (htrace : IsTraceField fields.trace) (hspan : IsOverlongField fields.span) :
    parseTrimmed fields.join = .error (.numeralRead fields.span.length) := by
  rw [parseTrimmed_join hcut, traceId_of_isTraceField htrace, spanId_of_isOverlongField hspan]
  rfl

/-- A header with any other field before the slash is refused for it, whatever follows. -/
theorem parseTrimmed_of_not_isTraceField {fields : Fields} (hcut : fields.IsCut)
    (htrace : ¬ IsTraceField fields.trace) :
    ∃ cause : HeaderFault, parseTrimmed fields.join = .error (.header cause) ∧
      cause.category = .traceId ∧ cause.culprit = String.ofList fields.trace := by
  obtain ⟨cause, htraceId, hcause⟩ := traceId_of_not_isTraceField htrace
  refine ⟨cause, ?_, hcause⟩
  rw [parseTrimmed_join hcut, htraceId]
  rfl

/-- A header with any other field behind a trace is refused for it. -/
theorem parseTrimmed_of_not_isSpanField {fields : Fields} (hcut : fields.IsCut)
    (htrace : IsTraceField fields.trace) (hspan : ¬ IsSpanField fields.span)
    (hshort : ¬ IsOverlongField fields.span) :
    ∃ cause : HeaderFault, parseTrimmed fields.join = .error (.header cause) ∧
      cause.category = .spanId ∧ cause.culprit = String.ofList fields.span := by
  obtain ⟨cause, hspanId, hcause⟩ := spanId_of_not_isSpanField hspan hshort
  refine ⟨cause, ?_, hcause⟩
  rw [parseTrimmed_join hcut, traceId_of_isTraceField htrace, hspanId]
  rfl

/-! ## Verdicts -/

/-- The outcome of reading a header without surrounding blanks, with everything that leads to
it. -/
inductive Verdict (header : List Char) : Except Fault Parent → Prop
  /-- There is no slash. -/
  | missingSeparator (hslash : '/' ∉ header) :
      Verdict header (.error (.header (.missingSeparator (String.ofList header))))
  /-- What stands before the slash names no trace. -/
  | badTrace {fields : Fields} {cause : HeaderFault} (hcut : fields.IsCut)
      (hjoin : fields.join = header) (htrace : ¬ IsTraceField fields.trace)
      (hcategory : cause.category = .traceId)
      (hculprit : cause.culprit = String.ofList fields.trace) :
      Verdict header (.error (.header cause))
  /-- The trace is named, but what follows names no span. -/
  | badSpan {fields : Fields} {cause : HeaderFault} (hcut : fields.IsCut)
      (hjoin : fields.join = header) (htrace : IsTraceField fields.trace)
      (hspan : ¬ IsSpanField fields.span) (hshort : ¬ IsOverlongField fields.span)
      (hcategory : cause.category = .spanId)
      (hculprit : cause.culprit = String.ofList fields.span) :
      Verdict header (.error (.header cause))
  /-- The trace is named, but the digits that follow are too many to be read. -/
  | overlong {fields : Fields} (hcut : fields.IsCut) (hjoin : fields.join = header)
      (htrace : IsTraceField fields.trace) (hspan : IsOverlongField fields.span) :
      Verdict header (.error (.numeralRead fields.span.length))
  /-- Trace and span are named. -/
  | parent {fields : Fields} (hcut : fields.IsCut) (hjoin : fields.join = header)
      (htrace : IsTraceField fields.trace) (hspan : IsSpanField fields.span) :
      Verdict header (.ok fields.parent)

/-- Reading gives the outcome of the verdict. -/
theorem verdict_parseTrimmed (header : List Char) : Verdict header (parseTrimmed header) := by
  -- The fields are checked from left to right, so the cases are split in that order.
  by_cases hslash : '/' ∈ header
  · obtain ⟨fields, hcut, rfl⟩ := exists_isCut_of_mem hslash
    by_cases htrace : IsTraceField fields.trace
    · by_cases hspan : IsSpanField fields.span
      · rw [parseTrimmed_of_isSpanField hcut htrace hspan]
        exact .parent hcut rfl htrace hspan
      · by_cases hlong : IsOverlongField fields.span
        · rw [parseTrimmed_of_isOverlongField hcut htrace hlong]
          exact .overlong hcut rfl htrace hlong
        · obtain ⟨cause, hparse, hcategory, hculprit⟩ :=
            parseTrimmed_of_not_isSpanField hcut htrace hspan hlong
          rw [hparse]
          exact .badSpan hcut rfl htrace hspan hlong hcategory hculprit
    · obtain ⟨cause, hparse, hcategory, hculprit⟩ :=
        parseTrimmed_of_not_isTraceField hcut htrace
      rw [hparse]
      exact .badTrace hcut rfl htrace hcategory hculprit
  · rw [parseTrimmed, split_of_not_mem hslash]
    exact .missingSeparator hslash

end TraceRelay.CloudHeader

namespace TraceRelay

theorem SpanContext.isValid_iff {span : SpanContext} :
    span.isValid = true ↔
      (1 ≤ span.traceId ∧ span.traceId < 2 ^ 128) ∧ 1 ≤ span.spanId ∧ span.spanId < 2 ^ 64 := by
  simp only [isValid, Bool.and_eq_true, bne_iff_ne, CloudHeader.isTraceId_iff,
    CloudHeader.isSpanId_iff]
  omega

end TraceRelay
