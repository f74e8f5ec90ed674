import TraceRelay.Proofs.CloudHeader.Grammar

/-!
# Reading the cloud trace header

A line spells out the fields of a header when it is the header with blanks around it. Reading
accepts exactly the lines that spell out a trace and a span, which no line does in two ways, and
gives the parent these fields describe (`read_text_iff_isSpelledBy`).
-/

set_option autoImplicit false

namespace TraceRelay.CloudHeader

/-- Without the blanks at its ends, the line is the fields with their separators, and the fields
name a trace and a span. -/
structure Fields.IsSpelledBy (fields : Fields) (line : List Char) : Prop where
  trims : Text.Trims Text.isBlank line fields.join
  trace : IsTraceField fields.trace
  span : IsSpanField fields.span

theorem Fields.IsSpelledBy.isCut {fields : Fields} {line : List Char}
    (h : fields.IsSpelledBy line) : fields.IsCut :=
  ⟨h.trace.not_mem_slash, h.span.not_mem_semicolon⟩

/-- A text is read as the line it is, also when it is empty and counts as false. -/
theorem read_text (line : String) : read (.text line) = parse line.toList := by
  rw [read, ofValue]
  by_cases h : line = ""
  · subst h
    rfl
  · have htruthy : (Value.text line).isTruthy = true := by
      simpa [Value.isTruthy] using h
    rw [if_pos htruthy]
    rfl

/-- A line that spells out fields describes their parent. -/
theorem parse_of_isSpelledBy {fields : Fields} {line : List Char} (h : fields.IsSpelledBy line) :
    parse line = .ok fields.parent := by
  rw [parse, h.trims.trim_eq]
  exact parseTrimmed_of_isSpanField h.isCut h.trace h.span

/-- A line that is accepted spells out fields. -/
theorem exists_isSpelledBy_of_parse {line : List Char} {parent : Parent}
    (h : parse line = .ok parent) :
    ∃ fields : Fields, fields.IsSpelledBy line ∧ parent = fields.parent := by
  have hverdict := verdict_parseTrimmed (Text.trim Text.isBlank line)
  rw [parse] at h
  rw [h] at hverdict
  cases hverdict with
  | @parent fields _ hjoin htrace hspan =>
      have htrims : Text.Trims Text.isBlank line fields.join := by
        rw [hjoin]
        exact Text.trims_trim line
      exact ⟨fields, ⟨htrims, htrace, hspan⟩, rfl⟩

/-- No line spells out two headers. -/
theorem Fields.IsSpelledBy.eq {a b : Fields} {line : List Char} (ha : a.IsSpelledBy line)
    (hb : b.IsSpelledBy line) : a = b := by
  apply Fields.eq_of_join_eq ha.isCut hb.isCut
  rw [← ha.trims.trim_eq, ← hb.trims.trim_eq]

/-- Reading accepts exactly the lines that spell out a trace and a span, and gives their parent.
The fields are determined by the line. -/
theorem read_text_iff_isSpelledBy (line : String) :
    (∀ parent, read (.text line) = .ok parent ↔
      ∃ fields : Fields, fields.IsSpelledBy line.toList ∧ parent = fields.parent) ∧
    ∀ a b : Fields, a.IsSpelledBy line.toList → b.IsSpelledBy line.toList → a = b := by
  refine ⟨?_, fun a b ha hb => ha.eq hb⟩
  intro parent
  rw [read_text]
  constructor
  · exact exists_isSpelledBy_of_parse
  · rintro ⟨fields, hfields, rfl⟩
    exact parse_of_isSpelledBy hfields

example : read (.text " 00000000000000000000000000000001/007;o=1 ") =
    .ok ⟨⟨1, 7, true, 1, ∅⟩, .sampled⟩ := rfl

/-! ## Decoding -/

theorem decode_of_read {value : Value} {parent : Parent} (h : read value = .ok parent) :
    decode value = .ok (some parent.span) := by
  rw [decode, h]

theorem decode_of_refused {value : Value} {cause : HeaderFault}
    (h : read value = .error (.header cause)) : decode value = .ok none := by
  rw [decode, h]

theorem decode_of_fault {value : Value} {fault : Fault} (h : read value = .error fault)
    (hother : ∀ cause, fault ≠ .header cause) : decode value = .error fault := by
  simp only [decode, h]

/-- Nothing is decoded from the values that are refused, and only from them. -/
theorem decode_eq_none_iff {value : Value} :
    decode value = .ok none ↔ ∃ cause, read value = .error (.header cause) := by
  rw [decode]
  rcases read value with fault | parent
  · cases fault <;> simp
  · simp

/-! ## Parents that are read -/

/-- A value that describes a parent holds a line that does. -/
theorem exists_parse_of_read {value : Value} {parent : Parent} (h : read value = .ok parent) :
    ∃ line, parse line = .ok parent := by
  rw [read] at h
  cases hline : ofValue value with
  | error fault =>
      rw [hline] at h
      cases h
  | ok line =>
      rw [hline] at h
      exact ⟨line, h⟩

/-- Whatever the value, a parent that is read has identifiers in range and is received from
elsewhere, with the flags of its decision and without a trace state. -/
theorem exists_remote_of_read {value : Value} {parent : Parent} (h : read value = .ok parent) :
    ∃ trace span decision, parent = ⟨.remote trace span decision, decision⟩ ∧
      (1 ≤ trace ∧ trace < 2 ^ 128) ∧ 0 ≤ span ∧ span < 2 ^ 64 := by
  obtain ⟨line, hline⟩ := exists_parse_of_read h
  obtain ⟨fields, hfields, rfl⟩ := exists_isSpelledBy_of_parse hline
  exact ⟨_, _, fields.decision, fields.parent_eq_remote,
    isTraceId_iff.mp hfields.trace.isTraceId,
    isSpanId_iff.mp ((isSpanId_natCast _).mpr hfields.span.small)⟩

theorem isValid_of_read {value : Value} {parent : Parent} (h : read value = .ok parent)
    (hid : parent.span.spanId ≠ 0) : parent.span.isValid = true := by
  obtain ⟨trace, id, decision, rfl, htrace, hspan⟩ := exists_remote_of_read h
  have hne : id ≠ 0 := hid
  rw [SpanContext.isValid_iff]
  simp only [SpanContext.remote]
  omega

end TraceRelay.CloudHeader
