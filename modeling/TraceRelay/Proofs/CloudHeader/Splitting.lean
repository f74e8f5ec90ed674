import TraceRelay.Proofs.CloudHeader.Grammar

/-!
# Splitting a header

A line falls into its fields at the first slash and at the first semicolon behind it. Nothing is
lost by that: the fields and the separators between them are the line, and there is no second way to
take it apart (`split_eq_ok_iff`). Separators that come later, and semicolons before the slash, are
characters of the field in which they stand. Only a line without a slash has no fields
(`split_eq_error_iff`).
-/

set_option autoImplicit false

namespace TraceRelay.CloudHeader

/-! ## Headers -/

/-- The fields of a header are the ones that are cut at the first separators and give it back. -/
theorem split_eq_ok_iff {header : List Char} {fields : Fields} :
    split header = .ok fields ↔ fields.IsCut ∧ fields.join = header := by
  constructor
  · intro hsplit
    by_cases hslash : '/' ∈ header
    · obtain ⟨other, hcut, rfl⟩ := exists_isCut_of_mem hslash
      rw [split_join hcut] at hsplit
      cases hsplit
      exact ⟨hcut, rfl⟩
    · rw [split_of_not_mem hslash] at hsplit
      cases hsplit
  · rintro ⟨hcut, rfl⟩
    exact split_join hcut

/-- A header has no fields when there is no slash in it, and it is refused as a whole then. -/
theorem split_eq_error_iff {header : List Char} {fault : Fault} :
    split header = .error fault ↔
      '/' ∉ header ∧ fault = .header (.missingSeparator (String.ofList header)) := by
  constructor
  · intro hsplit
    by_cases hslash : '/' ∈ header
    · obtain ⟨fields, hcut, rfl⟩ := exists_isCut_of_mem hslash
      rw [split_join hcut] at hsplit
      cases hsplit
    · rw [split_of_not_mem hslash] at hsplit
      cases hsplit
      exact ⟨hslash, rfl⟩
  · rintro ⟨hslash, rfl⟩
    exact split_of_not_mem hslash

/-! ## Lines -/

/-- The line consists of the fields with a slash behind the first, and with a semicolon before the
suffix if there is one. The first field has no slash in it and the second one no semicolon. -/
structure Fields.MakesUp (fields : Fields) (line : String) : Prop where
  slash : '/' ∉ fields.trace
  semicolon : ';' ∉ fields.span
  withoutSuffix : fields.suffix = none →
    line = String.ofList fields.trace ++ "/" ++ String.ofList fields.span
  withSuffix : ∀ suffix, fields.suffix = some suffix →
    line = String.ofList fields.trace ++ "/" ++ String.ofList fields.span ++ ";" ++
      String.ofList suffix

/-- Fields make up the line that joining them gives. -/
theorem Fields.makesUp_iff {fields : Fields} {line : String} :
    fields.MakesUp line ↔ fields.IsCut ∧ fields.join = line.toList := by
  obtain ⟨trace, span, suffix⟩ := fields
  constructor
  · rintro ⟨hslash, hsemicolon, hwithout, hwith⟩
    refine ⟨⟨hslash, hsemicolon⟩, ?_⟩
    cases suffix with
    | none => simp [hwithout rfl, Fields.join]
    | some suffix => simp [hwith suffix rfl, Fields.join]
  · rintro ⟨⟨hslash, hsemicolon⟩, hjoin⟩
    refine ⟨hslash, hsemicolon, ?_, ?_⟩
    · rintro rfl
      apply String.toList_inj.mp
      simp [← hjoin, Fields.join]
    · rintro suffix rfl
      apply String.toList_inj.mp
      simp [← hjoin, Fields.join]

theorem splitValue_text (line : String) : splitValue (.text line) = split line.toList := rfl

theorem splitValue_text_eq_ok_iff {line : String} {fields : Fields} :
    splitValue (.text line) = .ok fields ↔ fields.MakesUp line := by
  rw [splitValue_text, split_eq_ok_iff, Fields.makesUp_iff]

/-- Splitting loses nothing. A line without a slash is refused as a whole, and no other line is.
Any other line is split into fields that make it up, which no other fields do. So whatever stands
before the first slash is the first field, also with semicolons in it; whatever stands between this
slash and the next semicolon is the second one, also with slashes in it; and whatever follows is the
suffix, which is not the same when it is empty as when it is missing. -/
theorem splitValue_lossless :
    (∀ line : String,
      (splitValue (.text line) = .error (.header (.missingSeparator line)) ↔
        '/' ∉ line.toList) ∧
      ('/' ∈ line.toList → ∃ fields : Fields, splitValue (.text line) = .ok fields ∧
        fields.MakesUp line ∧ ∀ other : Fields, other.MakesUp line → other = fields)) ∧
    ∀ trace span : List Char, '/' ∉ trace → ';' ∉ span →
      splitValue (.text (String.ofList trace ++ "/" ++ String.ofList span)) =
        .ok ⟨trace, span, none⟩ ∧
      ∀ suffix : List Char,
        splitValue (.text (String.ofList trace ++ "/" ++ String.ofList span ++ ";" ++
          String.ofList suffix)) = .ok ⟨trace, span, some suffix⟩ := by
  refine ⟨fun line => ⟨?_, ?_⟩, ?_⟩
  · rw [splitValue_text, split_eq_error_iff, String.ofList_toList]
    exact and_iff_left rfl
  · intro hslash
    obtain ⟨fields, hfields⟩ := exists_isCut_of_mem hslash
    have hmakes : fields.MakesUp line := Fields.makesUp_iff.mpr hfields
    refine ⟨fields, splitValue_text_eq_ok_iff.mpr hmakes, hmakes, ?_⟩
    intro other hother
    obtain ⟨hcut, hjoin⟩ := Fields.makesUp_iff.mp hother
    exact Fields.eq_of_join_eq hcut hfields.1 (hjoin.trans hfields.2.symm)
  · intro trace span hslash hsemicolon
    refine ⟨splitValue_text_eq_ok_iff.mpr ⟨hslash, hsemicolon, fun _ => rfl, ?_⟩, ?_⟩
    · intro suffix hsuffix
      cases hsuffix
    · intro suffix
      refine splitValue_text_eq_ok_iff.mpr ⟨hslash, hsemicolon, ?_, ?_⟩
      · intro hnone
        cases hnone
      · rintro _ ⟨⟩
        rfl

/-- The separators that are left over stay in the fields. -/
theorem splitValue_crowded :
    '/' ∈ "a;b/c/d;/e;".toList ∧ '/' ∉ "a;b".toList ∧ ';' ∉ "c/d".toList ∧
    splitValue (.text "a;b/c/d") = .ok ⟨"a;b".toList, "c/d".toList, none⟩ ∧
    splitValue (.text "a;b/c/d;") = .ok ⟨"a;b".toList, "c/d".toList, some []⟩ ∧
    splitValue (.text "a;b/c/d;/e;") = .ok ⟨"a;b".toList, "c/d".toList, some "/e;".toList⟩ ∧
    ∀ other : Fields, other.MakesUp "a;b/c/d;/e;" →
      other = ⟨"a;b".toList, "c/d".toList, some "/e;".toList⟩ := by
  obtain ⟨hlines, hparts⟩ := splitValue_lossless
  have hslash : '/' ∈ "a;b/c/d;/e;".toList := by decide
  obtain ⟨hwithout, hwith⟩ := hparts "a;b".toList "c/d".toList (by decide) (by decide)
  obtain ⟨fields, hsplit, -, hunique⟩ := (hlines "a;b/c/d;/e;").2 hslash
  have hfields : Except.ok fields = .ok ⟨"a;b".toList, "c/d".toList, some "/e;".toList⟩ :=
    hsplit.symm.trans (hwith "/e;".toList)
  refine ⟨hslash, by decide, by decide, hwithout, hwith [], hwith "/e;".toList, ?_⟩
  intro other hother
  rw [hunique other hother]
  exact Except.ok.inj hfields

end TraceRelay.CloudHeader
