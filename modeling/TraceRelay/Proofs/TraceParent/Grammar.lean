import TraceRelay.TraceParent
import TraceRelay.Proofs.Numeral.Reading
import TraceRelay.Proofs.Text.Trim

/-!
# The grammar of the traceparent header

A header has four fields of hexadecimal digits with hyphens between them: the version, the trace,
the span and the flags. Padding may stand in front. Behind the flags there may be padding again
or, in versions after the first one, a hyphen and whatever else fits on the line. One line feed at
the end does not count. Reading accepts exactly the lines that spell out such parts, and gives the
numbers that the fields denote (`parse?_eq_some_iff`).
-/

set_option autoImplicit false

namespace TraceRelay.TraceParent

open Numeral

/-! ## Parts -/

/-- A field of hexadecimal digits. -/
structure IsHexField (width : Nat) (field : List Char) : Prop where
  length_eq : field.length = width
  digits : IsRow 16 field

/-- The four fields of a header and what stands behind them. -/
structure Parts where
  version : List Char
  trace : List Char
  span : List Char
  flags : List Char
  rest : List Char

namespace Parts

/-- The text that has the given parts. -/
def join (parts : Parts) : List Char :=
  parts.version ++ '-' :: (parts.trace ++ '-' :: (parts.span ++ '-' :: (parts.flags ++ parts.rest)))

/-- What the parts say. -/
def parent (parts : Parts) : TraceParent :=
  ⟨numberOf 16 parts.trace, numberOf 16 parts.span, numberOf 16 parts.flags⟩

/-- Nothing but padding stands behind the flags. -/
def IsPlain (parts : Parts) : Prop :=
  ∀ c ∈ parts.rest, Text.isPadding c = true

/-- The line goes on behind another hyphen. -/
def IsExtended (parts : Parts) : Prop :=
  ∃ more, parts.rest = '-' :: more ∧ '\n' ∉ more

/-- The line is the parts behind padding and before a line feed that may be missing, and the parts
are acceptable. The first version ends with its flags, the last one is never used, and neither
identifier is zero. -/
structure IsSpelledBy (parts : Parts) (line : List Char) : Prop where
  surrounded : ∃ padding feed, line = padding ++ parts.join ++ feed ∧
    (∀ c ∈ padding, Text.isPadding c = true) ∧ (feed = [] ∨ feed = ['\n'])
  version : IsHexField 2 parts.version
  trace : IsHexField 32 parts.trace
  span : IsHexField 16 parts.span
  flags : IsHexField 2 parts.flags
  ending : parts.IsPlain ∨ parts.IsExtended ∧ parts.version ≠ ['0', '0']
  used : parts.version ≠ ['f', 'f']
  traceNonzero : ∃ c ∈ parts.trace, c ≠ '0'
  spanNonzero : ∃ c ∈ parts.span, c ≠ '0'

end Parts

/-! ## Fields -/

theorem not_isPadding_of_mem_alphabet {c : Char} (h : c ∈ alphabet) :
    Text.isPadding c = false ∧ c ≠ '\n' := by
  have hall : (alphabet.all fun d => !Text.isPadding d && d != '\n') = true := by decide
  simpa using List.all_eq_true.mp hall c h

/-- A field is taken from the front of a text when the text starts with so many digits. -/
theorem hexField?_eq_some_iff {width : Nat} {cs field rest : List Char} :
    hexField? width cs = some (field, rest) ↔ cs = field ++ rest ∧ IsHexField width field := by
  simp only [hexField?]
  constructor
  · intro h
    split at h
    · rename_i hfield
      obtain ⟨rfl, rfl⟩ := Prod.mk.inj (Option.some.inj h)
      exact ⟨(List.take_append_drop width cs).symm, hfield.1, all_isHexDigit_iff.mp hfield.2⟩
    · cases h
  · rintro ⟨rfl, rfl, hdigits⟩
    have htake : (field ++ rest).take field.length = field := List.take_left
    have hdrop : (field ++ rest).drop field.length = rest := List.drop_left
    rw [htake, hdrop, if_pos ⟨rfl, all_isHexDigit_iff.mpr hdigits⟩]

/-- A hyphen is taken from the front of a text when it stands there. -/
theorem afterHyphen?_eq_some_iff {cs rest : List Char} :
    afterHyphen? cs = some rest ↔ cs = '-' :: rest := by
  constructor
  · intro h
    cases cs with
    | nil => cases h
    | cons c ds =>
        by_cases hc : c = '-'
        · subst hc
          rw [Option.some.inj h]
        · simp [afterHyphen?, hc] at h
  · rintro rfl
    rfl

/-! ## Endings -/

theorem dropLineFeed_eq_self {body : List Char} (h : '\n' ∉ body) : dropLineFeed body = body := by
  have hlast : body.getLast? ≠ some '\n' := by
    intro hlast
    exact h (List.mem_of_getLast? hlast)
  rw [dropLineFeed, if_neg hlast]

theorem dropLineFeed_append (body : List Char) : dropLineFeed (body ++ ['\n']) = body := by
  rw [dropLineFeed, if_pos (by simp), List.dropLast_concat]

/-- A text is what is left of it and a line feed that may be missing. -/
theorem exists_append_feed (cs : List Char) :
    ∃ feed, cs = dropLineFeed cs ++ feed ∧ (feed = [] ∨ feed = ['\n']) := by
  rw [dropLineFeed]
  split
  · rename_i hlast
    obtain ⟨body, rfl⟩ := List.getLast?_eq_some_iff.mp hlast
    exact ⟨['\n'], by rw [List.dropLast_concat], Or.inr rfl⟩
  · exact ⟨[], (List.append_nil cs).symm, Or.inl rfl⟩

/-- What stands behind the flags, without the line feed, makes an ending: padding a plain one, and
a hyphen with anything but line feeds behind it an extended one. -/
def Ends (body : List Char) : Ending → Prop
  | .plain => ∀ c ∈ body, Text.isPadding c = true
  | .extended => ∃ more, body = '-' :: more ∧ '\n' ∉ more

/-- No ending has a line feed. -/
theorem Ends.not_mem_lineFeed {body : List Char} {ending : Ending} (h : Ends body ending) :
    '\n' ∉ body := by
  cases ending with
  | plain =>
      intro hmem
      exact absurd (h '\n' hmem) (by decide)
  | extended =>
      obtain ⟨more, rfl, hmore⟩ := h
      simpa using hmore

/-- The ending of a text is the one that it makes without its line feed. -/
theorem ending?_eq_some_iff {cs : List Char} {ending : Ending} :
    ending? cs = some ending ↔ Ends (dropLineFeed cs) ending := by
  simp only [ending?]
  generalize dropLineFeed cs = body
  split
  · rename_i more
    have hpadding : Text.isPadding '-' = false := by decide
    cases ending with
    | plain => simp [Ends, hpadding]
    | extended => by_cases hfeed : '\n' ∈ more <;> simp [Ends, hfeed]
  · rename_i hhyphen
    cases ending with
    | plain => simp [Ends]
    | extended =>
        have hnone : ¬ Ends body .extended := by
          rintro ⟨more, hmore, -⟩
          exact hhyphen more hmore
        simp [hnone]

/-! ## Reading -/

theorem numberOf_ne_zero_iff {field : List Char} (h : IsRow 16 field) :
    numberOf 16 field ≠ 0 ↔ ∃ c ∈ field, c ≠ '0' := by
  rw [Ne, numberOf_eq_zero_iff (by omega) h]
  simp only [not_forall, exists_prop]

theorem allows_eq_true_iff {version : List Char} {ending : Ending} :
    allows version ending = true ↔
      version ≠ ['f', 'f'] ∧ (version ≠ ['0', '0'] ∨ ending = .plain) := by
  simp [allows]

/-- What ends the line behind the flags makes an ending that the version allows. -/
theorem Parts.IsSpelledBy.exists_ending {parts : Parts} {line : List Char}
    (h : parts.IsSpelledBy line) :
    ∃ ending, Ends parts.rest ending ∧ allows parts.version ending = true := by
  rcases h.ending with hplain | ⟨hextended, hversion⟩
  · exact ⟨.plain, hplain, allows_eq_true_iff.mpr ⟨h.used, Or.inr rfl⟩⟩
  · exact ⟨.extended, hextended, allows_eq_true_iff.mpr ⟨h.used, Or.inl hversion⟩⟩

/-- Padding is skipped up to the first digit of the version. -/
theorem Parts.IsSpelledBy.dropWhile_eq {parts : Parts} {padding feed : List Char}
    (hversion : IsHexField 2 parts.version) (hpadding : ∀ c ∈ padding, Text.isPadding c = true) :
    (padding ++ parts.join ++ feed).dropWhile Text.isPadding = parts.join ++ feed := by
  rw [List.append_assoc]
  apply Text.dropWhile_append_of_head_kept hpadding
  intro c hc
  have hmem : c ∈ parts.version := by
    obtain ⟨version, trace, span, flags, rest⟩ := parts
    cases version with
    | nil => cases hversion.length_eq
    | cons d ds =>
        cases hc
        exact List.mem_cons_self
  exact (not_isPadding_of_mem_alphabet (List.mem_of_mem_take (hversion.digits c hmem))).1

/-- A line that spells out acceptable parts is read. -/
theorem parse?_of_isSpelledBy {parts : Parts} {line : List Char} (h : parts.IsSpelledBy line) :
    parse? line = some parts.parent := by
  obtain ⟨padding, feed, rfl, hpadding, hfeed⟩ := h.surrounded
  obtain ⟨ending, hends, hallows⟩ := h.exists_ending
  have hending : ending? (parts.rest ++ feed) = some ending := by
    rw [ending?_eq_some_iff]
    rcases hfeed with rfl | rfl
    · rwa [List.append_nil, dropLineFeed_eq_self hends.not_mem_lineFeed]
    · rwa [dropLineFeed_append]
  have htrace := (numberOf_ne_zero_iff h.trace.digits).mpr h.traceNonzero
  have hspan := (numberOf_ne_zero_iff h.span.digits).mpr h.spanNonzero
  simp only [parse?, Option.bind_eq_bind, Option.bind_eq_some_iff]
  refine ⟨(parts.version, _), hexField?_eq_some_iff.mpr ⟨?_, h.version⟩, _,
    afterHyphen?_eq_some_iff.mpr rfl,
    (parts.trace, _), hexField?_eq_some_iff.mpr ⟨rfl, h.trace⟩, _,
    afterHyphen?_eq_some_iff.mpr rfl,
    (parts.span, _), hexField?_eq_some_iff.mpr ⟨rfl, h.span⟩, _,
    afterHyphen?_eq_some_iff.mpr rfl,
    (parts.flags, parts.rest ++ feed), hexField?_eq_some_iff.mpr ⟨rfl, h.flags⟩,
    ending, hending, ?_⟩
  · rw [Parts.IsSpelledBy.dropWhile_eq h.version hpadding]
    simp [Parts.join]
  · simp only [value_eq_numberOf 16 h.trace.digits, value_eq_numberOf 16 h.span.digits,
      value_eq_numberOf 16 h.flags.digits, hallows, bne_iff_ne.mpr htrace, bne_iff_ne.mpr hspan,
      Bool.and_self, if_true]
    rfl

/-- A line that is read spells out acceptable parts. -/
theorem exists_isSpelledBy_of_parse? {line : List Char} {parent : TraceParent}
    (h : parse? line = some parent) :
    ∃ parts : Parts, parts.IsSpelledBy line ∧ parent = parts.parent := by
  simp only [parse?, Option.bind_eq_bind, Option.bind_eq_some_iff] at h
  obtain ⟨⟨version, _⟩, hfield₁, _, hhyphen₁, ⟨trace, _⟩, hfield₂, _, hhyphen₂, ⟨span, _⟩, hfield₃,
    _, hhyphen₃, ⟨flags, rest⟩, hfield₄, ending, hending, hparent⟩ := h
  obtain ⟨hline, hversion⟩ := hexField?_eq_some_iff.mp hfield₁
  obtain ⟨rfl, htrace⟩ := hexField?_eq_some_iff.mp hfield₂
  obtain ⟨rfl, hspan⟩ := hexField?_eq_some_iff.mp hfield₃
  obtain ⟨rfl, hflags⟩ := hexField?_eq_some_iff.mp hfield₄
  obtain rfl := afterHyphen?_eq_some_iff.mp hhyphen₁
  obtain rfl := afterHyphen?_eq_some_iff.mp hhyphen₂
  obtain rfl := afterHyphen?_eq_some_iff.mp hhyphen₃
  rw [ending?_eq_some_iff] at hending
  obtain ⟨padding, hpadding, hpadding_drop⟩ := @Text.exists_append_dropWhile Text.isPadding line
  obtain ⟨feed, hfeed, hfeed_or⟩ := exists_append_feed rest
  simp only [value_eq_numberOf 16 htrace.digits, value_eq_numberOf 16 hspan.digits,
    value_eq_numberOf 16 hflags.digits] at hparent
  split at hparent
  · rename_i hchecks
    simp only [Bool.and_eq_true, bne_iff_ne, allows_eq_true_iff] at hchecks
    obtain ⟨⟨⟨hused, hallowed⟩, htrace_ne⟩, hspan_ne⟩ := hchecks
    refine ⟨⟨version, trace, span, flags, dropLineFeed rest⟩, ?_,
      (Option.some.inj hparent).symm⟩
    refine ⟨⟨padding, feed, ?_, hpadding_drop, hfeed_or⟩, hversion, htrace, hspan, hflags, ?_,
      hused, (numberOf_ne_zero_iff htrace.digits).mp htrace_ne,
      (numberOf_ne_zero_iff hspan.digits).mp hspan_ne⟩
    · rw [hline] at hpadding
      rw [hpadding]
      conv_lhs => rw [hfeed]
      simp [Parts.join]
    · cases ending with
      | plain => exact Or.inl hending
      | extended =>
          rcases hallowed with hversion_ne | hplain
          · exact Or.inr ⟨hending, hversion_ne⟩
          · cases hplain
  · cases hparent

/-- Reading accepts exactly the lines that spell out acceptable parts, and gives what the parts
say. -/
theorem parse?_eq_some_iff {line : List Char} {parent : TraceParent} :
    parse? line = some parent ↔
      ∃ parts : Parts, parts.IsSpelledBy line ∧ parent = parts.parent := by
  constructor
  · exact exists_isSpelledBy_of_parse?
  · rintro ⟨parts, hparts, rfl⟩
    exact parse?_of_isSpelledBy hparts

end TraceRelay.TraceParent
