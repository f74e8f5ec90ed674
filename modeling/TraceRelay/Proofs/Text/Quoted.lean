import TraceRelay.Proofs.Numeral.Writing
import TraceRelay.Text.Quoted

/-!
# Quoted literals can be read back

Whatever the text, its literal holds printable characters only (`isPrintable_of_mem_encode`), and
none of those that end a line or turn the direction of writing is printable
(`not_isDisruptive_of_isPrintable`). The literal gives the text back: what stands for a character
can be read off the characters it starts with (`readChar?_encodeChar`), and no character is written
in a way that could be taken for the closing quote. So two literals are the same only for the same
text, also when other characters follow them (`encode_append_inj`).
-/

set_option autoImplicit false

namespace TraceRelay.Text

/-! ## Printable characters -/

/-- Control characters, separators of lines and paragraphs, and the marks that set, embed, override
or isolate a direction of writing. -/
def disruptiveRanges : List CodeRange :=
  [⟨0x00, 0x1F⟩, ⟨0x7F, 0x9F⟩, ⟨0x61C, 0x61C⟩, ⟨0x200E, 0x200F⟩, ⟨0x2028, 0x2029⟩,
    ⟨0x202A, 0x202E⟩, ⟨0x2066, 0x2069⟩]

/-- The character may change how a line of text is laid out. -/
def isDisruptive (c : Char) : Bool :=
  CodeRange.anyContains disruptiveRanges c

theorem CodeRange.anyContains_iff {ranges : List CodeRange} {c : Char} :
    anyContains ranges c = true ↔ ∃ r ∈ ranges, r.first ≤ c.toNat ∧ c.toNat ≤ r.last := by
  simp [anyContains, contains]

theorem isPrintable_of_all {cs : List Char} (h : cs.all isAsciiGraphic = true) :
    ∀ c ∈ cs, isPrintable c = true := by
  intro c hc
  rw [isPrintable, List.all_eq_true.mp h c hc, Bool.true_or]

/-- No printable character changes how a line is laid out. -/
theorem not_isDisruptive_of_isPrintable {c : Char} (h : isPrintable c = true) :
    isDisruptive c = false := by
  -- Each range lies in one of the unprintable ones and holds no graphic character of ASCII.
  have hcovered : ∀ r ∈ disruptiveRanges, (r.last < 0x20 ∨ 0x7F ≤ r.first) ∧
      ∃ s ∈ unprintableRanges, s.first ≤ r.first ∧ r.last ≤ s.last := by
    decide +kernel
  rw [Bool.eq_false_iff]
  intro hdisruptive
  obtain ⟨r, hr, hfirst, hlast⟩ := CodeRange.anyContains_iff.mp hdisruptive
  obtain ⟨hascii, s, hs, hsfirst, hslast⟩ := hcovered r hr
  have hunprintable : CodeRange.anyContains unprintableRanges c = true :=
    CodeRange.anyContains_iff.mpr ⟨s, hs, by omega, by omega⟩
  simp only [isPrintable, isAsciiGraphic, hunprintable, Bool.not_true, Bool.or_false,
    Bool.and_eq_true, decide_eq_true_eq] at h
  omega

theorem isPrintable_of_mem_hex {width : Nat} {n : Int} {c : Char} (h : c ∈ Numeral.hex width n) :
    isPrintable c = true := by
  have hgraphic : ('-' :: Numeral.alphabet).all isAsciiGraphic = true := by decide
  apply isPrintable_of_all hgraphic
  exact List.mem_cons.mpr (Numeral.mem_signed (by omega) (by omega) h)

namespace Quoted

/-! ## Quotes -/

/-- A character that is put around texts. -/
def IsQuote (quote : Char) : Prop :=
  quote = singleQuote ∨ quote = doubleQuote

theorem isQuote_quoteOf (cs : List Char) : IsQuote (quoteOf cs) := by
  rw [quoteOf]
  split
  · exact Or.inr rfl
  · exact Or.inl rfl

variable {quote : Char}

theorem IsQuote.isPrintable (h : IsQuote quote) : isPrintable quote = true := by
  have hgraphic : [singleQuote, doubleQuote].all isAsciiGraphic = true := rfl
  apply isPrintable_of_all hgraphic
  simpa [IsQuote] using h

theorem IsQuote.ne_backslash (h : IsQuote quote) : quote ≠ '\\' := by
  rcases h with rfl | rfl <;> decide

/-! ## Reading a character -/

/-- The number of digits behind a mark that gives a character by its code point. -/
def codeWidth? (mark : Char) : Option Nat :=
  if mark = 'x' then some 2
  else if mark = 'u' then some 4
  else if mark = 'U' then some 8
  else none

/-- The character that any other mark stands for: a letter for white space, or the mark itself. -/
def ofMark (mark : Char) : Char :=
  if mark = 't' then '\t'
  else if mark = 'n' then '\n'
  else if mark = 'r' then '\r'
  else mark

/-- The character that the marks behind a backslash stand for, and what follows them. -/
def readMarks? : List Char → Option (Char × List Char)
  | [] => none
  | mark :: rest =>
      match codeWidth? mark with
      | some width => some (Char.ofNat (Numeral.value 16 (rest.take width)), rest.drop width)
      | none => some (ofMark mark, rest)

/-- The character that a literal goes on with, and what follows it. -/
def readChar? : List Char → Option (Char × List Char)
  | [] => none
  | c :: rest => if c = '\\' then readMarks? rest else some (c, rest)

theorem readChar?_plain {c : Char} (h : c ≠ '\\') (rest : List Char) :
    readChar? (c :: rest) = some (c, rest) :=
  if_neg h

theorem readChar?_mark {mark : Char} (h : codeWidth? mark = none) (rest : List Char) :
    readChar? ('\\' :: mark :: rest) = some (ofMark mark, rest) := by
  rw [readChar?, if_pos rfl, readMarks?, h]

/-- A code point in as many digits as its mark says stands for its character. -/
theorem readChar?_code {mark : Char} {width : Nat} (h : codeWidth? mark = some width)
    (hwidth : 0 < width) {c : Char} (hfits : c.toNat < 16 ^ width) (rest : List Char) :
    readChar? ('\\' :: mark :: Numeral.hex width c.toNat ++ rest) = some (c, rest) := by
  have hlength : (Numeral.hex width c.toNat).length = width :=
    Numeral.length_hex hwidth (by omega) (by exact_mod_cast hfits)
  have hrow : Numeral.IsRow 16 (Numeral.hex width c.toNat) := Numeral.isRow_hex width (by omega)
  have hvalue : Numeral.value 16 (Numeral.hex width c.toNat) = c.toNat := by
    rw [Numeral.value_eq_numberOf 16 hrow]
    exact_mod_cast Numeral.numberOf_hex width (n := c.toNat) (by omega)
  rw [List.cons_append, List.cons_append, readChar?, if_pos rfl, readMarks?, h]
  simp only [List.take_left' hlength, List.drop_left' hlength, hvalue, Char.ofNat_toNat]

/-! ## Characters of a literal -/

/-- A code point is written in as many digits as its mark says, and these are enough. -/
theorem exists_escapeCode_eq (c : Char) :
    ∃ mark ∈ ['x', 'u', 'U'], ∃ width, codeWidth? mark = some width ∧ 0 < width ∧
      c.toNat < 16 ^ width ∧ escapeCode c.toNat = '\\' :: mark :: Numeral.hex width c.toNat := by
  rw [escapeCode]
  split
  · exact ⟨'x', by decide, 2, rfl, by decide, by omega, rfl⟩
  · split
    · exact ⟨'u', by decide, 4, rfl, by decide, by omega, rfl⟩
    · have hvalid : c.toNat < 0x110000 := by
        rcases c.valid with hlow | ⟨-, hhigh⟩
        · exact hlow.trans (by decide)
        · exact hhigh
      exact ⟨'U', by decide, 8, rfl, by decide, by omega, rfl⟩

/-- What stands for a character can be told apart from whatever follows it. -/
theorem readChar?_encodeChar (hquote : IsQuote quote) (c : Char) (rest : List Char) :
    readChar? (encodeChar quote c ++ rest) = some (c, rest) := by
  rw [encodeChar]
  split_ifs with hself htab hfeed hreturn hprintable
  · have hmark : codeWidth? c = none ∧ ofMark c = c := by
      rcases hself with rfl | rfl
      · rcases hquote with rfl | rfl <;> decide
      · decide
    rw [List.cons_append, List.singleton_append, readChar?_mark hmark.1, hmark.2]
  · subst htab
    exact readChar?_mark rfl rest
  · subst hfeed
    exact readChar?_mark rfl rest
  · subst hreturn
    exact readChar?_mark rfl rest
  · exact readChar?_plain (fun hslash => hself (Or.inr hslash)) rest
  · obtain ⟨mark, -, width, hmark, hwidth, hfits, hescape⟩ := exists_escapeCode_eq c
    rw [hescape]
    exact readChar?_code hmark hwidth hfits rest

/-- What stands for a character does not start with the quote. -/
theorem encodeChar_append_ne (hquote : IsQuote quote) (c : Char) (rest after : List Char) :
    encodeChar quote c ++ rest ≠ quote :: after := by
  have hslash : ∀ tail, '\\' :: tail ++ rest ≠ quote :: after := by
    intro tail htail
    exact hquote.ne_backslash (List.cons.inj htail).1.symm
  rw [encodeChar]
  split_ifs with hself htab hfeed hreturn hprintable
  · exact hslash [c]
  · exact hslash ['t']
  · exact hslash ['n']
  · exact hslash ['r']
  · intro hplain
    exact hself (Or.inl (List.cons.inj hplain).1)
  · obtain ⟨mark, -, width, -, -, -, hescape⟩ := exists_escapeCode_eq c
    rw [hescape]
    exact hslash _

/-- What stands for a character is printable. -/
theorem isPrintable_of_mem_encodeChar (hquote : IsQuote quote) (c : Char) :
    ∀ d ∈ encodeChar quote c, isPrintable d = true := by
  rw [encodeChar]
  split_ifs with hself htab hfeed hreturn hprintable
  · apply isPrintable_of_all
    rcases hself with rfl | rfl
    · rcases hquote with rfl | rfl <;> rfl
    · rfl
  · exact isPrintable_of_all rfl
  · exact isPrintable_of_all rfl
  · exact isPrintable_of_all rfl
  · intro d hd
    rwa [List.mem_singleton.mp hd]
  · obtain ⟨mark, hmark, width, -, -, -, hescape⟩ := exists_escapeCode_eq c
    have hmarks : ['\\', 'x', 'u', 'U'].all isAsciiGraphic = true := rfl
    rw [hescape]
    simp only [List.mem_cons]
    rintro d (rfl | rfl | hd)
    · exact isPrintable_of_all hmarks _ List.mem_cons_self
    · exact isPrintable_of_all hmarks d (List.mem_cons_of_mem _ hmark)
    · exact isPrintable_of_mem_hex hd

/-! ## Literals -/

/-- A literal holds printable characters only. -/
theorem isPrintable_of_mem_encode {cs : List Char} {c : Char} (h : c ∈ encode cs) :
    isPrintable c = true := by
  have hquote := isQuote_quoteOf cs
  simp only [encode, List.mem_append, List.mem_cons, List.mem_flatMap, List.not_mem_nil,
    or_false] at h
  rcases h with (rfl | ⟨d, -, hc⟩) | rfl
  · exact hquote.isPrintable
  · exact isPrintable_of_mem_encodeChar hquote d c hc
  · exact hquote.isPrintable

/-- Between quotes of one kind, a text is determined by what stands for it, and the closing quote is
the first thing that stands for no character. -/
theorem eq_of_flatMap_append (hquote : IsQuote quote) {cs ds s t : List Char}
    (h : cs.flatMap (encodeChar quote) ++ quote :: s =
      ds.flatMap (encodeChar quote) ++ quote :: t) : cs = ds ∧ s = t := by
  induction cs generalizing ds with
  | nil =>
      cases ds with
      | nil => exact ⟨rfl, (List.cons.inj h).2⟩
      | cons d ds =>
          rw [List.flatMap_cons, List.append_assoc] at h
          exact absurd h.symm (encodeChar_append_ne hquote d _ s)
  | cons c cs ih =>
      cases ds with
      | nil =>
          rw [List.flatMap_cons, List.append_assoc] at h
          exact absurd h (encodeChar_append_ne hquote c _ t)
      | cons d ds =>
          rw [List.flatMap_cons, List.flatMap_cons, List.append_assoc, List.append_assoc] at h
          have hread := congrArg readChar? h
          rw [readChar?_encodeChar hquote, readChar?_encodeChar hquote] at hread
          obtain ⟨rfl, hrest⟩ := Prod.mk.inj (Option.some.inj hread)
          obtain ⟨rfl, rfl⟩ := ih hrest
          exact ⟨rfl, rfl⟩

/-- A literal determines the text, and it can be told apart from whatever follows it. -/
theorem encode_append_inj {cs ds s t : List Char} :
    encode cs ++ s = encode ds ++ t ↔ cs = ds ∧ s = t := by
  constructor
  · intro h
    simp only [encode, List.cons_append, List.append_assoc] at h
    obtain ⟨hquote, hbody⟩ := List.cons.inj h
    rw [hquote] at hbody
    exact eq_of_flatMap_append (isQuote_quoteOf ds) hbody
  · rintro ⟨rfl, rfl⟩
    rfl

end Quoted

end TraceRelay.Text
