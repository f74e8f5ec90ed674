import Mathlib.Tactic.IntervalCases
import TraceRelay.Proofs.Numeral.Reading
import TraceRelay.Proofs.Text.Trim
import TraceRelay.TraceState

/-!
# The grammar of the tracestate header

A list of entries is written with commas between its fields, each of which is an entry with padding
around it or nothing but padding. An entry is a key, an equals sign and a value. A state is spelled
out by a text that lists the entries of the state when both of them are within their limits. The
tests for keys and values are those of the grammar (`isKey_iff`, `isValue_iff`), so a member is read
as the entry that it spells out (`entry?_eq_some_iff`).
-/

set_option autoImplicit false

namespace TraceRelay.TraceState

open Numeral

/-! ## Grammar -/

/-- The lower-case letters of ASCII. -/
def letters : List Char :=
  ['a', 'b', 'c', 'd', 'e', 'f', 'g', 'h', 'i', 'j', 'k', 'l', 'm', 'n', 'o', 'p', 'q', 'r', 's',
    't', 'u', 'v', 'w', 'x', 'y', 'z']

/-- The characters of a key behind its first one. -/
def keyCharacters : List Char :=
  letters ++ alphabet.take 10 ++ ['_', '-', '*', '/']

/-- One of some first characters, and up to `most` characters of keys. -/
inductive IsName (first : List Char) (most : Nat) : List Char → Prop
  | intro {head : Char} {rest : List Char} (hhead : head ∈ first) (hmost : rest.length ≤ most)
      (hrest : ∀ c ∈ rest, c ∈ keyCharacters) : IsName first most (head :: rest)

/-- A simple key, or a tenant and a system with an at sign between them. -/
inductive SpellsKey : List Char → Prop
  | simple {key : List Char} (hkey : IsName letters 255 key) : SpellsKey key
  | tenant {tenant system : List Char} (htenant : IsName (letters ++ alphabet.take 10) 240 tenant)
      (hsystem : IsName letters 13 system) : SpellsKey (tenant ++ '@' :: system)

/-- Up to 256 graphic characters of ASCII and spaces, none of them a comma or an equals sign, and
the last one not a space. -/
structure SpellsValue (value : List Char) : Prop where
  length : 0 < value.length ∧ value.length ≤ 256
  graphic : ∀ c ∈ value, 0x20 ≤ c.toNat ∧ c.toNat ≤ 0x7E ∧ c ≠ ',' ∧ c ≠ '='
  last : value.getLast? ≠ some ' '

/-- The text is a key, an equals sign and a value. -/
structure SpellsEntry (entry : String × String) (text : List Char) : Prop where
  key : SpellsKey entry.1.toList
  value : SpellsValue entry.2.toList
  text : text = entry.1.toList ++ '=' :: entry.2.toList

/-- The entries that stand in a field: none in one of padding, and one with padding around it. -/
inductive Holds : List Char → List (String × String) → Prop
  | blank {field : List Char} (hfield : ∀ c ∈ field, Text.isPadding c = true) : Holds field []
  | entry {before text after : List Char} {entry : String × String}
      (hbefore : ∀ c ∈ before, Text.isPadding c = true) (hentry : SpellsEntry entry text)
      (hafter : ∀ c ∈ after, Text.isPadding c = true) : Holds (before ++ text ++ after) [entry]

/-- The entries that a text lists: those of its fields, which have commas between them. -/
inductive Lists : List Char → List (String × String) → Prop
  | last {field : List Char} {found : List (String × String)} (hfield : Holds field found) :
      Lists field found
  | cons {field rest : List Char} {found entries : List (String × String)}
      (hfield : Holds field found) (hrest : Lists rest entries) :
      Lists (field ++ ',' :: rest) (found ++ entries)

/-- The text lists the entries of the state, and neither is too long. No state has a key twice, so a
text with a key twice spells out no state. -/
structure Spells (state : TraceState) (text : List Char) : Prop where
  short : text.length ≤ 8192
  few : state.entries.length ≤ 32
  listed : Lists text state.entries

/-- The state that a text describes: the one that it spells out, or the empty one. -/
def Describes (text : List Char) (state : TraceState) : Prop :=
  Spells state text ∨ (∀ other, ¬ Spells other text) ∧ state = ∅

/-! ## Characters -/

theorem isLetter_iff {c : Char} : isLetter c = true ↔ c ∈ letters := by
  constructor
  · intro h
    simp only [isLetter, Bool.and_eq_true, decide_eq_true_eq] at h
    have hlow : 97 ≤ c.toNat := h.1
    have hhigh : c.toNat ≤ 122 := h.2
    rw [← Char.ofNat_toNat c]
    interval_cases c.toNat <;> decide
  · intro h
    have hall : letters.all isLetter = true := by decide
    exact List.all_eq_true.mp hall c h

theorem isKeyChar_iff {c : Char} : isKeyChar c = true ↔ c ∈ keyCharacters := by
  simp only [isKeyChar, keyCharacters, Bool.or_eq_true, beq_iff_eq, isLetter_iff,
    isDecimalDigit_iff, List.mem_append, List.mem_cons, List.not_mem_nil, or_false, or_assoc]

theorem isValueChar_iff {c : Char} :
    isValueChar c = true ↔ 0x20 ≤ c.toNat ∧ c.toNat ≤ 0x7E ∧ c ≠ ',' ∧ c ≠ '=' := by
  have hlow : ' ' ≤ c ↔ 0x20 ≤ c.toNat := Iff.rfl
  have hhigh : c ≤ '~' ↔ c.toNat ≤ 0x7E := Iff.rfl
  simp only [isValueChar, Bool.and_eq_true, decide_eq_true_eq, bne_iff_ne, hlow, hhigh, and_assoc]

theorem ne_of_mem_keyCharacters {c : Char} (h : c ∈ keyCharacters) :
    c ≠ '@' ∧ c ≠ '=' ∧ c ≠ ',' ∧ Text.isPadding c = false := by
  have hall : (keyCharacters.all fun d =>
      d != '@' && d != '=' && d != ',' && !Text.isPadding d) = true := by decide
  simpa [and_assoc] using List.all_eq_true.mp hall c h

/-! ## Keys -/

theorem IsName.subset {first : List Char} {most : Nat} {name : List Char}
    (h : IsName first most name) (hfirst : first ⊆ keyCharacters) :
    ∀ c ∈ name, c ∈ keyCharacters := by
  obtain ⟨hhead, -, hrest⟩ := h
  intro c hc
  rcases List.mem_cons.mp hc with rfl | hc
  · exact hfirst hhead
  · exact hrest c hc

theorem isKeyPart_iff {first : Char → Bool} {characters : List Char} {most : Nat}
    (hfirst : ∀ c, first c = true ↔ c ∈ characters) {name : List Char} :
    isKeyPart first most name = true ↔ IsName characters most name := by
  cases name with
  | nil =>
      constructor
      · intro h
        cases h
      · intro h
        cases h
  | cons head rest =>
      simp only [isKeyPart, Bool.and_eq_true, decide_eq_true_eq, List.all_eq_true, hfirst,
        isKeyChar_iff]
      constructor
      · rintro ⟨⟨hhead, hmost⟩, hrest⟩
        exact ⟨hhead, hmost, hrest⟩
      · rintro ⟨hhead, hmost, hrest⟩
        exact ⟨⟨hhead, hmost⟩, hrest⟩

theorem letters_subset : letters ⊆ keyCharacters := by
  intro c hc
  simp [keyCharacters, hc]

theorem tenantCharacters_subset : letters ++ alphabet.take 10 ⊆ keyCharacters :=
  List.subset_append_left _ _

theorem IsName.not_mem_at {first : List Char} {most : Nat} {name : List Char}
    (h : IsName first most name) (hfirst : first ⊆ keyCharacters) : '@' ∉ name := by
  intro hmem
  exact (ne_of_mem_keyCharacters (h.subset hfirst '@' hmem)).1 rfl

/-- A key is accepted when it is simple or made of a tenant and a system. -/
theorem isKey_iff {key : List Char} : isKey key = true ↔ SpellsKey key := by
  have hletter : ∀ c, isLetter c = true ↔ c ∈ letters := fun _ => isLetter_iff
  have htenantHead : ∀ c, (isLetter c || isDecimalDigit c) = true ↔
      c ∈ letters ++ alphabet.take 10 := by
    intro c
    rw [Bool.or_eq_true, isLetter_iff, isDecimalDigit_iff, List.mem_append]
  by_cases hat : '@' ∈ key
  · obtain ⟨tenant, system, rfl, htenant⟩ := List.eq_append_cons_of_mem hat
    simp only [isKey, Text.cut_append system htenant, Bool.and_eq_true,
      isKeyPart_iff htenantHead, isKeyPart_iff hletter]
    constructor
    · rintro ⟨hfirst, hsecond⟩
      exact .tenant hfirst hsecond
    · intro h
      generalize hkey : tenant ++ '@' :: system = key at h
      cases h with
      | simple hname =>
          subst hkey
          exact absurd hat (hname.not_mem_at letters_subset)
      | @tenant other rest hother hrest =>
          have hcut := congrArg (Text.cut '@') hkey
          rw [Text.cut_append _ htenant,
            Text.cut_append _ (hother.not_mem_at tenantCharacters_subset)] at hcut
          cases hcut
          exact ⟨hother, hrest⟩
  · simp only [isKey, Text.cut_of_not_mem hat, isKeyPart_iff hletter]
    constructor
    · exact .simple
    · intro h
      cases h with
      | simple hname => exact hname
      | tenant htenant hsystem => exact absurd (by simp) hat

/-- The characters of a key. -/
theorem SpellsKey.subset {key : List Char} (h : SpellsKey key) :
    ∀ c ∈ key, c = '@' ∨ c ∈ keyCharacters := by
  cases h with
  | simple hname => exact fun c hc => Or.inr (hname.subset letters_subset c hc)
  | tenant htenant hsystem =>
      intro c hc
      rcases List.mem_append.mp hc with hc | hc
      · exact Or.inr (htenant.subset tenantCharacters_subset c hc)
      · rcases List.mem_cons.mp hc with rfl | hc
        · exact Or.inl rfl
        · exact Or.inr (hsystem.subset letters_subset c hc)

theorem SpellsKey.ne {key : List Char} (h : SpellsKey key) :
    ∀ c ∈ key, c ≠ '=' ∧ c ≠ ',' ∧ Text.isPadding c = false := by
  intro c hc
  rcases h.subset c hc with rfl | hmem
  · decide
  · exact (ne_of_mem_keyCharacters hmem).2

theorem SpellsKey.ne_nil {key : List Char} (h : SpellsKey key) : key ≠ [] := by
  cases h with
  | simple hname =>
      cases hname
      exact List.cons_ne_nil _ _
  | tenant htenant hsystem => simp

/-! ## Values and entries -/

theorem isValue_iff {value : List Char} : isValue value = true ↔ SpellsValue value := by
  simp only [isValue, Bool.and_eq_true, Bool.not_eq_true', List.isEmpty_eq_false_iff,
    decide_eq_true_eq, List.all_eq_true, isValueChar_iff, bne_iff_ne]
  constructor
  · rintro ⟨⟨⟨hnonempty, hlength⟩, hgraphic⟩, hlast⟩
    exact ⟨⟨List.length_pos_iff.mpr hnonempty, hlength⟩, hgraphic, hlast⟩
  · rintro ⟨⟨hpositive, hlength⟩, hgraphic, hlast⟩
    exact ⟨⟨⟨List.ne_nil_of_length_pos hpositive, hlength⟩, hgraphic⟩, hlast⟩

/-- A member is read as the entry that it is. -/
theorem entry?_eq_some_iff {member : List Char} {entry : String × String} :
    entry? member = some entry ↔ SpellsEntry entry member := by
  obtain ⟨key, value⟩ := entry
  constructor
  · intro h
    by_cases hequals : '=' ∈ member
    · obtain ⟨front, behind, rfl, hfront⟩ := List.eq_append_cons_of_mem hequals
      simp only [Text.cut_append behind hfront, entry?] at h
      split at h
      · rename_i haccepted
        obtain ⟨hkey, hvalue⟩ := Bool.and_eq_true_iff.mp haccepted
        cases h
        refine ⟨?_, ?_, ?_⟩
        · simpa using isKey_iff.mp hkey
        · simpa using isValue_iff.mp hvalue
        · simp
      · cases h
    · simp [Text.cut_of_not_mem hequals, entry?] at h
  · rintro ⟨hkey, hvalue, rfl⟩
    have hequals : '=' ∉ key.toList := fun hmem => (hkey.ne '=' hmem).1 rfl
    have hkey' : isKey key.toList = true := isKey_iff.mpr hkey
    have hvalue' : isValue value.toList = true := isValue_iff.mpr hvalue
    simp [Text.cut_append _ hequals, entry?, hkey', hvalue']

theorem SpellsEntry.not_mem_comma {entry : String × String} {text : List Char}
    (h : SpellsEntry entry text) : ',' ∉ text := by
  rw [h.text]
  intro hmem
  rcases List.mem_append.mp hmem with hmem | hmem
  · exact (h.key.ne ',' hmem).2.1 rfl
  · rcases List.mem_cons.mp hmem with heq | hmem
    · cases heq
    · exact (h.value.graphic ',' hmem).2.2.1 rfl

/-- An entry with padding around it is what is left without the padding. -/
theorem SpellsEntry.trims {entry : String × String} {before text after : List Char}
    (h : SpellsEntry entry text) (hbefore : ∀ c ∈ before, Text.isPadding c = true)
    (hafter : ∀ c ∈ after, Text.isPadding c = true) :
    Text.Trims Text.isPadding (before ++ text ++ after) text where
  surrounded := ⟨before, after, rfl, hbefore, hafter⟩
  head_kept := by
    intro c hc
    obtain ⟨d, rest, hkey⟩ := List.exists_cons_of_ne_nil h.key.ne_nil
    obtain rfl : d = c := by simpa [h.text, hkey] using hc
    exact (h.key.ne d (by simp [hkey])).2.2
  last_kept := by
    intro c hc
    have hvalue : entry.2.toList ≠ [] := List.ne_nil_of_length_pos h.value.length.1
    obtain ⟨front, d, hconcat⟩ := (List.eq_nil_or_concat entry.2.toList).resolve_left hvalue
    rw [h.text, hconcat, List.concat_eq_append, ← List.cons_append, ← List.append_assoc,
      List.getLast?_concat] at hc
    obtain rfl := Option.some.inj hc
    -- A value has no tab in it, and its last character is not a space.
    obtain ⟨hlow, -⟩ := h.value.graphic d (by simp [hconcat])
    have hspace : d ≠ ' ' := by
      rintro rfl
      exact h.value.last (by simp [hconcat])
    have htab : d ≠ '\t' := by
      rintro rfl
      exact absurd hlow (by decide)
    simp [Text.isPadding, hspace, htab]

end TraceRelay.TraceState
