import TraceRelay.Text.Lowercase

/-!
# Letter case

Texts that differ in the case of ASCII letters only have the same lower case (`lowercase_congr`),
although the mapping knows many more letters. For most texts of lower-case ASCII the converse holds
too (`lowercase_eq_iff_sameLetters`): no letter from beyond ASCII is lowered to their characters.
Only `i` and `k` are an exception, since the dotted capital I and the Kelvin sign lead there.
-/

set_option autoImplicit false

namespace TraceRelay.Text

/-- The texts are equal up to the case of ASCII letters. -/
def SameLetters (s t : String) : Prop :=
  s.toList.map Char.toLower = t.toList.map Char.toLower

instance (s t : String) : Decidable (SameLetters s t) :=
  inferInstanceAs (Decidable (s.toList.map Char.toLower = t.toList.map Char.toLower))

/-! ## Capitals of ASCII -/

/-- What holds of the 26 capitals one by one holds of every character in their range. -/
theorem of_capitals (p : Char → Bool)
    (hall : ((List.range 26).all fun n => p (Char.ofNat (65 + n))) = true) {c : Char}
    (hcapital : 65 ≤ c.toNat ∧ c.toNat ≤ 90) : p c = true := by
  have hc : Char.ofNat (65 + (c.toNat - 65)) = c := by
    rw [Nat.add_sub_cancel' hcapital.1, Char.ofNat_toNat]
  have hletter := List.all_eq_true.mp hall (c.toNat - 65) (List.mem_range.mpr (by omega))
  rwa [hc] at hletter

theorem toLower_eq_self {c : Char} (h : ¬ (65 ≤ c.toNat ∧ c.toNat ≤ 90)) : c.toLower = c := by
  apply dif_neg
  rintro ⟨hlow, hhigh⟩
  exact h ⟨hlow, hhigh⟩

theorem lowerChar_toLower (c : Char) : lowerChar c.toLower = lowerChar c := by
  by_cases hcapital : 65 ≤ c.toNat ∧ c.toNat ≤ 90
  · exact eq_of_beq (of_capitals (fun c => lowerChar c.toLower == lowerChar c) (by decide) hcapital)
  · rw [toLower_eq_self hcapital]

theorem lowercase_congr {s t : String} (h : SameLetters s t) : lowercase s = lowercase t := by
  have hlower : ∀ cs : List Char, lowerChars (cs.map Char.toLower) = lowerChars cs := by
    intro cs
    simp only [lowerChars, List.flatMap_map, lowerChar_toLower]
  rw [lowercase, lowercase, ← hlower, h, hlower]

/-! ## Characters that letters beyond ASCII do not lead to -/

/-- The printable characters of ASCII that are no capitals, but for `i` and `k`. -/
def isPlain (c : Char) : Bool :=
  ' ' ≤ c && c ≤ '~' && !('A' ≤ c && c ≤ 'Z') && c != 'i' && c != 'k'

/-- The code point of a plain character is one of ASCII, and not that of a capital. -/
theorem toNat_of_isPlain {c : Char} (h : isPlain c = true) :
    c.toNat < 0x80 ∧ ¬ (65 ≤ c.toNat ∧ c.toNat ≤ 90) := by
  simp only [isPlain, Bool.and_eq_true, Bool.not_eq_true', Bool.and_eq_false_iff,
    decide_eq_true_eq, decide_eq_false_iff_not] at h
  obtain ⟨⟨⟨⟨-, hlast⟩, hcapital⟩, -⟩, -⟩ := h
  have htilde : c.toNat ≤ 0x7E := hlast
  refine ⟨by omega, ?_⟩
  rintro ⟨hlow, hhigh⟩
  rcases hcapital with hcapital | hcapital
  · exact hcapital hlow
  · exact hcapital hhigh

/-- A code point beyond ASCII is not that of a plain character. -/
theorem not_isPlain_ofNat {n : Nat} (h : 0x80 ≤ n) : isPlain (Char.ofNat n) = false := by
  rw [Bool.eq_false_iff]
  intro hplain
  have hascii := (toNat_of_isPlain hplain).1
  by_cases hvalid : n.isValidChar
  · have hchar : Char.ofNat n = Char.ofNatAux n hvalid := dif_pos hvalid
    have hcode : (Char.ofNatAux n hvalid).toNat = n := rfl
    rw [hchar, hcode] at hascii
    omega
  · have hchar : Char.ofNat n = '\x00' := dif_neg hvalid
    rw [hchar] at hplain
    cases hplain

/-- Where the runs lead: from the capitals of ASCII to its small letters, from the Kelvin sign to
the small k, and otherwise from beyond ASCII to beyond ASCII. -/
theorem lower_cases {run : CaseRun} {n : Nat} (h : caseRuns.find? (·.contains n) = some run) :
    ((65 ≤ n ∧ n ≤ 90) ∧ run.lower n = n + 32) ∨ (0x80 ≤ n ∧ run.lower n = 0x6B) ∨
      (0x80 ≤ n ∧ 0x80 ≤ run.lower n) := by
  have hall : (caseRuns.all fun run =>
      run.first == 0x41 && (run.last == 0x5A && run.target == 0x61) ||
        (run.first == 0x212A && (run.last == 0x212A && run.target == 0x6B) ||
          decide (0x80 ≤ run.first) && decide (0x80 ≤ run.target))) = true := by
    decide
  have hrun := List.all_eq_true.mp hall run (List.mem_of_find?_eq_some h)
  have hcontains := List.find?_some h
  simp only [CaseRun.contains, Bool.or_eq_true, Bool.and_eq_true, beq_iff_eq,
    decide_eq_true_eq] at hrun hcontains
  rw [CaseRun.lower]
  omega

/-- A letter in a run is lowered as the run says. -/
theorem lowerChar_of_find?_some {c : Char} {run : CaseRun} (hdotted : c ≠ dottedCapitalI)
    (h : caseRuns.find? (·.contains c.toNat) = some run) :
    lowerChar c = [Char.ofNat (run.lower c.toNat)] := by
  rw [lowerChar, if_neg hdotted, h]

theorem lowerChar_of_find?_none {c : Char} (hdotted : c ≠ dottedCapitalI)
    (h : caseRuns.find? (·.contains c.toNat) = none) : lowerChar c = [c] := by
  rw [lowerChar, if_neg hdotted, h]

/-- Only an ASCII letter is lowered to plain characters. -/
theorem lowerChar_eq_of_isPlain {c : Char} (h : ∀ d ∈ lowerChar c, isPlain d = true) :
    lowerChar c = [c.toLower] := by
  by_cases hdotted : c = dottedCapitalI
  · -- The small i is not plain.
    have hlower : lowerChar c = ['i', '\u0307'] := if_pos hdotted
    rw [hlower] at h
    cases h 'i' List.mem_cons_self
  · cases hfind : caseRuns.find? (·.contains c.toNat) with
    | none =>
        rw [lowerChar_of_find?_none hdotted hfind] at h ⊢
        have hplain : isPlain c = true := h c List.mem_cons_self
        rw [toLower_eq_self (toNat_of_isPlain hplain).2]
    | some run =>
        rw [lowerChar_of_find?_some hdotted hfind] at h ⊢
        have hplain := h _ List.mem_cons_self
        rcases lower_cases hfind with ⟨hcapital, hsmall⟩ | ⟨-, hkelvin⟩ | ⟨-, hbeyond⟩
        · have hletter := of_capitals (fun c => Char.ofNat (c.toNat + 32) == c.toLower) (by decide)
            hcapital
          rw [hsmall, eq_of_beq hletter]
        · -- Neither is the small k.
          rw [hkelvin] at hplain
          cases hplain
        · rw [not_isPlain_ofNat hbeyond] at hplain
          cases hplain

/-- A plain character is in lower case. -/
theorem lowerChar_of_isPlain {c : Char} (h : isPlain c = true) : lowerChar c = [c] := by
  have hdotted : c ≠ dottedCapitalI := by
    rintro rfl
    cases h
  obtain ⟨hascii, hcapital⟩ := toNat_of_isPlain h
  cases hfind : caseRuns.find? (·.contains c.toNat) with
  | none => exact lowerChar_of_find?_none hdotted hfind
  | some run =>
      have hcases := lower_cases hfind
      omega

/-! ## Plain texts -/

/-- A text that is lowered to plain characters is lowered like ASCII. -/
theorem map_toLower_of_lowerChars {cs : List Char}
    (h : ∀ d ∈ lowerChars cs, isPlain d = true) : cs.map Char.toLower = lowerChars cs := by
  induction cs with
  | nil => rfl
  | cons c rest ih =>
      have hcons : lowerChars (c :: rest) = lowerChar c ++ lowerChars rest := rfl
      rw [hcons] at h ⊢
      have hc := lowerChar_eq_of_isPlain fun d hd => h d (List.mem_append_left _ hd)
      have hrest := ih fun d hd => h d (List.mem_append_right _ hd)
      rw [hc, List.map_cons, hrest]
      rfl

/-- Plain characters are in lower case. -/
theorem lowerChars_of_isPlain {cs : List Char} (h : ∀ c ∈ cs, isPlain c = true) :
    lowerChars cs = cs := by
  induction cs with
  | nil => rfl
  | cons c rest ih =>
      have hcons : lowerChars (c :: rest) = lowerChar c ++ lowerChars rest := rfl
      rw [hcons, lowerChar_of_isPlain (h c List.mem_cons_self),
        ih fun d hd => h d (List.mem_cons_of_mem _ hd)]
      rfl

/-- A plain text is the lower case of the texts with the same letters, and of no other text. -/
theorem lowercase_eq_iff_sameLetters {s t : String} (h : ∀ c ∈ t.toList, isPlain c = true) :
    lowercase s = t ↔ SameLetters s t := by
  have ht : lowerChars t.toList = t.toList := lowerChars_of_isPlain h
  constructor
  · intro hlower
    have hs : lowerChars s.toList = t.toList := by
      rw [← hlower, lowercase, String.toList_ofList]
    have hsmap : s.toList.map Char.toLower = t.toList := by
      rw [← hs] at h
      rw [map_toLower_of_lowerChars h, hs]
    have htmap : t.toList.map Char.toLower = t.toList := by
      rw [← ht] at h
      rw [map_toLower_of_lowerChars h, ht]
    rw [SameLetters, hsmap, htmap]
  · intro hsame
    rw [lowercase_congr hsame, lowercase, ht, String.ofList_toList]

end TraceRelay.Text
