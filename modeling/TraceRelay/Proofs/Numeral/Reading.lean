import Mathlib.Data.List.Induction
import Mathlib.Data.Nat.Digits.Defs
import Mathlib.Tactic.IntervalCases
import TraceRelay.Numeral

/-!
# Reading numerals

The digits are the characters of one alphabet, and a digit of a base stands for its place among
the first letters of it. The number a row of digits denotes is the sum of these places, each times
the power of the base for its distance from the end. Reading digit by digit gives the number
denoted (`value_eq_numberOf`), which is below the power of the base for the length of the row
(`numberOf_lt`) and is zero only for a row of zeros (`numberOf_eq_zero_iff`).
-/

set_option autoImplicit false

namespace TraceRelay.Numeral

/-! ## Digits -/

/-- The digits of all bases up to sixteen, in order. -/
def alphabet : List Char :=
  ['0', '1', '2', '3', '4', '5', '6', '7', '8', '9', 'a', 'b', 'c', 'd', 'e', 'f']

/-- A row of digits of a base. -/
def IsRow (base : Nat) (cs : List Char) : Prop :=
  ∀ c ∈ cs, c ∈ alphabet.take base

instance (base : Nat) (cs : List Char) : Decidable (IsRow base cs) :=
  List.decidableBAll (· ∈ alphabet.take base) cs

/-- The number that a row of digits denotes. -/
def numberOf (base : Nat) (cs : List Char) : Nat :=
  Nat.ofDigits base (cs.reverse.map alphabet.idxOf)

/-- The decimal digits are the first ten. -/
theorem isDecimalDigit_iff {c : Char} : isDecimalDigit c = true ↔ c ∈ alphabet.take 10 := by
  constructor
  · intro h
    simp only [isDecimalDigit, Bool.and_eq_true, decide_eq_true_eq] at h
    have hlow : 48 ≤ c.toNat := h.1
    have hhigh : c.toNat ≤ 57 := h.2
    rw [← Char.ofNat_toNat c]
    interval_cases c.toNat <;> decide
  · intro h
    have hall : (alphabet.take 10).all isDecimalDigit = true := by decide
    exact List.all_eq_true.mp hall c h

/-- The hexadecimal digits are all of the alphabet. -/
theorem isHexDigit_iff {c : Char} : isHexDigit c = true ↔ c ∈ alphabet.take 16 := by
  constructor
  · intro h
    simp only [isHexDigit, Bool.or_eq_true, Bool.and_eq_true, decide_eq_true_eq] at h
    rcases h with h | h
    · have hten : c ∈ alphabet.take 10 := isDecimalDigit_iff.mp h
      exact List.take_subset_take_left alphabet (by omega : 10 ≤ 16) hten
    · have hlow : 97 ≤ c.toNat := h.1
      have hhigh : c.toNat ≤ 102 := h.2
      rw [← Char.ofNat_toNat c]
      interval_cases c.toNat <;> decide
  · intro h
    have hall : (alphabet.take 16).all isHexDigit = true := by decide
    exact List.all_eq_true.mp hall c h

theorem all_isDecimalDigit_iff {cs : List Char} : cs.all isDecimalDigit = true ↔ IsRow 10 cs := by
  simp only [List.all_eq_true, isDecimalDigit_iff, IsRow]

theorem all_isHexDigit_iff {cs : List Char} : cs.all isHexDigit = true ↔ IsRow 16 cs := by
  simp only [List.all_eq_true, isHexDigit_iff, IsRow]

theorem IsRow.mono {base larger : Nat} {cs : List Char} (h : IsRow base cs)
    (hle : base ≤ larger) : IsRow larger cs := by
  intro c hc
  exact List.take_subset_take_left alphabet hle (h c hc)

theorem isRow_append_singleton {base : Nat} {cs : List Char} {c : Char} :
    IsRow base (cs ++ [c]) ↔ IsRow base cs ∧ c ∈ alphabet.take base := by
  simp only [IsRow, List.mem_append, List.mem_singleton, or_imp, forall_and, forall_eq]

/-- A digit of a base has a place below the base. -/
theorem idxOf_lt {base : Nat} {c : Char} (h : c ∈ alphabet.take base) :
    alphabet.idxOf c < base := by
  have hidx : alphabet.idxOf c = (alphabet.take base).idxOf c := by
    calc alphabet.idxOf c
        = (alphabet.take base ++ alphabet.drop base).idxOf c := by
          rw [List.take_append_drop]
      _ = (alphabet.take base).idxOf c := by
          rw [List.idxOf_append, if_pos h]
  have hlt : (alphabet.take base).idxOf c < (alphabet.take base).length :=
    List.idxOf_lt_length_of_mem h
  have hlength : (alphabet.take base).length ≤ base := by
    rw [List.length_take]
    exact Nat.min_le_left _ _
  omega

theorem digitValue_eq_idxOf {c : Char} (h : c ∈ alphabet.take 16) :
    digitValue c = alphabet.idxOf c := by
  have hall : ((alphabet.take 16).all fun d => digitValue d == alphabet.idxOf d) = true := by
    decide
  exact eq_of_beq (List.all_eq_true.mp hall c h)

/-- Zero is the first digit and the only one in its place. -/
theorem idxOf_eq_zero_iff {c : Char} (h : c ∈ alphabet.take 16) :
    alphabet.idxOf c = 0 ↔ c = '0' := by
  have hall : ((alphabet.take 16).all fun d => alphabet.idxOf d != 0 || d == '0') = true := by
    decide
  have hc := List.all_eq_true.mp hall c h
  constructor
  · intro hzero
    simpa [hzero] using hc
  · rintro rfl
    rfl

/-! ## Rows -/

theorem numberOf_append_singleton (base : Nat) (cs : List Char) (c : Char) :
    numberOf base (cs ++ [c]) = base * numberOf base cs + alphabet.idxOf c := by
  simp [numberOf, Nat.ofDigits_cons, Nat.add_comm]

/-- Reading gives the number denoted. -/
theorem value_eq_numberOf (base : Nat) {cs : List Char} (h : IsRow 16 cs) :
    value base cs = numberOf base cs := by
  -- Reading goes from left to right, so a text is taken apart at its last digit.
  induction cs using List.reverseRecOn with
  | nil => rfl
  | append_singleton cs c ih =>
      obtain ⟨hcs, hc⟩ := isRow_append_singleton.mp h
      rw [value_append_singleton, numberOf_append_singleton, ih hcs, digitValue_eq_idxOf hc]

/-- A row denotes a number below the power of the base for its length. -/
theorem numberOf_lt {base : Nat} {cs : List Char} (hbase : 1 < base) (h : IsRow base cs) :
    numberOf base cs < base ^ cs.length := by
  have hlt := Nat.ofDigits_lt_base_pow_length (l := cs.reverse.map alphabet.idxOf) hbase (by
    intro digit hdigit
    obtain ⟨c, hc, rfl⟩ := List.mem_map.mp hdigit
    exact idxOf_lt (h c (List.mem_reverse.mp hc)))
  rwa [List.length_map, List.length_reverse] at hlt

/-- A row denotes zero when all its digits are zeros, and only then. -/
theorem numberOf_eq_zero_iff {base : Nat} {cs : List Char} (hbase : 0 < base)
    (h : IsRow 16 cs) : numberOf base cs = 0 ↔ ∀ c ∈ cs, c = '0' := by
  induction cs using List.reverseRecOn with
  | nil => simp [numberOf]
  | append_singleton cs c ih =>
      obtain ⟨hcs, hc⟩ := isRow_append_singleton.mp h
      rw [numberOf_append_singleton, Nat.add_eq_zero_iff, idxOf_eq_zero_iff hc,
        Nat.mul_eq_zero, ih hcs]
      have hne : base ≠ 0 := by omega
      simp only [hne, false_or, List.mem_append, List.mem_singleton, or_imp, forall_and,
        forall_eq]

end TraceRelay.Numeral
