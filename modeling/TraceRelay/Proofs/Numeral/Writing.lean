import TraceRelay.Proofs.Numeral.Reading

/-!
# Writing numerals

The digits written for a natural number are a row that denotes it (`numberOf_toDigits`), and
padding a row with zeros changes its length only. So the padded hexadecimal numeral of a natural
number denotes it (`numberOf_hex`), and it has exactly the asked width when the number fits
(`length_hex`) and more characters otherwise (`lt_length_hex`). A negative integer has its sign
inside the numeral. Decimal numerals exist up to the length limit (`decimal?_eq_some`).
-/

set_option autoImplicit false

namespace TraceRelay.Numeral

/-! ## Digits of natural numbers -/

theorem idxOf_digitChar {n : Nat} (h : n < 16) : alphabet.idxOf n.digitChar = n := by
  have hall : ∀ m ∈ List.range 16, alphabet.idxOf m.digitChar = m := by decide
  exact hall n (List.mem_range.mpr h)

theorem digitChar_mem {base n : Nat} (h : n < base) (hbase : base ≤ 16) :
    n.digitChar ∈ alphabet.take base := by
  have hall : ∀ m ∈ List.range 16, alphabet[m]? = some m.digitChar := by decide
  have hget : alphabet[n]? = some n.digitChar := hall n (List.mem_range.mpr (by omega))
  apply List.mem_of_getElem? (i := n)
  rw [List.getElem?_take_of_lt h, hget]

variable {base : Nat}

/-- The digits of a number are digits of the base. -/
theorem isRow_toDigits (hone : 1 < base) (hbase : base ≤ 16) (n : Nat) :
    IsRow base (Nat.toDigits base n) := by
  induction n using Nat.base_induction base hone with
  | single m hm =>
      rw [Nat.toDigits_of_lt_base hm]
      intro c hc
      rw [List.mem_singleton.mp hc]
      exact digitChar_mem hm hbase
  | digit m k hk hm ih =>
      -- The last digit stands for the remainder, the ones before it for the quotient.
      rw [← Nat.toDigits_append_toDigits hone hm hk, Nat.toDigits_of_lt_base hk]
      exact isRow_append_singleton.mpr ⟨ih, digitChar_mem hk hbase⟩

/-- The digits of a number denote it. -/
theorem numberOf_toDigits (hone : 1 < base) (hbase : base ≤ 16) (n : Nat) :
    numberOf base (Nat.toDigits base n) = n := by
  induction n using Nat.base_induction base hone with
  | single m hm =>
      rw [Nat.toDigits_of_lt_base hm]
      have hplace : alphabet.idxOf m.digitChar = m := idxOf_digitChar (by omega)
      simp [numberOf, hplace]
  | digit m k hk hm ih =>
      have hplace : alphabet.idxOf k.digitChar = k := idxOf_digitChar (by omega)
      rw [← Nat.toDigits_append_toDigits hone hm hk, Nat.toDigits_of_lt_base hk,
        numberOf_append_singleton, ih, hplace]

/-! ## Padding -/

/-- Zeros in front are digits of every base. -/
theorem isRow_leftpad (hbase : 0 < base) (width : Nat) {cs : List Char} (h : IsRow base cs) :
    IsRow base (List.leftpad width '0' cs) := by
  intro c hc
  rw [List.leftpad, List.mem_append] at hc
  rcases hc with hc | hc
  · have hzero : '0' ∈ alphabet.take 1 := by decide
    rw [List.eq_of_mem_replicate hc]
    exact List.take_subset_take_left alphabet hbase hzero
  · exact h c hc

theorem numberOf_leftpad (width : Nat) (cs : List Char) :
    numberOf base (List.leftpad width '0' cs) = numberOf base cs := by
  have hzero : alphabet.idxOf '0' = 0 := rfl
  simp [numberOf, List.leftpad, Nat.ofDigits_append_replicate_zero, hzero]

/-! ## Numerals of integers -/

theorem signed_of_nonneg (width : Nat) {n : Int} (h : 0 ≤ n) :
    signed base width n = List.leftpad width '0' (Nat.toDigits base n.natAbs) := by
  have hneg : ¬ n < 0 := by omega
  rw [signed, if_neg hneg]

/-- The numeral of a negative integer is no row of digits, for it has a sign. -/
theorem not_isRow_signed_of_neg {rowBase : Nat} (width : Nat) {n : Int} (h : n < 0) :
    ¬ IsRow rowBase (signed base width n) := by
  intro hrow
  rw [signed, if_pos h] at hrow
  have hsign : '-' ∈ alphabet := List.mem_of_mem_take (hrow '-' List.mem_cons_self)
  exact absurd hsign (by decide)

/-- Numerals are made of digits and the sign. -/
theorem mem_signed (hone : 1 < base) (hbase : base ≤ 16) {width : Nat} {n : Int} {c : Char}
    (h : c ∈ signed base width n) : c = '-' ∨ c ∈ alphabet := by
  have hpadded : ∀ padding, c ∈ List.leftpad padding '0' (Nat.toDigits base n.natAbs) →
      c ∈ alphabet := by
    intro padding hc
    have hrow := isRow_leftpad (by omega) padding (isRow_toDigits hone hbase n.natAbs)
    exact List.mem_of_mem_take (hrow c hc)
  rw [signed] at h
  -- A sign takes one character of the width away from the padding.
  split at h
  · rcases List.mem_cons.mp h with hc | hc
    · exact Or.inl hc
    · exact Or.inr (hpadded _ hc)
  · exact Or.inr (hpadded _ h)

theorem isRow_hex (width : Nat) {n : Int} (h : 0 ≤ n) : IsRow 16 (hex width n) := by
  rw [hex, signed_of_nonneg width h]
  exact isRow_leftpad (by omega) width (isRow_toDigits (by omega) (by omega) _)

theorem numberOf_hex (width : Nat) {n : Int} (h : 0 ≤ n) :
    (numberOf 16 (hex width n) : Int) = n := by
  rw [hex, signed_of_nonneg width h, numberOf_leftpad,
    numberOf_toDigits (by omega) (by omega)]
  omega

/-- The hexadecimal numeral of a number that fits has the asked width. -/
theorem length_hex {width : Nat} {n : Int} (hwidth : 0 < width) (h : 0 ≤ n)
    (hfits : n < 16 ^ width) : (hex width n).length = width := by
  have hnat : n.natAbs < 16 ^ width := by
    zify
    rwa [abs_of_nonneg h]
  have hle : (Nat.toDigits 16 n.natAbs).length ≤ width :=
    (Nat.length_toDigits_le_iff (by omega) hwidth).mpr hnat
  rw [hex, signed_of_nonneg width h, List.length_leftpad]
  omega

/-- The hexadecimal numeral of a number that does not fit is longer. -/
theorem lt_length_hex {width : Nat} {n : Int} (hwidth : 0 < width) (h : 16 ^ width ≤ n) :
    width < (hex width n).length := by
  have hnonneg : 0 ≤ n := le_trans (by positivity) h
  have hnat : ¬ n.natAbs < 16 ^ width := by
    zify
    rw [abs_of_nonneg hnonneg]
    omega
  have hlt : width < (Nat.toDigits 16 n.natAbs).length := by
    by_contra hle
    exact hnat ((Nat.length_toDigits_le_iff (by omega) hwidth).mp (by omega))
  rw [hex, signed_of_nonneg width hnonneg, List.length_leftpad]
  omega

theorem decimal_of_nonneg {n : Int} (h : 0 ≤ n) : decimal n = Nat.toDigits 10 n.natAbs := by
  rw [decimal, signed_of_nonneg 0 h]
  simp [List.leftpad]

theorem numberOf_decimal {n : Int} (h : 0 ≤ n) : (numberOf 10 (decimal n) : Int) = n := by
  rw [decimal_of_nonneg h, numberOf_toDigits (by omega) (by omega)]
  omega

theorem isRow_decimal {n : Int} (h : 0 ≤ n) : IsRow 10 (decimal n) := by
  rw [decimal_of_nonneg h]
  exact isRow_toDigits (by omega) (by omega) _

theorem decimal_ne_nil {n : Int} (h : 0 ≤ n) : decimal n ≠ [] := by
  rw [decimal_of_nonneg h]
  exact Nat.toDigits_ne_nil

theorem length_decimal_le {width : Nat} {n : Int} (hwidth : 0 < width) (h : 0 ≤ n)
    (hfits : n < 10 ^ width) : (decimal n).length ≤ width := by
  have hnat : n.natAbs < 10 ^ width := by
    zify
    rwa [abs_of_nonneg h]
  rw [decimal_of_nonneg h]
  exact (Nat.length_toDigits_le_iff (by omega) hwidth).mpr hnat

theorem decimal?_eq_some {n : Int} (h : n.natAbs < 10 ^ digitLimit) :
    decimal? n = some (decimal n) := by
  have hle : (Nat.toDigits 10 n.natAbs).length ≤ digitLimit :=
    (Nat.length_toDigits_le_iff (by omega) (by decide)).mpr h
  rw [decimal?, if_neg (by omega)]

end TraceRelay.Numeral
