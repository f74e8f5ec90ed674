import TraceRelay.Proofs.Numeral.Writing

/-!
# Canonical numerals

A row of digits may have redundant zeros in front. Without them it is the one row that is written
for the number it denotes (`toDigits_numberOf`). So a decimal field is written again without its
redundant zeros (`decimal_numberOf`), and a hexadecimal field of the asked width is written again
as it stands (`hex_numberOf`).
-/

set_option autoImplicit false

namespace TraceRelay.Numeral

/-! ## Redundant zeros -/

/-- A row of digits without its redundant zeros. The last digit always stays. -/
def significant : List Char → List Char
  | [] => []
  | [c] => [c]
  | c :: d :: cs => if c = '0' then significant (d :: cs) else c :: d :: cs

/-- No digit in front is redundant: the first of several digits is not a zero. -/
def IsPlain (cs : List Char) : Prop :=
  cs.head? = some '0' → cs.length = 1

theorem significant_zero_cons {cs : List Char} (h : cs ≠ []) :
    significant ('0' :: cs) = significant cs := by
  cases cs with
  | nil => exact absurd rfl h
  | cons d ds => simp [significant]

/-- A row is its redundant zeros and what is significant. -/
theorem exists_replicate_append_significant (cs : List Char) :
    ∃ zeros, cs = List.replicate zeros '0' ++ significant cs := by
  induction cs using significant.induct with
  | case1 => exact ⟨0, rfl⟩
  | case2 c => exact ⟨0, rfl⟩
  | case3 d ds ih =>
      obtain ⟨zeros, hzeros⟩ := ih
      refine ⟨zeros + 1, ?_⟩
      rw [significant_zero_cons (List.cons_ne_nil d ds), List.replicate_succ, List.cons_append,
        ← hzeros]
  | case4 c d ds hc => exact ⟨0, by simp [significant, hc]⟩

/-- The significant digits are plain, and a row is nothing but them exactly when it is plain. -/
theorem significant_eq_self_iff {cs : List Char} (h : cs ≠ []) :
    significant cs = cs ↔ IsPlain cs := by
  induction cs using significant.induct with
  | case1 => exact absurd rfl h
  | case2 c => simp [significant, IsPlain]
  | case3 d ds ih =>
      obtain ⟨zeros, hzeros⟩ := exists_replicate_append_significant (d :: ds)
      have hlength := congrArg List.length hzeros
      rw [List.length_append, List.length_cons] at hlength
      constructor
      · intro hself
        rw [significant_zero_cons (List.cons_ne_nil d ds)] at hself
        rw [hself, List.length_cons, List.length_cons] at hlength
        omega
      · intro hplain
        exact absurd (hplain rfl) (by simp)
  | case4 c d ds hc => simp [significant, IsPlain, hc]

/-- Digits at the end do not change which zeros in front are redundant, unless all the digits
before them are zeros. -/
theorem significant_append_singleton {cs : List Char} (c : Char) (h : ∃ d ∈ cs, d ≠ '0') :
    significant (cs ++ [c]) = significant cs ++ [c] := by
  induction cs using significant.induct with
  | case1 =>
      obtain ⟨d, hd, -⟩ := h
      cases hd
  | case2 b =>
      obtain ⟨d, hd, hne⟩ := h
      rw [List.mem_singleton.mp hd] at hne
      simp [significant, hne]
  | case3 b bs ih =>
      have hrest : ∃ d ∈ b :: bs, d ≠ '0' := by
        obtain ⟨d, hd, hne⟩ := h
        rcases List.mem_cons.mp hd with rfl | hd
        · exact absurd rfl hne
        · exact ⟨d, hd, hne⟩
      rw [List.cons_append, significant_zero_cons (by simp),
        significant_zero_cons (List.cons_ne_nil b bs), ih hrest]
  | case4 a b bs ha => simp [significant, ha]

/-- Of zeros and one more digit only that digit is significant. -/
theorem significant_zeros_append_singleton {cs : List Char} (c : Char) (h : ∀ d ∈ cs, d = '0') :
    significant (cs ++ [c]) = [c] := by
  induction cs with
  | nil => rfl
  | cons d ds ih =>
      obtain rfl : d = '0' := h d List.mem_cons_self
      rw [List.cons_append, significant_zero_cons (by simp)]
      exact ih fun e he => h e (List.mem_cons_of_mem _ he)

/-! ## Writing what was read -/

variable {base : Nat}

theorem digitChar_idxOf {c : Char} (h : c ∈ alphabet.take 16) :
    (alphabet.idxOf c).digitChar = c := by
  have hall : ((alphabet.take 16).all fun d => (alphabet.idxOf d).digitChar == d) = true := by
    decide
  exact eq_of_beq (List.all_eq_true.mp hall c h)

/-- The digits that are written for the number a row denotes are its significant ones. -/
theorem toDigits_numberOf (hone : 1 < base) (hbase : base ≤ 16) {cs : List Char} (hne : cs ≠ [])
    (h : IsRow base cs) : Nat.toDigits base (numberOf base cs) = significant cs := by
  -- The last digit of the row is the last one that is written.
  induction cs using List.reverseRecOn with
  | nil => exact absurd rfl hne
  | append_singleton cs c ih =>
      obtain ⟨hcs, hc⟩ := isRow_append_singleton.mp h
      have hdigit : (alphabet.idxOf c).digitChar = c :=
        digitChar_idxOf (List.take_subset_take_left alphabet hbase hc)
      have hplace : alphabet.idxOf c < base := idxOf_lt hc
      rw [numberOf_append_singleton]
      by_cases hzero : numberOf base cs = 0
      · have hzeros := (numberOf_eq_zero_iff (by omega) (hcs.mono hbase)).mp hzero
        rw [hzero, Nat.mul_zero, Nat.zero_add, Nat.toDigits_of_lt_base hplace, hdigit,
          significant_zeros_append_singleton c hzeros]
      · have hnonzero : ∃ d ∈ cs, d ≠ '0' := by
          by_contra hnone
          apply hzero
          rw [numberOf_eq_zero_iff (by omega) (hcs.mono hbase)]
          intro d hd
          by_contra hdne
          exact hnone ⟨d, hd, hdne⟩
        have hcs_ne : cs ≠ [] := by
          rintro rfl
          exact hzero rfl
        calc Nat.toDigits base (base * numberOf base cs + alphabet.idxOf c)
            = Nat.toDigits base (numberOf base cs) ++ Nat.toDigits base (alphabet.idxOf c) :=
              (Nat.toDigits_append_toDigits hone (Nat.pos_of_ne_zero hzero) hplace).symm
          _ = significant cs ++ [c] := by
              rw [ih hcs_ne hcs, Nat.toDigits_of_lt_base hplace, hdigit]
          _ = significant (cs ++ [c]) := (significant_append_singleton c hnonzero).symm

/-- Padding the significant digits to the length of the row gives the row back. -/
theorem leftpad_significant (cs : List Char) :
    List.leftpad cs.length '0' (significant cs) = cs := by
  obtain ⟨zeros, hzeros⟩ := exists_replicate_append_significant cs
  have hlength := congrArg List.length hzeros
  rw [List.length_append, List.length_replicate] at hlength
  have hpad : cs.length - (significant cs).length = zeros := by omega
  rw [List.leftpad, hpad]
  exact hzeros.symm

/-- The decimal numeral of what a row denotes is the row without redundant zeros. -/
theorem decimal_numberOf {cs : List Char} (hne : cs ≠ []) (h : IsRow 10 cs) :
    decimal (numberOf 10 cs) = significant cs := by
  rw [decimal_of_nonneg (Int.natCast_nonneg _), Int.natAbs_natCast,
    toDigits_numberOf (by omega) (by omega) hne h]

/-- The hexadecimal numeral of what a row denotes, in as many characters as the row has, is the
row. -/
theorem hex_numberOf {cs : List Char} (hne : cs ≠ []) (h : IsRow 16 cs) :
    hex cs.length (numberOf 16 cs) = cs := by
  rw [hex, signed_of_nonneg _ (Int.natCast_nonneg _), Int.natAbs_natCast,
    toDigits_numberOf (by omega) (by omega) hne h, leftpad_significant]

theorem isPlain_decimal {n : Int} (h : 0 ≤ n) : IsPlain (decimal n) := by
  have hsignificant := decimal_numberOf (decimal_ne_nil h) (isRow_decimal h)
  rw [numberOf_decimal h] at hsignificant
  exact (significant_eq_self_iff (decimal_ne_nil h)).mp hsignificant.symm

/-- The decimal numeral of a positive number does not start with a zero. -/
theorem head?_decimal_ne_zero {n : Int} (h : 0 < n) : (decimal n).head? ≠ some '0' := by
  intro hzero
  have hlength := isPlain_decimal (le_of_lt h) hzero
  obtain ⟨c, hdigit⟩ := List.length_eq_one_iff.mp hlength
  rw [hdigit] at hzero
  cases hzero
  have hnumber := numberOf_decimal (le_of_lt h)
  rw [hdigit] at hnumber
  exact absurd hnumber (ne_of_lt h)

end TraceRelay.Numeral
