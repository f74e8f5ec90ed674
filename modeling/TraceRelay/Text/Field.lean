/-!
# Fields of a line

Cutting a line at the first occurrence of a separator, and dropping unwanted characters from
both ends of a field. Both work on the list of characters. The lemmas say where a line is cut.
-/

set_option autoImplicit false

namespace TraceRelay.Text

/-! ## Cutting -/

/-- The characters before the first `sep`, and the ones after it when `sep` occurs at all. -/
def cut (sep : Char) (cs : List Char) : List Char × Option (List Char) :=
  (cs.takeWhile (· != sep), (cs.dropWhile (· != sep)).tail?)

theorem all_ne_of_not_mem {sep : Char} {cs : List Char} (h : sep ∉ cs) :
    ∀ c ∈ cs, (c != sep) = true := by
  intro c hc
  rw [bne_iff_ne]
  rintro rfl
  exact h hc

/-- A line without the separator is one field. -/
theorem cut_of_not_mem {sep : Char} {cs : List Char} (h : sep ∉ cs) :
    cut sep cs = (cs, none) := by
  have htake : (cs ++ []).takeWhile (· != sep) = cs ++ [].takeWhile (· != sep) :=
    List.takeWhile_append_of_pos (all_ne_of_not_mem h)
  have hdrop : (cs ++ []).dropWhile (· != sep) = [].dropWhile (· != sep) :=
    List.dropWhile_append_of_pos (all_ne_of_not_mem h)
  rw [List.append_nil] at htake hdrop
  simp [cut, htake, hdrop]

theorem cut_append {sep : Char} {first : List Char} (rest : List Char) (h : sep ∉ first) :
    cut sep (first ++ sep :: rest) = (first, some rest) := by
  simp [cut, List.takeWhile_append_of_pos (all_ne_of_not_mem h),
    List.dropWhile_append_of_pos (all_ne_of_not_mem h)]

/-! ## Trimming -/

/-- The text without the characters of the class at its two ends. -/
def trim (drop : Char → Bool) (cs : List Char) : List Char :=
  ((cs.dropWhile drop).reverse.dropWhile drop).reverse

end TraceRelay.Text
