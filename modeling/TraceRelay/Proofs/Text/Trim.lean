import TraceRelay.Text.Field

/-!
# Trimmed text

A text is trimmed of a class of characters when it is the middle of a line whose two ends belong
to the class, and when it neither starts nor ends with a character of the class. Every line has
exactly one trimmed text, and `trim` finds it (`trims_iff_trim_eq`).
-/

set_option autoImplicit false

namespace TraceRelay.Text

/-- `body` is `line` without the characters of the class `drop` at its two ends. -/
structure Trims (drop : Char → Bool) (line body : List Char) : Prop where
  surrounded : ∃ before after, line = before ++ body ++ after ∧
    (∀ c ∈ before, drop c = true) ∧ ∀ c ∈ after, drop c = true
  head_kept : ∀ c, body.head? = some c → drop c = false
  last_kept : ∀ c, body.getLast? = some c → drop c = false

variable {drop : Char → Bool}

/-- Dropping stops at the first character that is to be kept. -/
theorem dropWhile_append_of_head_kept {before rest : List Char}
    (hbefore : ∀ c ∈ before, drop c = true) (hrest : ∀ c, rest.head? = some c → drop c = false) :
    (before ++ rest).dropWhile drop = rest := by
  rw [List.dropWhile_append_of_pos hbefore]
  cases rest with
  | nil => rfl
  | cons c cs =>
      have hc : drop c = false := hrest c rfl
      exact List.dropWhile_cons_of_neg (by simp [hc])

theorem head_kept_dropWhile (cs : List Char) (c : Char)
    (h : (cs.dropWhile drop).head? = some c) : drop c = false := by
  have hhead := List.head?_dropWhile_not drop cs
  rw [h] at hhead
  simpa using hhead

theorem exists_append_dropWhile (cs : List Char) :
    ∃ before, cs = before ++ cs.dropWhile drop ∧ ∀ c ∈ before, drop c = true := by
  refine ⟨cs.takeWhile drop, List.takeWhile_append_dropWhile.symm, ?_⟩
  intro c hc
  have hall := List.all_takeWhile (p := drop) (l := cs)
  exact List.all_eq_true.mp hall c hc

/-- `trim` trims. -/
theorem trims_trim (line : List Char) : Trims drop line (trim drop line) := by
  obtain ⟨before, hbefore, hbefore_drop⟩ := @exists_append_dropWhile drop line
  obtain ⟨after, hafter, hafter_drop⟩ :=
    @exists_append_dropWhile drop (line.dropWhile drop).reverse
  have hbody : line.dropWhile drop = trim drop line ++ after.reverse := by
    have h := congrArg List.reverse hafter
    rwa [List.reverse_reverse, List.reverse_append] at h
  refine ⟨⟨before, after.reverse, ?_, hbefore_drop, ?_⟩, ?_, ?_⟩
  · rw [List.append_assoc, ← hbody]
    exact hbefore
  · intro c hc
    exact hafter_drop c (List.mem_reverse.mp hc)
  · intro c hc
    apply head_kept_dropWhile line c
    rw [hbody, List.head?_append, hc]
    rfl
  · intro c hc
    apply head_kept_dropWhile (line.dropWhile drop).reverse c
    rwa [← List.getLast?_reverse]

/-- A trimmed text is what `trim` gives. -/
theorem Trims.trim_eq {line body : List Char} (h : Trims drop line body) :
    trim drop line = body := by
  obtain ⟨⟨before, after, rfl, hbefore, hafter⟩, hhead, hlast⟩ := h
  have hafter_reverse : ∀ c ∈ after.reverse, drop c = true := by
    intro c hc
    exact hafter c (List.mem_reverse.mp hc)
  by_cases hbody : body = []
  · subst hbody
    -- Nothing is kept, so already the first dropping takes the whole line.
    have hall : ∀ c ∈ before ++ [] ++ after, drop c = true := by
      intro c hc
      rw [List.append_nil] at hc
      rcases List.mem_append.mp hc with hc | hc
      · exact hbefore c hc
      · exact hafter c hc
    have hnil := @dropWhile_append_of_head_kept drop _ [] hall (by simp)
    rw [List.append_nil] at hnil
    rw [trim, hnil]
    rfl
  · have hfirst : (before ++ body ++ after).dropWhile drop = body ++ after := by
      rw [List.append_assoc]
      apply dropWhile_append_of_head_kept hbefore
      intro c hc
      apply hhead c
      cases body with
      | nil => exact absurd rfl hbody
      | cons d ds => exact hc
    have hsecond : (body ++ after).reverse.dropWhile drop = body.reverse := by
      rw [List.reverse_append]
      apply dropWhile_append_of_head_kept hafter_reverse
      intro c hc
      exact hlast c (by rwa [List.head?_reverse] at hc)
    rw [trim, hfirst, hsecond, List.reverse_reverse]

/-- The trimmed text of a line is the one that `trim` gives and no other. -/
theorem trims_iff_trim_eq {line body : List Char} :
    Trims drop line body ↔ trim drop line = body := by
  constructor
  · exact Trims.trim_eq
  · rintro rfl
    exact trims_trim line

theorem trim_eq_self {body : List Char} (hhead : ∀ c, body.head? = some c → drop c = false)
    (hlast : ∀ c, body.getLast? = some c → drop c = false) : trim drop body = body :=
  Trims.trim_eq ⟨⟨[], [], by simp, by simp, by simp⟩, hhead, hlast⟩

end TraceRelay.Text
