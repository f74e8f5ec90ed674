import TraceRelay.Proofs.Carrier.Textual

/-!
# Headers that were written

Headers are set in a table one after the other (`setAll_headers`), and in an empty table this leaves
what was written (`setAll_empty`). When all names are different, the entries are what was written,
in the same order (`entries_written`), and each line is found under its name
(`firstText?_written`).
-/

set_option autoImplicit false

namespace TraceRelay

/-- The entries of headers that are written. -/
def Headers.entriesOf (writes : List Carrier.Write) : List (Key × Value) :=
  writes.map fun write => (.text write.1, .text write.2)

theorem Headers.pairwise_entriesOf {writes : List Carrier.Write}
    (h : writes.Pairwise fun a b => a.1 ≠ b.1) :
    (entriesOf writes).Pairwise fun a b => (a.1 == b.1) = false := by
  rw [entriesOf, List.pairwise_map]
  refine h.imp ?_
  intro a b hne
  rw [Key.text_beq_text]
  exact decide_eq_false hne

/-- The table after texts are set under names, one after the other. -/
def Headers.after (headers : Headers) (writes : List Carrier.Write) : Headers :=
  (entriesOf writes).foldl (fun table entry => table.set entry.1 entry.2) headers

theorem Carrier.setAll_headers (headers : Headers) (writes : List Write) :
    (Carrier.headers headers).setAll writes = .ok (.headers (headers.after writes)) := by
  induction writes generalizing headers with
  | nil => rfl
  | cons write rest ih => exact ih _

/-- The headers that writing leaves in an empty table. -/
def Headers.written (writes : List Carrier.Write) : Headers :=
  Table.ofList (writes.map fun write => (.text write.1, .text write.2))

theorem Carrier.setAll_empty (writes : List Write) :
    (Carrier.headers ∅).setAll writes = .ok (.headers (.written writes)) :=
  setAll_headers ∅ writes

namespace Headers

variable {writes : List Carrier.Write}

theorem entries_written (h : writes.Pairwise fun a b => a.1 ≠ b.1) :
    (written writes).entries = writes.map fun write => (.text write.1, .text write.2) :=
  Table.entries_ofList (pairwise_entriesOf h)

/-- Written headers are textual. -/
theorem isTextual_written (h : writes.Pairwise fun a b => a.1 ≠ b.1) :
    (written writes).IsTextual := by
  constructor
  · intro entry hentry
    rw [entries_written h] at hentry
    obtain ⟨write, -, rfl⟩ := List.mem_map.mp hentry
    exact ⟨write.1, rfl⟩
  · intro entry hentry
    rw [entries_written h] at hentry
    obtain ⟨write, -, rfl⟩ := List.mem_map.mp hentry
    exact .text write.2

/-- Under a name stands the line that was written under it. -/
theorem get?_written (h : writes.Pairwise fun a b => a.1 ≠ b.1) (name : String) :
    (written writes).get? (.text name) =
      (writes.find? (·.1 == name)).map fun write => .text write.2 := by
  have hname : (fun entry : Key × Value => entry.1 == .text name) ∘
      (fun write : Carrier.Write => (Key.text write.1, Value.text write.2)) =
      fun write => write.1 == name := by
    funext write
    exact Key.text_beq_text write.1 name
  rw [Table.get?, entries_written h, List.find?_map, hname, Option.map_map]
  rfl

theorem firstText?_written (h : writes.Pairwise fun a b => a.1 ≠ b.1) (name : String) :
    (written writes).firstText? name = (writes.find? (·.1 == name)).map (·.2) := by
  rw [firstText?, get?_written h]
  cases writes.find? (·.1 == name) with
  | none => rfl
  | some write => rfl

end Headers

end TraceRelay
