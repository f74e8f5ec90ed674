import TraceRelay.Proofs.Carrier.Textual
import TraceRelay.Proofs.Text.LetterCase

/-!
# Names in another letter case

On their way the names of headers may be spelled in another letter case. The reader of requests
undoes it: from headers that were sent with names in lower case it gets the headers that were sent
(`lowered_respelled`).
-/

set_option autoImplicit false

namespace TraceRelay

/-- A way to spell names in another letter case. -/
structure Respelling where
  spell : String → String
  sameLetters : ∀ name, Text.SameLetters (spell name) name

/-- A name spelled anew. Only a text has letters. -/
def Key.respelled (respelling : Respelling) : Key → Key
  | .text name => .text (respelling.spell name)
  | key => key

/-- Headers with their names spelled anew. -/
def Headers.respelled (respelling : Respelling) (headers : Headers) : Headers :=
  Table.ofList (headers.entries.map fun entry => (entry.1.respelled respelling, entry.2))

/-- A carrier with the names of its headers spelled anew. -/
def Carrier.respelled (respelling : Respelling) : Carrier → Carrier
  | .headers table => .headers (table.respelled respelling)
  | .bare value => .bare value

/-- All names are texts in lower case. -/
def Headers.IsLowercase (headers : Headers) : Prop :=
  ∀ entry ∈ headers.entries, ∃ name, entry.1 = .text name ∧ Text.lowercase name = name

variable {headers : Headers}

/-- The lower case of a name that was spelled anew is the lower case of the name. -/
theorem Key.lowerName_respelled (respelling : Respelling) (key : Key) :
    (key.respelled respelling).lowerName = key.lowerName := by
  cases key with
  | text name => exact congrArg Key.text (Text.lowercase_congr (respelling.sameLetters name))
  | null => rfl
  | bool b => rfl
  | int n => rfl
  | decimal d => rfl

theorem Headers.IsLowercase.lowerName_eq (h : headers.IsLowercase) {entry : Key × Value}
    (hentry : entry ∈ headers.entries) : entry.1.lowerName = entry.1 := by
  obtain ⟨name, hname, hlower⟩ := h entry hentry
  rw [hname, Key.lowerName, hlower]

/-- Names in lower case that are different stay different when they are spelled anew. -/
theorem Headers.IsLowercase.entries_respelled (h : headers.IsLowercase) (respelling : Respelling) :
    (headers.respelled respelling).entries =
      headers.entries.map fun entry => (entry.1.respelled respelling, entry.2) := by
  apply Table.entries_ofList
  rw [List.pairwise_map]
  refine headers.distinct.imp_of_mem ?_
  intro a b ha hb hdistinct
  obtain ⟨first, hfirst, -⟩ := h a ha
  obtain ⟨second, hsecond, -⟩ := h b hb
  rw [hfirst, hsecond, Key.respelled, Key.respelled, Key.text_beq_text]
  apply decide_eq_false
  intro hspell
  -- Names with one spelling have one lower case, and that are the names themselves.
  have hsame : a.1 = b.1 := by
    rw [← h.lowerName_eq ha, ← h.lowerName_eq hb, ← Key.lowerName_respelled respelling,
      ← Key.lowerName_respelled respelling b.1, hfirst, hsecond, Key.respelled, Key.respelled,
      hspell]
  rw [hsame, BEq.rfl] at hdistinct
  cases hdistinct

/-- Lowering the names of headers that were sent in lower case and spelled anew gives the headers
that were sent. -/
theorem Inbound.lowered_respelled (h : headers.IsLowercase) (respelling : Respelling) :
    lowered ((Carrier.headers headers).respelled respelling) = .ok (.headers headers) := by
  have hlowered : lowered ((Carrier.headers headers).respelled respelling) =
      ((headers.respelled respelling).entries.mapM lowerEntry).bind
        fun entries => .ok (.headers (Table.ofList entries)) := rfl
  have hnames : ∀ entry ∈ (headers.respelled respelling).entries,
      ∃ name, entry.1 = .text name := by
    intro entry hentry
    rw [h.entries_respelled] at hentry
    obtain ⟨original, horiginal, rfl⟩ := List.mem_map.mp hentry
    obtain ⟨name, hname, -⟩ := h original horiginal
    exact ⟨respelling.spell name, by rw [hname, Key.respelled]⟩
  have hentries : (headers.respelled respelling).entries.map
      (fun entry => (entry.1.lowerName, entry.2)) = headers.entries := by
    rw [h.entries_respelled, List.map_map]
    refine (List.map_congr_left ?_).trans (List.map_id _)
    intro entry hentry
    rw [Function.comp_apply, Key.lowerName_respelled, h.lowerName_eq hentry]
    rfl
  rw [hlowered, mapM_lowerEntry hnames, hentries]
  exact congrArg (fun table => Except.ok (Carrier.headers table)) headers.ofList_entries

end TraceRelay
