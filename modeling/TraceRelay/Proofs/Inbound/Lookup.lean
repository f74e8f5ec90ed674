import TraceRelay.Proofs.Carrier.Textual

/-!
# What the readers of requests find

The name of the cloud trace header may stand in a request more than once, in different letter case.
One reader of requests goes by the first of these entries (`decode_of_names`), the other one by the
last (`parentContext_of_names`). Both need names that are texts. The second one lowers all of them
before it reads anything, so it gives a context only when there is no other name
(`names_of_parentContext`).
-/

set_option autoImplicit false

namespace TraceRelay

namespace Inbound

/-- The value of the first entry with the right name in any letter case. -/
def firstMatch? (entries : List (Key × Value)) : Option Value :=
  (entries.find? fun entry => entry.1.lowered.toOption == some CloudHeader.name).map (·.2)

/-- Entries with texts for names are searched up to the first one with the right name. -/
theorem firstHeader?_of_names {entries : List (Key × Value)}
    (h : ∀ entry ∈ entries, ∃ name, entry.1 = .text name) :
    firstHeader? entries = .ok (firstMatch? entries) := by
  induction entries with
  | nil => rfl
  | cons entry rest ih =>
      obtain ⟨name, hname⟩ := h entry List.mem_cons_self
      have hlowered : entry.1.lowered = .ok (Text.lowercase name) := by
        rw [hname]
        rfl
      have hrest := ih fun e he => h e (List.mem_cons_of_mem _ he)
      by_cases hmatch : Text.lowercase name = CloudHeader.name
      · simp [firstHeader?, firstMatch?, hlowered, hmatch, bind, Except.bind, Except.toOption, pure,
          Except.pure]
      · simp [firstHeader?, firstMatch?, hlowered, hmatch, bind, Except.bind, Except.toOption,
          hrest]

variable {headers : Headers}

/-- Decoding goes by the first entry with the right name. -/
theorem decode_of_names (h : ∀ entry ∈ headers.entries, ∃ name, entry.1 = .text name) :
    decode (.headers headers) =
      match firstMatch? headers.entries with
      | none => .ok none
      | some value => CloudHeader.decode value := by
  have hdecode : decode (.headers headers) = (firstHeader? headers.entries).bind fun found =>
      match found with
      | none => .ok none
      | some value => CloudHeader.decode value := rfl
  rw [hdecode, firstHeader?_of_names h]
  rfl

/-- Extraction goes by the last entry with the right name. -/
theorem parentContext_of_names (h : ∀ entry ∈ headers.entries, ∃ name, entry.1 = .text name) :
    ∃ table : Headers, table.get? (.text CloudHeader.name) = lastHeader? headers.entries ∧
      ∀ (logFailures : Bool) (current : Context),
        parentContext logFailures (.headers headers) current =
          CloudHeader.extract logFailures (.headers table) current := by
  obtain ⟨table, hlowered, hlast⟩ := lowered_of_names h
  refine ⟨table, hlast, ?_⟩
  intro logFailures current
  rw [parentContext, hlowered]

/-- Entries that were lowered one by one had texts for names. -/
theorem names_of_mapM_lowerEntry {entries lowered : List (Key × Value)}
    (h : entries.mapM lowerEntry = .ok lowered) :
    ∀ entry ∈ entries, ∃ name, entry.1 = .text name := by
  induction entries generalizing lowered with
  | nil =>
      intro entry hentry
      cases hentry
  | cons first rest ih =>
      rw [List.mapM_cons] at h
      cases hfirst : lowerEntry first with
      | error fault =>
          rw [hfirst] at h
          cases h
      | ok entry =>
          cases hrest : rest.mapM lowerEntry with
          | error fault =>
              rw [hfirst, hrest] at h
              cases h
          | ok further =>
              intro e he
              rcases List.mem_cons.mp he with rfl | he
              · cases hname : e.1 with
                | text name => exact ⟨name, rfl⟩
                | _ =>
                    rw [lowerEntry, hname] at hfirst
                    cases hfirst
              · exact ih hrest e he

/-- The reader that lowers all names gives a context only when all names are texts. -/
theorem names_of_parentContext {logFailures : Bool} {current context : Context}
    (h : (parentContext logFailures (.headers headers) current).result = .ok context) :
    ∀ entry ∈ headers.entries, ∃ name, entry.1 = .text name := by
  have hlowered : lowered (.headers headers) = (headers.entries.mapM lowerEntry).bind
      fun entries => .ok (.headers (Table.ofList entries)) := rfl
  cases hentries : headers.entries.mapM lowerEntry with
  | error fault =>
      rw [parentContext, hlowered, hentries] at h
      cases h
  | ok entries => exact names_of_mapM_lowerEntry hentries

end Inbound

end TraceRelay
