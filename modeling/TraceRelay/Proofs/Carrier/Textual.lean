import TraceRelay.Requests

/-!
# Textual headers

The headers of a request are texts under names that are texts. A carrier may hold several texts
under one name, as a list. Of such headers the readers see the texts under a name in their order
(`values_of_isTextual`), and the first of them (`firstValue_of_isTextual`). With the names in lower
case, the last entry with the right name is the one that is seen (`lowered_of_names`).
-/

set_option autoImplicit false

namespace TraceRelay

/-- A text or a list of texts. -/
inductive Value.IsTextual : Value → Prop
  | text (line : String) : IsTextual (.text line)
  | list (lines : List String) : IsTextual (.list (lines.map .text))

/-- The first text that a value holds. -/
def Value.firstText? : Value → Option String
  | .text line => some line
  | .list (.text line :: _) => some line
  | _ => none

/-- The texts that a value holds. -/
def Value.texts : Value → List String
  | .text line => [line]
  | .list items => items.filterMap fun
      | .text line => some line
      | _ => none
  | _ => []

/-- All values are textual, whatever the names. -/
def Headers.HoldsTexts (headers : Headers) : Prop :=
  ∀ entry ∈ headers.entries, entry.2.IsTextual

theorem Headers.HoldsTexts.get? {headers : Headers} (h : headers.HoldsTexts) {key : Key}
    {value : Value} (hvalue : headers.get? key = some value) : value.IsTextual := by
  obtain ⟨entry, hentry, rfl⟩ := Table.exists_mem_of_get? hvalue
  exact h entry hentry

/-- All names are texts, and all values are textual. -/
structure Headers.IsTextual (headers : Headers) : Prop where
  names : ∀ entry ∈ headers.entries, ∃ name, entry.1 = .text name
  values : ∀ entry ∈ headers.entries, entry.2.IsTextual

theorem Headers.IsTextual.get? {headers : Headers} (h : headers.IsTextual) {key : Key}
    {value : Value} (hvalue : headers.get? key = some value) : value.IsTextual :=
  Headers.HoldsTexts.get? h.values hvalue

namespace Carrier

/-- The first of the values that an entry holds. -/
def firstOf (found : Option Value) : Option Value :=
  (valuesOf found).bind List.head?

theorem firstValue_headers (headers : Headers) (name : String) :
    (Carrier.headers headers).firstValue name = .ok (firstOf (headers.get? (.text name))) := rfl

/-- A textual value puts its texts under its name, and the first of them is its first text. -/
theorem valuesOf_of_isTextual {value : Value} (h : value.IsTextual) :
    valuesOf (some value) = some (value.texts.map .text) ∧
      value.texts.head? = value.firstText? := by
  cases h with
  | text line => exact ⟨rfl, rfl⟩
  | list lines =>
      have htexts : (Value.list (lines.map .text)).texts = lines := by
        rw [Value.texts, List.filterMap_map]
        exact List.filterMap_some
      rw [htexts]
      refine ⟨rfl, ?_⟩
      cases lines with
      | nil => rfl
      | cons line rest => rfl

variable {headers : Headers}

/-- The values of a name with a textual value are its texts, and the first of them is the first text
of the value. A name without a value has none. -/
theorem values_of_isTextual (name : String)
    (h : ∀ value, headers.get? (.text name) = some value → value.IsTextual) :
    (Carrier.headers headers).values name =
        .ok (((headers.get? (.text name)).map Value.texts).map (List.map .text)) ∧
      ((headers.get? (.text name)).map Value.texts).bind List.head? =
        (headers.get? (.text name)).bind Value.firstText? := by
  have hvalues : (Carrier.headers headers).values name =
      .ok (valuesOf (headers.get? (.text name))) := rfl
  rw [hvalues]
  cases hget : headers.get? (.text name) with
  | none => exact ⟨rfl, rfl⟩
  | some value =>
      obtain ⟨hlines, hhead⟩ := valuesOf_of_isTextual (h value hget)
      exact ⟨by rw [hlines]; rfl, hhead⟩

/-- The first value of a name with a textual value is its first text. -/
theorem firstValue_of_isTextual (name : String)
    (h : ∀ value, headers.get? (.text name) = some value → value.IsTextual) :
    (Carrier.headers headers).firstValue name =
      .ok (((headers.get? (.text name)).bind Value.firstText?).map .text) := by
  obtain ⟨hvalues, hhead⟩ := values_of_isTextual name h
  rw [firstValue, hvalues, ← hhead]
  cases (headers.get? (.text name)).map Value.texts with
  | none => rfl
  | some lines =>
      cases lines with
      | nil => rfl
      | cons line rest => rfl

end Carrier

/-- The first text that headers hold under a name. -/
def Headers.firstText? (headers : Headers) (name : String) : Option String :=
  (headers.get? (.text name)).bind Value.firstText?

/-- The texts that headers hold under a name. -/
def Headers.texts (headers : Headers) (name : String) : List String :=
  ((headers.get? (.text name)).map Value.texts).getD []

theorem Headers.HoldsTexts.firstValue_eq {headers : Headers} (h : headers.HoldsTexts)
    (name : String) :
    (Carrier.headers headers).firstValue name = .ok ((headers.firstText? name).map .text) :=
  Carrier.firstValue_of_isTextual name fun _ => h.get?

/-! ## Names in lower case -/

/-- The name that an entry has in the table of lowered names. -/
def Key.lowerName : Key → Key
  | .text name => .text (Text.lowercase name)
  | key => key

/-- An entry has the cloud trace header for its lowered name when its name is a text of which the
lower case is that name. -/
theorem Key.lowerName_beq (key : Key) :
    (key.lowerName == .text CloudHeader.name) =
      (key.lowered.toOption == some CloudHeader.name) := by
  cases key with
  | text name =>
      rw [Key.lowerName, Key.text_beq_text, Bool.eq_iff_iff]
      simp [Key.lowered, Except.toOption]
  | bool b => cases b <;> rfl
  | null => rfl
  | int n => rfl
  | decimal d => rfl

namespace Inbound

/-- The value of the last entry with the right name in any letter case. -/
def lastHeader? (entries : List (Key × Value)) : Option Value :=
  (entries.reverse.find? fun entry => entry.1.lowered.toOption == some CloudHeader.name).map (·.2)

/-- Entries with texts for names can be lowered one by one. -/
theorem mapM_lowerEntry {entries : List (Key × Value)}
    (h : ∀ entry ∈ entries, ∃ name, entry.1 = .text name) :
    entries.mapM lowerEntry = .ok (entries.map fun entry => (entry.1.lowerName, entry.2)) := by
  induction entries with
  | nil => rfl
  | cons entry rest ih =>
      obtain ⟨name, hname⟩ := h entry List.mem_cons_self
      have hentry : lowerEntry entry = .ok (entry.1.lowerName, entry.2) := by
        rw [lowerEntry, hname]
        rfl
      rw [List.mapM_cons, hentry, ih fun e he => h e (List.mem_cons_of_mem _ he)]
      rfl

/-- The table of lowered names, and what it holds under the name of the header. -/
theorem lowered_of_names {headers : Headers}
    (h : ∀ entry ∈ headers.entries, ∃ name, entry.1 = .text name) :
    ∃ table : Headers, lowered (.headers headers) = .ok (.headers table) ∧
      table.get? (.text CloudHeader.name) = lastHeader? headers.entries := by
  refine ⟨Table.ofList (headers.entries.map fun entry => (entry.1.lowerName, entry.2)), ?_, ?_⟩
  · have hlowered : lowered (.headers headers) = (headers.entries.mapM lowerEntry).bind
        fun entries => .ok (.headers (Table.ofList entries)) := rfl
    rw [hlowered, mapM_lowerEntry h]
    rfl
  · -- Names that differ in case fall together, and of their entries the last one stays.
    rw [Table.get?_ofList, ← List.map_reverse, List.find?_map, lastHeader?, Option.map_map]
    have hname : ((fun entry : Key × Value => entry.1 == .text CloudHeader.name) ∘
        fun entry : Key × Value => (entry.1.lowerName, entry.2)) =
        fun entry => entry.1.lowered.toOption == some CloudHeader.name := by
      funext entry
      exact Key.lowerName_beq entry.1
    rw [hname]
    rfl

theorem lowered_of_isTextual {headers : Headers} (h : headers.IsTextual) :
    ∃ table : Headers, lowered (.headers headers) = .ok (.headers table) ∧
      table.get? (.text CloudHeader.name) = lastHeader? headers.entries :=
  lowered_of_names h.names

theorem exists_mem_of_lastHeader? {entries : List (Key × Value)} {value : Value}
    (h : lastHeader? entries = some value) : ∃ entry ∈ entries, entry.2 = value := by
  obtain ⟨entry, hentry, hvalue⟩ := Option.map_eq_some_iff.mp h
  have hmem : entry ∈ entries.reverse := List.mem_of_find?_eq_some hentry
  exact ⟨entry, List.mem_reverse.mp hmem, hvalue⟩

theorem isTextual_of_lastHeader? {headers : Headers} (h : headers.IsTextual) {value : Value}
    (hvalue : lastHeader? headers.entries = some value) : value.IsTextual := by
  obtain ⟨entry, hentry, rfl⟩ := exists_mem_of_lastHeader? hvalue
  exact h.values entry hentry

end Inbound

end TraceRelay
