import TraceRelay.Proofs.TraceState.Grammar

/-!
# Reading the tracestate header

The values of the header are read as one text, in which they are joined by commas (`ofValues_text`).
The members of a text are read as the entries that it lists (`lists_iff`), and adding them one by
one refuses those with a key that is there already. So reading finds the state that a text spells
out, and the empty one when it spells out none (`ofText_eq_iff`). What is written for a state of
acceptable entries spells it out again (`spells_format`).
-/

set_option autoImplicit false

namespace TraceRelay.TraceState

/-! ## Lists -/

theorem Holds.not_mem_comma {field : List Char} {found : List (String × String)}
    (h : Holds field found) : ',' ∉ field := by
  have hpadding : ∀ cs : List Char, (∀ c ∈ cs, Text.isPadding c = true) → ',' ∉ cs := by
    intro cs hcs hmem
    exact absurd (hcs ',' hmem) (by decide)
  cases h with
  | blank hfield => exact hpadding _ hfield
  | entry hbefore hentry hafter =>
      simp only [List.mem_append, not_or]
      exact ⟨⟨hpadding _ hbefore, hentry.not_mem_comma⟩, hpadding _ hafter⟩

theorem members_of_not_mem {field : List Char} (h : ',' ∉ field) :
    members field = [Text.trim Text.isPadding field].filter fun member => !member.isEmpty := by
  rw [members, List.splitOn_eq_singleton h, List.map_singleton]

theorem members_append (front behind : List Char) :
    members (front ++ ',' :: behind) = members front ++ members behind := by
  rw [members, List.splitOn_append_cons_self, List.map_append, List.filter_append]
  rfl

/-- A field without a comma holds what its only member is read as, if it has one. -/
theorem holds_iff {field : List Char} (hcomma : ',' ∉ field) {found : List (String × String)} :
    Holds field found ↔ (members field).mapM entry? = some found := by
  rw [members_of_not_mem hcomma]
  constructor
  · intro h
    cases h with
    | blank hfield =>
        have htrims : Text.Trims Text.isPadding field [] :=
          ⟨⟨field, [], by simp, hfield, by simp⟩, by simp, by simp⟩
        rw [htrims.trim_eq]
        rfl
    | @entry before text after entry hbefore hentry hafter =>
        have hnonempty : text.isEmpty = false := by simp [hentry.text]
        have hread := entry?_eq_some_iff.mpr hentry
        rw [(hentry.trims hbefore hafter).trim_eq]
        simp [hnonempty, hread]
  · intro h
    obtain ⟨⟨before, after, hfield, hbefore, hafter⟩, -, -⟩ :=
      @Text.trims_trim Text.isPadding field
    cases hbody : Text.trim Text.isPadding field with
    | nil =>
        rw [hbody] at h hfield
        cases h
        apply Holds.blank
        intro c hc
        rw [hfield, List.append_nil, List.mem_append] at hc
        rcases hc with hc | hc
        · exact hbefore c hc
        · exact hafter c hc
    | cons c cs =>
        rw [hbody] at h hfield
        rw [List.filter_cons_of_pos rfl, List.filter_nil, List.mapM_cons] at h
        obtain ⟨entry, hentry, h⟩ := Option.bind_eq_some_iff.mp h
        cases h
        rw [hfield]
        exact .entry hbefore (entry?_eq_some_iff.mp hentry) hafter

/-- A text lists the entries that its members are read as. -/
theorem lists_iff {text : List Char} {entries : List (String × String)} :
    Lists text entries ↔ (members text).mapM entry? = some entries := by
  constructor
  · intro h
    induction h with
    | last hfield => exact (holds_iff hfield.not_mem_comma).mp hfield
    | cons hfield hrest ih =>
        rw [members_append, List.mapM_append, (holds_iff hfield.not_mem_comma).mp hfield, ih]
        rfl
  · -- Every text is a field or has one before its first comma.
    induction hlength : text.length using Nat.strong_induction_on generalizing text entries with
    | _ n ih =>
        subst hlength
        intro h
        by_cases hcomma : ',' ∈ text
        · obtain ⟨field, rest, rfl, hfield⟩ := List.eq_append_cons_of_mem hcomma
          rw [members_append, List.mapM_append] at h
          obtain ⟨found, hfound, h⟩ := Option.bind_eq_some_iff.mp h
          obtain ⟨more, hmore, h⟩ := Option.bind_eq_some_iff.mp h
          cases h
          refine .cons ((holds_iff hfield).mpr hfound) (ih rest.length ?_ rfl hmore)
          simp only [List.length_append, List.length_cons]
          omega
        · exact .last ((holds_iff hcomma).mpr h)

/-! ## States -/

/-- Adding a member puts its entry behind all others, which must have other keys. -/
theorem add?_eq_some_iff {state next : TraceState} {member : List Char} :
    add? state member = some next ↔
      ∃ entry, entry? member = some entry ∧ next.entries = state.entries ++ [entry] := by
  rw [add?]
  cases hentry : entry? member with
  | none => simp
  | some entry =>
      obtain ⟨key, value⟩ := entry
      have hset : state.contains key = false →
          (state.set key value).entries = state.entries ++ [(key, value)] := by
        intro hnew
        apply Table.setEntry_of_forall_ne
        simpa [Table.contains, List.any_eq_false] using hnew
      simp only [Option.some.injEq, exists_eq_left']
      constructor
      · intro h
        split at h
        · cases h
        · rename_i hnew
          cases h
          exact hset (Bool.eq_false_iff.mpr hnew)
      · intro h
        -- The entries of the next state have different keys, so the key is new.
        have hnew : state.contains key = false := by
          have hdistinct := next.distinct
          rw [h] at hdistinct
          rw [Table.contains, List.any_eq_false]
          intro e he
          rw [(List.pairwise_append.mp hdistinct).2.2 e he _ List.mem_cons_self]
          exact Bool.false_ne_true
        rw [if_neg (Bool.eq_false_iff.mp hnew)]
        exact congrArg some (Table.ext ((hset hnew).trans h.symm))

/-- Adding members puts their entries behind all others in their order. -/
theorem foldlM_add?_eq_some_iff {members : List (List Char)} {state result : TraceState} :
    members.foldlM add? state = some result ↔
      ∃ entries, members.mapM entry? = some entries ∧
        result.entries = state.entries ++ entries := by
  induction members generalizing state with
  | nil =>
      simp only [List.foldlM_nil, List.mapM_nil]
      constructor
      · intro h
        cases h
        exact ⟨[], rfl, (List.append_nil _).symm⟩
      · rintro ⟨entries, h, hresult⟩
        cases h
        exact congrArg some (Table.ext (hresult.trans (List.append_nil _)).symm)
  | cons member rest ih =>
      simp only [List.foldlM_cons, List.mapM_cons, Option.bind_eq_bind, Option.bind_eq_some_iff,
        add?_eq_some_iff, ih]
      constructor
      · rintro ⟨next, ⟨entry, hentry, hnext⟩, entries, hentries, hresult⟩
        refine ⟨entry :: entries, ⟨entry, hentry, entries, hentries, rfl⟩, ?_⟩
        rw [hresult, hnext, List.append_assoc]
        rfl
      · rintro ⟨all, ⟨entry, hentry, entries, hentries, hall⟩, hresult⟩
        cases hall
        have hdistinct := result.distinct
        rw [hresult, List.append_cons] at hdistinct
        let next : TraceState :=
          ⟨state.entries ++ [entry], (List.pairwise_append.mp hdistinct).1⟩
        refine ⟨next, ⟨entry, hentry, rfl⟩, entries, hentries, ?_⟩
        rw [hresult, List.append_cons]

/-! ## Texts -/

/-- The state that remains of what was collected: it is dropped when a member was refused or there
are too many entries. -/
def settle : Option TraceState → TraceState
  | none => ∅
  | some state => if state.size ≤ maxEntries then state else ∅

/-- The state that a text is read as. -/
def ofText (text : List Char) : TraceState :=
  if maxLength < text.length then ∅ else settle ((members text).foldlM add? ∅)

theorem spells_iff {text : List Char} {state : TraceState} :
    Spells state text ↔ text.length ≤ 8192 ∧ (members text).foldlM add? ∅ = some state ∧
      state.size ≤ 32 := by
  have hlists : (members text).foldlM add? ∅ = some state ↔ Lists text state.entries := by
    have hnil : (∅ : TraceState).entries = [] := rfl
    simp only [foldlM_add?_eq_some_iff, ← lists_iff, hnil, List.nil_append, exists_eq_right']
  rw [hlists]
  constructor
  · rintro ⟨hshort, hfew, hlisted⟩
    exact ⟨hshort, hlisted, hfew⟩
  · rintro ⟨hshort, hlisted, hfew⟩
    exact ⟨hshort, hfew, hlisted⟩

theorem ofText_of_spells {text : List Char} {state : TraceState} (h : Spells state text) :
    ofText text = state := by
  obtain ⟨hshort, hcollected, hfew⟩ := spells_iff.mp h
  have hlimit : ¬ maxLength < text.length := not_lt.mpr hshort
  rw [ofText, if_neg hlimit, hcollected]
  exact if_pos hfew

theorem ofText_of_not_spells {text : List Char} (h : ∀ state, ¬ Spells state text) :
    ofText text = ∅ := by
  rw [ofText]
  split
  · rfl
  · rename_i hshort
    cases hcollected : (members text).foldlM add? ∅ with
    | none => rfl
    | some state =>
        exact if_neg fun hfew => h state (spells_iff.mpr ⟨not_lt.mp hshort, hcollected, hfew⟩)

/-- A text is read as the state that it describes, and as no other. -/
theorem ofText_eq_iff {text : List Char} {state : TraceState} :
    ofText text = state ↔ Describes text state := by
  constructor
  · rintro rfl
    by_cases hspells : ∃ other, Spells other text
    · obtain ⟨other, hother⟩ := hspells
      rw [ofText_of_spells hother]
      exact Or.inl hother
    · have hnone : ∀ other, ¬ Spells other text := by
        intro other hother
        exact hspells ⟨other, hother⟩
      exact Or.inr ⟨hnone, ofText_of_not_spells hnone⟩
  · rintro (hspells | ⟨hnone, rfl⟩)
    · exact ofText_of_spells hspells
    · exact ofText_of_not_spells hnone

/-! ## Writing -/

/-- The entries of the state are spelled out when they are written, and the header is not too
long. -/
structure IsAcceptable (state : TraceState) : Prop where
  entries : ∀ entry ∈ state.entries, SpellsEntry entry (entryChars entry)
  few : state.entries.length ≤ 32
  short : (format state).length ≤ 8192

/-- Entries that are written with commas between them are listed. -/
theorem lists_intercalate {entries : List (String × String)}
    (h : ∀ entry ∈ entries, SpellsEntry entry (entryChars entry)) :
    Lists ([','].intercalate (entries.map entryChars)) entries := by
  have hfield : ∀ entry ∈ entries, Holds (entryChars entry) [entry] := by
    intro entry hentry
    have hholds : Holds ([] ++ entryChars entry ++ []) [entry] :=
      .entry (by simp) (h entry hentry) (by simp)
    rwa [List.nil_append, List.append_nil] at hholds
  clear h
  cases entries with
  | nil => exact .last (.blank (by simp))
  | cons entry rest =>
      induction rest generalizing entry with
      | nil => simpa using Lists.last (hfield entry List.mem_cons_self)
      | cons next rest ih =>
          have hrest := ih next fun e he => hfield e (List.mem_cons_of_mem _ he)
          have hlists := Lists.cons (hfield entry List.mem_cons_self) hrest
          simpa [List.intercalate_cons_cons] using hlists

/-- What is written for an acceptable state spells it out. -/
theorem spells_format {state : TraceState} (h : IsAcceptable state) :
    Spells state (format state) where
  short := h.short
  few := h.few
  listed := lists_intercalate h.entries

/-- What is written for an acceptable state describes this state and no other. -/
theorem eq_of_describes_format {state other : TraceState} (h : IsAcceptable state)
    (hother : Describes (format state) other) : other = state := by
  rw [← ofText_eq_iff] at hother
  rw [← hother, ofText_of_spells (spells_format h)]

theorem isAcceptable_empty : IsAcceptable ∅ where
  entries := by simp [show (∅ : TraceState).entries = [] from rfl]
  few := Nat.zero_le _
  short := Nat.zero_le _

/-! ## Values of the header -/

/-- Texts with a comma between them. -/
def joined (lines : List String) : List Char :=
  [','].intercalate (lines.map String.toList)

theorem joined_cons_cons (line next : String) (rest : List String) :
    joined (line :: next :: rest) = line.toList ++ ',' :: joined (next :: rest) := by
  simp [joined, List.intercalate_cons_cons]

/-- The members of texts are those of the texts with a comma between them. -/
theorem members_joined (lines : List String) :
    members (joined lines) = lines.flatMap fun line => members line.toList := by
  cases lines with
  | nil => rfl
  | cons line rest =>
      induction rest generalizing line with
      | nil => simp [joined]
      | cons next rest ih =>
          rw [joined_cons_cons, members_append, ih]
          rfl

/-- The length that is limited is that of the texts with a comma between them. -/
theorem length_joined (lines : List String) :
    (joined lines).length =
      (lines.map String.length).foldl Nat.add 0 + (lines.length - 1) := by
  have hfoldl : ∀ (lengths : List Nat) (start : Nat),
      lengths.foldl Nat.add start = start + lengths.foldl Nat.add 0 := by
    intro lengths
    induction lengths with
    | nil => exact fun start => rfl
    | cons length rest ih =>
        intro start
        rw [List.foldl_cons, List.foldl_cons, ih, ih (Nat.add 0 length)]
        simp only [Nat.add_eq]
        omega
  cases lines with
  | nil => rfl
  | cons line rest =>
      induction rest generalizing line with
      | nil => simp [joined, String.length_toList]
      | cons next rest ih =>
          have hrest := ih next
          rw [joined_cons_cons, List.length_append, List.length_cons, hrest]
          simp only [List.map_cons, List.length_cons, List.foldl_cons, Nat.add_eq, Nat.zero_add]
          rw [hfoldl _ (line.length + next.length), hfoldl _ next.length, String.length_toList]
          omega

theorem mapM_length_text (lines : List String) :
    (lines.map Value.text).mapM Value.length = .ok (lines.map String.length) := by
  induction lines with
  | nil => rfl
  | cons line rest ih =>
      rw [List.map_cons, List.mapM_cons, ih]
      rfl

/-- Texts are collected on top of a state by adding all their members. -/
theorem collect_text (lines : List String) (state : TraceState) :
    collect (lines.map .text) state =
      .ok (settle ((lines.flatMap fun line => members line.toList).foldlM add? state)) := by
  induction lines generalizing state with
  | nil => rfl
  | cons line rest ih =>
      have hchars : (Value.text line).charsOr (.missingOperation · .split) =
          .ok line.toList := rfl
      rw [List.map_cons, collect, hchars, List.flatMap_cons, List.foldlM_append]
      cases hnext : (members line.toList).foldlM add? state with
      | none =>
          simp only [bind, Except.bind, hnext]
          rfl
      | some next =>
          simp only [bind, Except.bind, hnext]
          exact ih next

/-- The values of the header are read as one text. -/
theorem ofValues_text (lines : List String) :
    ofValues (lines.map .text) = .ok (ofText (joined lines)) := by
  have hvalues : ofValues (lines.map .text) =
      if maxLength < (lines.map String.length).foldl Nat.add 0 +
          ((lines.map Value.text).length - 1) then .ok ∅
      else collect (lines.map .text) ∅ := by
    rw [ofValues, mapM_length_text]
    rfl
  rw [hvalues, List.length_map, ← length_joined, ofText, collect_text, ← members_joined]
  split <;> rfl

end TraceRelay.TraceState
