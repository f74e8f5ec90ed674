/-!
# Tables

A table maps keys to values and remembers the order in which the keys came. Setting a key that is
present replaces its value and keeps its place. A new key goes last. Keys are compared by `==`,
and the key that came first is the one that is kept. No two entries have equal keys, which the
type carries as a proof.
-/

set_option autoImplicit false

namespace TraceRelay

universe u v

/-- Entries in order of arrival, with pairwise different keys. -/
structure Table (κ : Type u) (α : Type v) [BEq κ] where
  entries : List (κ × α)
  distinct : entries.Pairwise fun a b => (a.1 == b.1) = false

namespace Table

variable {κ : Type u} {α : Type v} [BEq κ]

/-! ## Construction -/

/-- The table without entries. -/
def empty : Table κ α := ⟨[], List.Pairwise.nil⟩

instance : EmptyCollection (Table κ α) := ⟨empty⟩

instance : Inhabited (Table κ α) := ⟨empty⟩

/-- The entries after `key` is set: in place when present, last otherwise. -/
def setEntry (key : κ) (value : α) : List (κ × α) → List (κ × α)
  | [] => [(key, value)]
  | entry :: rest =>
      if entry.1 == key then (entry.1, value) :: rest else entry :: setEntry key value rest

/-- Every key after a set was there before or is the one that was set. -/
theorem key_mem_setEntry {key : κ} {value : α} {entries : List (κ × α)} {e : κ × α}
    (h : e ∈ setEntry key value entries) : e.1 = key ∨ ∃ d ∈ entries, d.1 = e.1 := by
  induction entries with
  | nil =>
      simp only [setEntry, List.mem_singleton] at h
      exact Or.inl (by rw [h])
  | cons d rest ih =>
      simp only [setEntry] at h
      split at h
      · rcases List.mem_cons.mp h with rfl | h
        · exact Or.inr ⟨d, List.mem_cons_self, rfl⟩
        · exact Or.inr ⟨e, List.mem_cons_of_mem _ h, rfl⟩
      · rcases List.mem_cons.mp h with rfl | h
        · exact Or.inr ⟨e, List.mem_cons_self, rfl⟩
        · rcases ih h with hkey | ⟨b, hb, hbe⟩
          · exact Or.inl hkey
          · exact Or.inr ⟨b, List.mem_cons_of_mem _ hb, hbe⟩

/-- Setting a key keeps the keys pairwise different. -/
theorem setEntry_distinct (key : κ) (value : α) {entries : List (κ × α)}
    (h : entries.Pairwise fun a b => (a.1 == b.1) = false) :
    (setEntry key value entries).Pairwise fun a b => (a.1 == b.1) = false := by
  induction entries with
  | nil => exact List.pairwise_singleton _ _
  | cons d rest ih =>
      rw [List.pairwise_cons] at h
      simp only [setEntry]
      split
      · exact List.pairwise_cons.mpr ⟨fun b hb => h.1 b hb, h.2⟩
      · rename_i hne
        refine List.pairwise_cons.mpr ⟨fun b hb => ?_, ih h.2⟩
        rcases key_mem_setEntry hb with hkey | ⟨c, hc, hcb⟩
        · rw [hkey]
          exact Bool.eq_false_iff.mpr hne
        · rw [← hcb]
          exact h.1 c hc

/-- The table with `key` set to `value`. -/
def set (table : Table κ α) (key : κ) (value : α) : Table κ α :=
  ⟨setEntry key value table.entries, setEntry_distinct key value table.distinct⟩

/-- The table that arises from setting the pairs of a list one after the other. -/
def ofList (pairs : List (κ × α)) : Table κ α :=
  pairs.foldl (fun table pair => table.set pair.1 pair.2) empty

/-! ## Access -/

/-- The value of a key. -/
def get? (table : Table κ α) (key : κ) : Option α :=
  (table.entries.find? (·.1 == key)).map (·.2)

/-- The key has a value. -/
def contains (table : Table κ α) (key : κ) : Bool :=
  table.entries.any (·.1 == key)

/-- The number of keys. -/
def size (table : Table κ α) : Nat :=
  table.entries.length

/-- The table has no entries. -/
def isEmpty (table : Table κ α) : Bool :=
  table.entries.isEmpty

/-- The keys in order. -/
def keys (table : Table κ α) : List κ :=
  table.entries.map (·.1)

/-- The two tables hold the same values under the same keys, in whatever order. -/
def sameMap [BEq α] (a b : Table κ α) : Bool :=
  a.size == b.size && a.entries.all fun entry => b.get? entry.1 == some entry.2

/-- A key that was set has the value it was set to. -/
theorem get?_set_self [EquivBEq κ] (table : Table κ α) (key : κ) (value : α) :
    (table.set key value).get? key = some value := by
  simp only [get?, set]
  induction table.entries with
  | nil => simp [setEntry]
  | cons entry rest ih =>
      simp only [setEntry]
      split
      · rename_i h
        simp [h]
      · rename_i h
        simpa [List.find?_cons, h] using ih

/-- Setting a key leaves the values of other keys. -/
theorem get?_set_of_ne [EquivBEq κ] (table : Table κ α) {key other : κ} (value : α)
    (h : (key == other) = false) : (table.set key value).get? other = table.get? other := by
  simp only [get?, set]
  induction table.entries with
  | nil => simp [setEntry, h]
  | cons entry rest ih =>
      simp only [setEntry]
      split
      · rename_i heq
        have hne : (entry.1 == other) = false := by
          rw [BEq.congr_left heq]
          exact h
        simp [hne]
      · simp only [List.find?_cons]
        split
        · rfl
        · exact ih

theorem get?_congr [EquivBEq κ] (table : Table κ α) {key other : κ} (h : (key == other) = true) :
    table.get? key = table.get? other := by
  simp only [get?, BEq.congr_right h]

theorem get?_set [EquivBEq κ] (table : Table κ α) (key other : κ) (value : α) :
    (table.set key value).get? other = if key == other then some value else table.get? other := by
  by_cases h : (key == other) = true
  · rw [if_pos h, ← get?_congr _ h, get?_set_self]
  · rw [if_neg h, get?_set_of_ne table value (Bool.eq_false_iff.mpr h)]

/-- Of the pairs that have a key, the last one decides its value. The pairs come on top of those
of a table that is there already. -/
theorem get?_foldl_set [EquivBEq κ] (pairs : List (κ × α)) (table : Table κ α) (key : κ) :
    (pairs.foldl (fun table pair => table.set pair.1 pair.2) table).get? key =
      ((pairs.reverse.find? (·.1 == key)).map (·.2)).or (table.get? key) := by
  induction pairs generalizing table with
  | nil => rfl
  | cons pair rest ih =>
      rw [List.foldl_cons, ih, List.reverse_cons, List.find?_append, get?_set]
      cases hrest : rest.reverse.find? (·.1 == key) with
      | some last => rfl
      | none =>
          by_cases h : (pair.1 == key) = true
          · simp [h]
          · simp [h]

/-- In a table of pairs, the last pair with a key decides its value. -/
theorem get?_ofList [EquivBEq κ] (pairs : List (κ × α)) (key : κ) :
    (ofList pairs).get? key = (pairs.reverse.find? (·.1 == key)).map (·.2) := by
  rw [ofList, get?_foldl_set]
  exact Option.or_none

theorem exists_mem_of_get? {table : Table κ α} {key : κ} {value : α}
    (h : table.get? key = some value) : ∃ entry ∈ table.entries, entry.2 = value := by
  obtain ⟨entry, hentry, hvalue⟩ := Option.map_eq_some_iff.mp h
  exact ⟨entry, List.mem_of_find?_eq_some hentry, hvalue⟩

/-- A key that is not there yet goes last. -/
theorem setEntry_of_forall_ne {key : κ} (value : α) {entries : List (κ × α)}
    (h : ∀ e ∈ entries, (e.1 == key) = false) :
    setEntry key value entries = entries ++ [(key, value)] := by
  induction entries with
  | nil => rfl
  | cons e rest ih =>
      have hne : (e.1 == key) = false := h e List.mem_cons_self
      have hrest := ih fun d hd => h d (List.mem_cons_of_mem _ hd)
      rw [setEntry, hne, hrest]
      rfl

/-- Setting a key changes one place: behind the last entry, or where the key is. What stands before
that place and behind it stays. -/
theorem exists_setEntry_eq [EquivBEq κ] (key : κ) (value : α) (entries : List (κ × α)) :
    ∃ kept, (kept == key) = true ∧
      setEntry key value entries =
        (entries.takeWhile fun e => !(e.1 == key)) ++
          (kept, value) :: (entries.dropWhile fun e => !(e.1 == key)).tail := by
  induction entries with
  | nil => exact ⟨key, BEq.rfl, rfl⟩
  | cons e rest ih =>
      cases hkey : e.1 == key with
      | true => exact ⟨e.1, hkey, by simp [setEntry, hkey]⟩
      | false =>
          obtain ⟨kept, hkept, hrest⟩ := ih
          exact ⟨kept, hkept, by simp [setEntry, hkey, hrest]⟩

/-- A key that is there keeps its place. -/
theorem setEntry_append_cons {key : κ} (value : α) {before behind : List (κ × α)} {entry : κ × α}
    (hbefore : ∀ e ∈ before, (e.1 == key) = false) (hentry : (entry.1 == key) = true) :
    setEntry key value (before ++ entry :: behind) = before ++ (entry.1, value) :: behind := by
  induction before with
  | nil => simp [setEntry, hentry]
  | cons e before ih =>
      have hne : (e.1 == key) = false := hbefore e List.mem_cons_self
      have hrest := ih fun d hd => hbefore d (List.mem_cons_of_mem _ hd)
      rw [List.cons_append, setEntry, hne, hrest]
      rfl

/-- Setting a key keeps all keys in their order, and a new one goes behind them. -/
theorem keys_setEntry (key : κ) (value : α) (entries : List (κ × α)) :
    entries.map (·.1) <+: (setEntry key value entries).map (·.1) := by
  induction entries with
  | nil => exact List.nil_prefix
  | cons e rest ih =>
      cases hkey : e.1 == key with
      | true => simp [setEntry, hkey]
      | false => simpa [setEntry, hkey] using ih

/-- Setting a key leaves the entries that are selected by a test which this key fails. -/
theorem filter_setEntry [EquivBEq κ] {key : κ} {test : κ → Bool}
    (h : ∀ other, (other == key) = true → test other = false) (value : α)
    (entries : List (κ × α)) :
    (setEntry key value entries).filter (fun e => test e.1) =
      entries.filter fun e => test e.1 := by
  induction entries with
  | nil => simp [setEntry, h key BEq.rfl]
  | cons e rest ih =>
      cases hkey : e.1 == key with
      | true => simp [setEntry, hkey, h e.1 hkey]
      | false => simp [setEntry, hkey, List.filter_cons, ih]

/-- Setting a key to the value that is found for it changes nothing. -/
theorem setEntry_of_find? [EquivBEq κ] {key : κ} {value : α} {entries : List (κ × α)}
    (h : (entries.find? (·.1 == key)).map (·.2) = some value) :
    setEntry key value entries = entries := by
  induction entries with
  | nil => cases h
  | cons e rest ih =>
      cases hkey : e.1 == key with
      | true =>
          have hvalue : e.2 = value := by simpa [hkey] using h
          simp [setEntry, hkey, ← hvalue]
      | false =>
          have hrest : (rest.find? (·.1 == key)).map (·.2) = some value := by
            simpa [hkey] using h
          simp [setEntry, hkey, ih hrest]

/-- Pairs with keys that are all different and not there yet go behind the entries of a table. -/
theorem entries_foldl_set (pairs : List (κ × α)) (table : Table κ α)
    (h : (table.entries ++ pairs).Pairwise fun a b => (a.1 == b.1) = false) :
    (pairs.foldl (fun table pair => table.set pair.1 pair.2) table).entries =
      table.entries ++ pairs := by
  induction pairs generalizing table with
  | nil => exact (List.append_nil _).symm
  | cons pair rest ih =>
      have hpair : (table.set pair.1 pair.2).entries = table.entries ++ [pair] :=
        setEntry_of_forall_ne pair.2 fun e he =>
          (List.pairwise_append.mp h).2.2 e he pair List.mem_cons_self
      rw [List.foldl_cons, ih, hpair, List.append_assoc]
      · rfl
      · rw [hpair, List.append_assoc]
        exact h

theorem entries_ofList {pairs : List (κ × α)}
    (h : pairs.Pairwise fun a b => (a.1 == b.1) = false) : (ofList pairs).entries = pairs :=
  entries_foldl_set pairs empty h

theorem ext {a b : Table κ α} (h : a.entries = b.entries) : a = b := by
  cases a
  cases b
  cases h
  rfl

theorem set_of_get? [EquivBEq κ] {table : Table κ α} {key : κ} {value : α}
    (h : table.get? key = some value) : table.set key value = table :=
  ext (setEntry_of_find? h)

theorem set_set_self [EquivBEq κ] (table : Table κ α) (key : κ) (value : α) :
    (table.set key value).set key value = table.set key value :=
  set_of_get? (get?_set_self table key value)

/-- Of pairs with different keys, each one decides the value of its key. -/
theorem get?_foldl_set_of_mem [EquivBEq κ] {pairs : List (κ × α)}
    (h : pairs.Pairwise fun a b => (a.1 == b.1) = false) (table : Table κ α) {pair : κ × α}
    (hpair : pair ∈ pairs) :
    (pairs.foldl (fun table pair => table.set pair.1 pair.2) table).get? pair.1 =
      some pair.2 := by
  induction pairs generalizing table with
  | nil => cases hpair
  | cons first rest ih =>
      obtain ⟨hfirst, hrest⟩ := List.pairwise_cons.mp h
      rcases List.mem_cons.mp hpair with rfl | hpair
      · have hnone : rest.reverse.find? (·.1 == pair.1) = none := by
          rw [List.find?_eq_none]
          intro later hlater
          rw [Bool.not_eq_true, BEq.comm]
          exact hfirst later (List.mem_reverse.mp hlater)
        rw [List.foldl_cons, get?_foldl_set, hnone, get?_set_self]
        rfl
      · exact ih hrest (table.set first.1 first.2) hpair

/-- Setting keys to the values they have leaves the table as it is. -/
theorem foldl_set_of_get? [EquivBEq κ] {pairs : List (κ × α)} {table : Table κ α}
    (h : ∀ pair ∈ pairs, table.get? pair.1 = some pair.2) :
    pairs.foldl (fun table pair => table.set pair.1 pair.2) table = table := by
  induction pairs with
  | nil => rfl
  | cons first rest ih =>
      rw [List.foldl_cons, set_of_get? (h first List.mem_cons_self)]
      exact ih fun pair hpair => h pair (List.mem_cons_of_mem _ hpair)

theorem ofList_entries (table : Table κ α) : ofList table.entries = table :=
  ext (entries_ofList table.distinct)

end Table

end TraceRelay
