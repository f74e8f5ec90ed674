import TraceRelay.Proofs.Propagator.Injection
import TraceRelay.Proofs.Propagator.Replacement

/-!
# The fields of a propagator

The fields that a propagator tells of are its footprint. Extraction from two tables that hold the
same under these names comes to the same (`extract_congr_fields`), and injection changes no entry
with another name (`exists_inject`). None of them is told of in vain: each one is read and set by
the propagator, and no other name is (`mem_fields_iff_reads`, `mem_fields_iff_sets`).
-/

set_option autoImplicit false

namespace TraceRelay

/-! ## Changes under some names -/

/-- The name is none of the fields. -/
def Key.isOther (fields : List String) (key : Key) : Bool :=
  fields.all fun field => !(key == .text field)

theorem Key.isOther_of_beq {fields : List String} {field : String} {key : Key}
    (hfield : field ∈ fields) (h : (key == .text field) = true) : key.isOther fields = false := by
  rw [isOther, List.all_eq_false]
  exact ⟨field, hfield, by simp [h]⟩

/-- The second table is the first one with values changed under the names of some fields, and new
entries for such names behind all others. The entries with other names are the same in both, in the
same order. -/
structure Headers.ChangesOnly (headers after : Headers) (fields : List String) : Prop where
  keys : headers.keys <+: after.keys
  others : after.entries.filter (fun entry => entry.1.isOther fields) =
    headers.entries.filter fun entry => entry.1.isOther fields

namespace Headers

variable {headers : Headers} {fields : List String}

theorem changesOnly_set {field : String} (hfield : field ∈ fields) (value : Value) :
    headers.ChangesOnly (headers.set (.text field) value) fields where
  keys := Table.keys_setEntry _ _ _
  others := Table.filter_setEntry (fun _ => Key.isOther_of_beq hfield) _ _

/-- Setting fields one after the other changes these fields only. -/
theorem changesOnly_after {writes : List Carrier.Write} (h : ∀ write ∈ writes, write.1 ∈ fields) :
    headers.ChangesOnly (headers.after writes) fields := by
  induction writes generalizing headers with
  | nil => exact ⟨List.prefix_rfl, rfl⟩
  | cons write rest ih =>
      -- The other writes go on from the table that the first one left.
      let next : Headers := headers.set (.text write.1) (.text write.2)
      have hfirst : headers.ChangesOnly next fields :=
        changesOnly_set (h write List.mem_cons_self) _
      have hrest : next.ChangesOnly (next.after rest) fields :=
        ih fun other hother => h other (List.mem_cons_of_mem _ hother)
      exact ⟨hfirst.keys.trans hrest.keys, hrest.others.trans hfirst.others⟩

/-- What stands under a name that is none of the fields is the same in both tables. -/
theorem ChangesOnly.get?_eq {after : Headers} (h : headers.ChangesOnly after fields)
    {field : String} (hfield : field ∉ fields) :
    after.get? (.text field) = headers.get? (.text field) := by
  have htest : ∀ entry : Key × Value,
      decide (entry.1.isOther fields = true ∧ (entry.1 == .text field) = true) =
        (entry.1 == .text field) := by
    intro entry
    cases hname : entry.1 == .text field with
    | false => simp
    | true =>
        have hother : Key.isOther fields (.text field) = true := by
          simp only [Key.isOther, List.all_eq_true, Key.text_beq_text]
          intro other hother
          have hne : field ≠ other := by
            rintro rfl
            exact hfield hother
          simp [hne]
        simp [Key.beq_text_iff.mp hname, hother]
  have hfind : ∀ table : Headers, (table.entries.filter fun entry =>
      entry.1.isOther fields).find? (·.1 == .text field) =
        table.entries.find? (·.1 == .text field) := by
    intro table
    rw [List.find?_filter, funext htest]
  rw [Table.get?, Table.get?, ← hfind after, ← hfind headers, h.others]

theorem after_after {writes : List Carrier.Write} (h : writes.Pairwise fun a b => a.1 ≠ b.1) :
    (headers.after writes).after writes = headers.after writes :=
  Table.foldl_set_of_get? fun _ hentry =>
    Table.get?_foldl_set_of_mem (pairwise_entriesOf h) headers hentry

end Headers

/-! ## Extraction -/

theorem TraceParent.read_congr {headers other : Headers}
    (hparent : other.get? (.text name) = headers.get? (.text name))
    (hstate : other.get? (.text TraceState.name) = headers.get? (.text TraceState.name)) :
    read (.headers other) = read (.headers headers) := by
  have hvalues : (Carrier.headers other).values TraceState.name =
      (Carrier.headers headers).values TraceState.name := by
    simp only [Carrier.values, Carrier.headersFor, bind, Except.bind, hstate]
  simp only [read, Carrier.firstValue_headers, hparent, hvalues]

namespace Propagator

variable {headers : Headers} {propagator : Propagator}

theorem name_mem_fields (propagator : Propagator) : CloudHeader.name ∈ propagator.fields := by
  cases propagator <;> simp [fields]

theorem mem_fields_combined {field : String} : field ∈ combined.fields ↔
    field = TraceParent.name ∨ field = TraceState.name ∨ field = CloudHeader.name := by
  simp [fields]

/-- The two tables hold the same values under the names of the fields, or none in both. -/
def AgreesOn (fields : List String) (headers other : Headers) : Prop :=
  ∀ field ∈ fields, other.get? (.text field) = headers.get? (.text field)

/-- Of a table, extraction sees what stands under the fields of the propagator. -/
theorem extract_congr_fields {other : Headers} (h : AgreesOn propagator.fields headers other)
    (logFailures : Bool) (base : Context) :
    propagator.extract logFailures (.headers other) base =
      propagator.extract logFailures (.headers headers) base := by
  have hcloud : CloudHeader.extract logFailures (.headers other) base =
      CloudHeader.extract logFailures (.headers headers) base := by
    apply CloudHeader.extract_congr_first
    rw [h CloudHeader.name propagator.name_mem_fields]
  cases propagator with
  | cloud => exact hcloud
  | combined =>
      have hread : TraceParent.read (.headers other) = TraceParent.read (.headers headers) :=
        TraceParent.read_congr (h _ (mem_fields_combined.mpr (Or.inl rfl)))
          (h _ (mem_fields_combined.mpr (Or.inr (Or.inl rfl))))
      simp only [extract, hcloud, TraceParent.extract, hread]

/-! ## Injection -/

/-- For every span the headers that are set are fields of the propagator, each one set once. -/
theorem exists_writes {context : Context} {span : SpanContext} (propagator : Propagator)
    (hspan : context.span = some span) :
    ∃ writes, propagator.writes context = .ok writes ∧
      (∀ write ∈ writes, write.1 ∈ propagator.fields) ∧
      writes.Pairwise fun a b => a.1 ≠ b.1 := by
  have hfurther : ∀ write ∈ propagator.furtherWrites span, write.1 ∈ propagator.fields := by
    cases propagator with
    | cloud => exact fun write hwrite => nomatch hwrite
    | combined =>
        intro write hwrite
        have hname : write.1 ∈ [CloudHeader.name, TraceParent.name, TraceState.name] :=
          (combined.sublist_names "" span).subset
            (List.mem_map_of_mem (List.mem_cons_of_mem _ hwrite))
        simp only [List.mem_cons, List.not_mem_nil, or_false] at hname
        apply mem_fields_combined.mpr
        rcases hname with hcloud | hparent | hstate
        · exact Or.inr (Or.inr hcloud)
        · exact Or.inl hparent
        · exact Or.inr (Or.inl hstate)
  cases hvalid : span.isValid with
  | true =>
      refine ⟨_, propagator.writes_of_isValid hspan hvalid, ?_, propagator.pairwise_writes _ _⟩
      rintro write (- | ⟨-, hwrite⟩)
      · exact propagator.name_mem_fields
      · exact hfurther write hwrite
  | false =>
      exact ⟨_, propagator.writes_of_not_isValid hspan hvalid, hfurther,
        (propagator.pairwise_writes "" span).of_cons⟩

/-- Injection of any span returns, changes entries under the fields of the propagator only, and
changes nothing when it is done once more. -/
theorem exists_inject {context : Context} {span : SpanContext} (propagator : Propagator)
    (hspan : context.span = some span) (headers : Headers) :
    ∃ after, propagator.inject (.headers headers) context = .ok (.headers after) ∧
      headers.ChangesOnly after propagator.fields ∧
      propagator.inject (.headers after) context = .ok (.headers after) := by
  obtain ⟨writes, hwrites, hfields, hdifferent⟩ := propagator.exists_writes hspan
  have hinject : ∀ table : Headers, propagator.inject (.headers table) context =
      .ok (.headers (table.after writes)) := by
    intro table
    rw [inject, hwrites]
    exact Carrier.setAll_headers table writes
  refine ⟨headers.after writes, hinject headers, Headers.changesOnly_after hfields, ?_⟩
  rw [hinject, Headers.after_after hdifferent]

/-! ## No field in vain -/

/-- Whether there is a value under the name can make a difference to extraction. -/
def Reads (propagator : Propagator) (field : String) : Prop :=
  ∃ (headers : Headers) (value : Value),
    (propagator.extract false (.headers (headers.set (.text field) value)) .root).result ≠
      (propagator.extract false (.headers headers) .root).result

/-- Injection of some context into a table with nothing under the name leaves a value under it. -/
def Sets (propagator : Propagator) (field : String) : Prop :=
  ∃ (context : Context) (headers after : Headers),
    headers.get? (.text field) = none ∧
      propagator.inject (.headers headers) context = .ok (.headers after) ∧
      (after.get? (.text field)).isSome = true

/-- A header that describes a span. -/
def parentLine : String := "00-0000000000000000000000000000000a-000000000000000b-01"

/-- Whether the span of an extracted context came from elsewhere, and the size of its state. -/
def spanView (result : Except Fault Context) : Option (Bool × Nat) :=
  (result.toOption.bind (·.span)).map fun span => (span.isRemote, span.state.size)

/-- Extraction reads each field. -/
theorem reads_of_mem_fields {field : String} (h : field ∈ propagator.fields) :
    propagator.Reads field := by
  have hcloud : propagator.Reads CloudHeader.name := by
    -- A header makes the span one from elsewhere, which it is not without any.
    refine ⟨∅, .text "0000000000000000000000000000000a/11;o=1", fun heq => ?_⟩
    have hview := congrArg spanView heq
    cases propagator <;> revert hview <;> decide
  cases propagator with
  | cloud =>
      obtain rfl := List.mem_singleton.mp h
      exact hcloud
  | combined =>
      rcases mem_fields_combined.mp h with rfl | rfl | rfl
      · refine ⟨∅, .text parentLine, fun heq => ?_⟩
        have hview := congrArg spanView heq
        revert hview
        decide
      · refine ⟨Table.ofList [(.text TraceParent.name, .text parentLine)], .text "vendor=1",
          fun heq => ?_⟩
        have hview := congrArg spanView heq
        revert hview
        decide
      · exact hcloud

/-- A name is a field of the propagator exactly when extraction reads it. -/
theorem mem_fields_iff_reads {field : String} :
    field ∈ propagator.fields ↔ propagator.Reads field := by
  refine ⟨reads_of_mem_fields, ?_⟩
  rintro ⟨headers, value, hdiffers⟩
  by_contra hfield
  apply hdiffers
  have hagrees : AgreesOn propagator.fields headers (headers.set (.text field) value) := by
    intro other hother
    apply Table.get?_set_of_ne
    rw [Key.text_beq_text]
    apply decide_eq_false
    rintro rfl
    exact hfield hother
  rw [extract_congr_fields hagrees]

/-- A valid span with a trace state, for which all headers are set. -/
def statefulSpan : SpanContext := ⟨10, 11, false, 1, Table.ofList [("vendor", "1")]⟩

/-- Injection sets each field in an empty table. -/
theorem sets_of_mem_fields {field : String} (h : field ∈ propagator.fields) :
    propagator.Sets field := by
  have hspan : ({ span := some statefulSpan } : Context).span = some statefulSpan := rfl
  refine ⟨_, ∅, _, rfl, propagator.inject_empty hspan (by decide), ?_⟩
  cases propagator with
  | cloud =>
      obtain rfl := List.mem_singleton.mp h
      rw [get?_sent]
      rfl
  | combined =>
      rcases mem_fields_combined.mp h with rfl | rfl | rfl
      · rw [sent, Headers.get?_written (combined.pairwise_writes _ statefulSpan)]
        rfl
      · rw [sent, Headers.get?_written (combined.pairwise_writes _ statefulSpan)]
        rfl
      · rw [get?_sent]
        rfl

/-- A name is a field of the propagator exactly when injection sets it for some context. -/
theorem mem_fields_iff_sets {field : String} :
    field ∈ propagator.fields ↔ propagator.Sets field := by
  refine ⟨sets_of_mem_fields, ?_⟩
  rintro ⟨context, headers, after, hnone, hinject, hsome⟩
  by_contra hfield
  cases hspan : context.span with
  | none =>
      simp only [inject, Propagator.writes, CloudHeader.writes, hspan, bind, Except.bind]
        at hinject
      cases hinject
  | some span =>
      obtain ⟨table, htable, hchanges, -⟩ := propagator.exists_inject hspan headers
      rw [htable] at hinject
      cases hinject
      rw [hchanges.get?_eq hfield, hnone] at hsome
      cases hsome

/-- The fields are the footprint of a propagator. Extraction over the same base comes to the same,
records included, for two tables of any values that hold the same under the names of the fields.
Injection returns for every context with a span, whatever integers its identifiers and flags are,
and for every table: no key is lost, entries change and come under the names of the fields only, all
others stay with their values in their order, and injecting once more changes nothing. The fields
are also no more than that: each of them is read, and is set in a table without it. All this holds
of every propagator that is built, with the W3C headers or without. -/
theorem fields_exact (propagator : Propagator) :
    (∃ includeTraceContext, including includeTraceContext = propagator) ∧
    (∀ headers other : Headers, AgreesOn propagator.fields headers other →
      ∀ (logFailures : Bool) (base : Context),
        propagator.extract logFailures (.headers other) base =
          propagator.extract logFailures (.headers headers) base) ∧
    (∀ (context : Context) (span : SpanContext), context.span = some span →
      ∀ headers : Headers, ∃ after,
        propagator.inject (.headers headers) context = .ok (.headers after) ∧
        headers.ChangesOnly after propagator.fields ∧
        propagator.inject (.headers after) context = .ok (.headers after)) ∧
    ∀ field, (field ∈ propagator.fields ↔ propagator.Reads field) ∧
      (field ∈ propagator.fields ↔ propagator.Sets field) := by
  refine ⟨?_, ?_, ?_, ?_⟩
  · cases propagator with
    | cloud => exact ⟨false, rfl⟩
    | combined => exact ⟨true, rfl⟩
  · intro headers other hagrees logFailures base
    exact extract_congr_fields hagrees logFailures base
  · intro context span hspan headers
    exact propagator.exists_inject hspan headers
  · intro field
    exact ⟨mem_fields_iff_reads, mem_fields_iff_sets⟩

/-- Headers with a null for the cloud trace header, among others. -/
def refusedHeaders : Headers := Table.ofList
  [(.text "accept", .text "*/*"), (.text CloudHeader.name, .list [.null]),
    (.text TraceParent.name, .text parentLine)]

/-- The same fields in another order, with a second spelling between them. -/
def reorderedHeaders : Headers := Table.ofList
  [(.text TraceParent.name, .text parentLine), (.text "X-Cloud-Trace-Context", .text "/"),
    (.text CloudHeader.name, .list [.null])]

/-- The two tables come to the same, and a span is injected between the entries of one. -/
theorem reorderedHeaders_extract :
    AgreesOn combined.fields refusedHeaders reorderedHeaders ∧
    combined.extract true (.headers reorderedHeaders) .root =
      combined.extract true (.headers refusedHeaders) .root ∧
    ∃ after, combined.inject (.headers refusedHeaders) { span := some statefulSpan } =
        .ok (.headers after) ∧
      refusedHeaders.ChangesOnly after combined.fields ∧
      combined.inject (.headers after) { span := some statefulSpan } = .ok (.headers after) := by
  obtain ⟨-, hextract, hinject, -⟩ := fields_exact combined
  have hagrees : AgreesOn combined.fields refusedHeaders reorderedHeaders := by
    intro field hfield
    rcases mem_fields_combined.mp hfield with rfl | rfl | rfl <;> rfl
  exact ⟨hagrees, hextract _ _ hagrees true .root, hinject _ statefulSpan rfl _⟩

end Propagator

end TraceRelay
