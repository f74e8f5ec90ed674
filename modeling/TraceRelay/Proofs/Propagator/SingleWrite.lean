import TraceRelay.Proofs.CloudHeader.Canonical
import TraceRelay.Proofs.Propagator.Injection

/-!
# One header is written

Injection of the cloud trace header writes one line for a valid span and nothing for any other one.
The line is bounded in length and form (`CloudHeader.isWritten_writtenFields`), whatever integers
the identifiers might be, since only identifiers in range get as far as that. In the table that one
entry changes (`Headers.setsOnly_set`), so injecting once more changes nothing, and all ways to
inject this header come to the same (`Propagator.inject_cloud_sets_only`).
-/

set_option autoImplicit false

namespace TraceRelay

/-! ## The line -/

namespace CloudHeader

open Numeral

/-- The fields have the form in which spans are written: 32 hexadecimal digits, a decimal numeral of
at most 20 digits that does not start with a zero, and no suffix or one that states a decision. -/
structure Fields.IsWritten (fields : Fields) : Prop where
  trace : fields.trace.length = 32 ∧ IsRow 16 fields.trace
  span : fields.span ≠ [] ∧ fields.span.length ≤ 20 ∧ IsRow 10 fields.span
  head : fields.span.head? ≠ some '0'
  suffix : fields.suffix = none ∨ fields.suffix = some ['o', '=', '0'] ∨
    fields.suffix = some ['o', '=', '1']

/-- The fields that are written for a valid span have this form. -/
theorem isWritten_writtenFields {span : SpanContext} (hvalid : span.isValid = true)
    (decision : Decision) : (writtenFields span decision).IsWritten := by
  obtain ⟨htrace, hpos, hsmall⟩ := SpanContext.isValid_iff.mp hvalid
  have hnonneg : 0 ≤ span.spanId := by omega
  have hfield : IsTraceField (writtenFields span decision).trace :=
    isTraceField_hex_iff.mpr htrace
  refine ⟨⟨hfield.length_eq, hfield.digits⟩, ?_, ?_, ?_⟩
  · refine ⟨decimal_ne_nil hnonneg, ?_, isRow_decimal hnonneg⟩
    exact length_decimal_le (by omega) hnonneg (by omega)
  · exact head?_decimal_ne_zero (by omega)
  · cases decision with
    | deferred => exact Or.inl rfl
    | notSampled => exact Or.inr (Or.inl rfl)
    | sampled => exact Or.inr (Or.inr rfl)

end CloudHeader

/-! ## The entry -/

/-- The second table is the first one with a text under a name: at the place of the name when it is
there, and behind all other entries when it is not. -/
structure Headers.SetsOnly (headers after : Headers) (name line : String) : Prop where
  replaced : ∀ before old behind, headers.entries = before ++ (.text name, old) :: behind →
    after.entries = before ++ (.text name, .text line) :: behind
  added : (∀ entry ∈ headers.entries, entry.1 ≠ .text name) →
    after.entries = headers.entries ++ [(.text name, .text line)]

/-- Setting a header to a text does nothing else. -/
theorem Headers.setsOnly_set (headers : Headers) (name line : String) :
    headers.SetsOnly (headers.set (.text name) (.text line)) name line where
  replaced before old behind hentries := by
    have hdistinct := headers.distinct
    rw [hentries] at hdistinct
    have hbefore : ∀ e ∈ before, (e.1 == Key.text name) = false := fun e he =>
      (List.pairwise_append.mp hdistinct).2.2 e he _ List.mem_cons_self
    have hset : Table.setEntry (Key.text name) (Value.text line)
        (before ++ (Key.text name, old) :: behind) = before ++ (.text name, .text line) :: behind :=
      Table.setEntry_append_cons _ hbefore BEq.rfl
    rw [← hentries] at hset
    exact hset
  added hnone := by
    apply Table.setEntry_of_forall_ne
    intro e he
    rw [Bool.eq_false_iff]
    exact mt Key.beq_text_iff.mp (hnone e he)

/-! ## The injection -/

/-- However the cloud trace header of a context is injected into a table, the second table comes of
it, with the same headers set: by the propagator for this header, by a client, and in a session by
these two and by a propagator that is built without the W3C headers. -/
structure Context.InjectsTo (context : Context) (headers after : Headers)
    (writes : List Carrier.Write) : Prop where
  toWrites : Propagator.cloud.writes context = .ok writes
  byPropagator : Propagator.cloud.inject (.headers headers) context = .ok (.headers after)
  byClient : Outbound.inject (.headers headers) context = .ok (.headers after)
  inSession : ∀ (session : Session) (reference : Session.Reference),
    session.resolve reference = context →
      session.inject .cloud (.headers headers) reference =
        .ok (.injected (.headers after) writes) ∧
      session.inject .client (.headers headers) reference =
        .ok (.injected (.headers after) writes)
  whenBuilt : ∀ (session : Session) (reference : Session.Reference) (value : Value),
    session.resolve reference = context → session.settings.choose value = false →
      (session.step (.build value)).1.inject .built (.headers headers) reference =
        .ok (.injected (.headers after) writes)

namespace Propagator

variable {context : Context} {span : SpanContext}

/-- All these ways use one propagator. -/
theorem injectsTo_of_inject {headers after : Headers} {writes : List Carrier.Write}
    (hwrites : cloud.writes context = .ok writes)
    (hinject : cloud.inject (.headers headers) context = .ok (.headers after)) :
    context.InjectsTo headers after writes where
  toWrites := hwrites
  byPropagator := hinject
  byClient := hinject
  inSession session reference hcontext :=
    ⟨Session.inject_of_propagator hcontext hwrites hinject,
      Session.inject_of_propagator hcontext hwrites hinject⟩
  whenBuilt session reference value hcontext hvalue := by
    have hresolve : (session.step (.build value)).1.resolve reference = context := by
      rw [← hcontext]
      rfl
    have hbuilt : (session.step (.build value)).1.propagatorOf .built = .cloud := by
      simp only [Session.step, Session.propagatorOf, Session.propagatorFor, hvalue]
      rfl
    apply Session.inject_of_propagator hresolve
    · rw [hbuilt]
      exact hwrites
    · rw [hbuilt]
      exact hinject

/-- Injection of the cloud trace header returns for every context with a span, whatever integers its
identifiers and flags are, and for every table, in whichever way it is done. Injecting once more
changes nothing. When both identifiers are positive and fit their widths, one header is set: its
line has the form of written spans and is read with the same identifiers, and the table changes in
this entry only. Otherwise nothing is set and the table stays as it is. -/
theorem inject_cloud_sets_only (hspan : context.span = some span) (headers : Headers) :
    ∃ (writes : List Carrier.Write) (after : Headers),
      context.InjectsTo headers after writes ∧ context.InjectsTo after after writes ∧
      (0 < span.traceId ∧ span.traceId < 2 ^ 128 ∧ 0 < span.spanId ∧ span.spanId < 2 ^ 64 →
        ∃ (line : String) (fields : CloudHeader.Fields) (decision : Decision),
          writes = [(CloudHeader.name, line)] ∧
          line.toList = fields.join ∧ fields.IsWritten ∧
          CloudHeader.read (.text line) =
            .ok ⟨.remote span.traceId span.spanId decision, decision⟩ ∧
          headers.SetsOnly after CloudHeader.name line) ∧
      (¬ (0 < span.traceId ∧ span.traceId < 2 ^ 128 ∧ 0 < span.spanId ∧ span.spanId < 2 ^ 64) →
        writes = [] ∧ after = headers) := by
  have hrange : span.isValid = true ↔
      0 < span.traceId ∧ span.traceId < 2 ^ 128 ∧ 0 < span.spanId ∧ span.spanId < 2 ^ 64 := by
    rw [SpanContext.isValid_iff]
    omega
  rw [← hrange]
  -- The guard of injection asks for both ranges before anything is formatted.
  by_cases hvalid : span.isValid = true
  · obtain ⟨htrace, hpos, hsmall⟩ := SpanContext.isValid_iff.mp hvalid
    have hwrites := cloud.writes_of_isValid hspan hvalid
    refine ⟨_, _, injectsTo_of_inject hwrites (inject_cloud hspan hvalid headers),
      injectsTo_of_inject hwrites ?_, ?_, fun hnot => absurd hvalid hnot⟩
    · rw [inject_cloud hspan hvalid, Table.set_set_self]
    · intro _
      exact ⟨_, _, _, rfl, String.toList_ofList, CloudHeader.isWritten_writtenFields hvalid _,
        CloudHeader.read_written htrace ⟨by omega, hsmall⟩ _, headers.setsOnly_set _ _⟩
  · have hwrites := cloud.writes_of_not_isValid hspan (Bool.eq_false_iff.mpr hvalid)
    have hinject := inject_of_writes_nil hwrites headers
    exact ⟨_, headers, injectsTo_of_inject hwrites hinject, injectsTo_of_inject hwrites hinject,
      fun hnot => absurd hnot hvalid, fun _ => ⟨rfl, rfl⟩⟩

/-- A table with an older header between others, one of them with the same name in capitals. -/
def staleHeaders : Headers := Table.ofList
  [(.text "accept", .text "*/*"),
    (.text CloudHeader.name, .text "00000000000000000000000000000002/6;o=0"),
    (.text "X-Cloud-Trace-Context", .text "00000000000000000000000000000002/7;o=0")]

/-- The greatest identifiers are written in the place of an older header. -/
theorem inject_maxIds_sets_only :
    ∃ (context : Context) (line : String) (after : Headers),
      context.span = some ⟨2 ^ 128 - 1, 2 ^ 64 - 1, false, -1, ∅⟩ ∧
      context.InjectsTo staleHeaders after [(CloudHeader.name, line)] ∧
      context.InjectsTo after after [(CloudHeader.name, line)] ∧
      after.entries =
        [(.text "accept", .text "*/*"), (.text CloudHeader.name, .text line),
          (.text "X-Cloud-Trace-Context", .text "00000000000000000000000000000002/7;o=0")] := by
  have hspan : ({ span := some ⟨2 ^ 128 - 1, 2 ^ 64 - 1, false, -1, ∅⟩ } : Context).span =
      some ⟨2 ^ 128 - 1, 2 ^ 64 - 1, false, -1, ∅⟩ := rfl
  obtain ⟨writes, after, hinjects, hagain, hvalid, -⟩ := inject_cloud_sets_only hspan staleHeaders
  obtain ⟨line, fields, decision, rfl, -, -, -, hsets⟩ := hvalid (by decide)
  exact ⟨_, line, after, hspan, hinjects, hagain,
    hsets.replaced [(.text "accept", .text "*/*")] _ _ rfl⟩

end Propagator

end TraceRelay
