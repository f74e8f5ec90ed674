import TraceRelay.Session
import TraceRelay.Proofs.Carrier.Written
import TraceRelay.Proofs.CloudHeader.Writing

/-!
# What injection writes

Injection of a valid span sets the cloud trace header, which states the decision that the flags of
the span record, except for the deferred parent, which keeps its decision open
(`injectedDecision_eq`). For a span that is not valid this header is not set
(`writes_of_not_isValid`). Whether a span is the deferred parent is decided by comparing all parts,
and for a marker without a trace state that comparison is equality (`isDeferredParent_iff`). The
combined propagator writes the W3C headers behind it, so that from an empty table a propagator
leaves what it has sent and nothing else (`inject_empty`).
-/

set_option autoImplicit false

namespace TraceRelay

/-- Only the empty table is the same map as the empty table. -/
theorem Table.sameMap_empty_iff {κ : Type*} {α : Type*} [BEq κ] [BEq α] {table : Table κ α} :
    sameMap ∅ table = true ↔ table = ∅ := by
  constructor
  · intro h
    have hsize : table.entries.length = 0 := by
      simp only [sameMap, Bool.and_eq_true, beq_iff_eq] at h
      exact h.1.symm
    exact Table.ext (List.eq_nil_of_length_eq_zero hsize)
  · rintro rfl
    rfl

/-- Comparing with a span context that has no trace state is equality. -/
theorem SpanContext.same_iff {marker span : SpanContext} (h : marker.state = ∅) :
    marker.same span = true ↔ marker = span := by
  obtain ⟨trace, id, isRemote, flags, state⟩ := marker
  obtain ⟨trace', id', isRemote', flags', state'⟩ := span
  obtain rfl : state = ∅ := h
  simp only [same, Bool.and_eq_true, beq_iff_eq, Table.sameMap_empty_iff, SpanContext.mk.injEq,
    and_assoc, @eq_comm _ (∅ : TraceState)]

/-- A span is the deferred parent when it equals the marker in every part. -/
theorem Context.isDeferredParent_iff {context : Context} {span : SpanContext}
    (h : ∀ marker, context.deferredParent = some marker → marker.state = ∅) :
    context.isDeferredParent (some span) = true ↔ context.deferredParent = some span := by
  rw [isDeferredParent]
  cases hmarker : context.deferredParent with
  | none => simp [SpanContext.sameOption]
  | some marker =>
      rw [SpanContext.sameOption, SpanContext.same_iff (h marker hmarker), Option.some.injEq]

/-- A parent without a trace state is the deferred parent of the context it was put into when it was
put there as one, and no other span is. -/
theorem Context.isDeferredParent_withRemote {span : SpanContext} (hstate : span.state = ∅)
    (base : Context) (deferred : Bool) (other : SpanContext) :
    (base.withRemote (some span) deferred).isDeferredParent (some other) = true ↔
      deferred = true ∧ other = span := by
  rw [isDeferredParent_iff]
  · cases deferred with
    | false => simp [withRemote]
    | true => simp [withRemote, eq_comm]
  · intro marker hmarker
    cases deferred with
    | false => cases hmarker
    | true =>
        cases hmarker
        exact hstate

namespace CloudHeader

/-- The decision that the header of a context states for its span. -/
def injectedDecision (context : Context) (span : SpanContext) : Decision :=
  (statedDecision context).getD (.ofFlags span.flags)

theorem writes_of_isValid {context : Context} {span : SpanContext}
    (hspan : context.span = some span) (hvalid : span.isValid = true) :
    writes context = .ok [(name, String.ofList
      (writtenFields span (injectedDecision context span)).join)] := by
  obtain ⟨-, hpos, hsmall⟩ := SpanContext.isValid_iff.mp hvalid
  have hwrite := write_eq_join (statedDecision context)
    (natAbs_lt_of_isSpanId (by omega) hsmall)
  simp only [writes, hspan, hvalid, if_true, hwrite]
  rfl

theorem writes_of_not_isValid {context : Context} {span : SpanContext}
    (hspan : context.span = some span) (h : span.isValid = false) : writes context = .ok [] := by
  simp only [writes, hspan, h]
  rfl

/-- The deferred parent keeps its decision open, and any other span states that of its flags. -/
theorem injectedDecision_eq {context : Context} {span : SpanContext}
    (hspan : context.span = some span) :
    injectedDecision context span =
      if context.isDeferredParent (some span) then .deferred else .ofFlags span.flags := by
  rw [injectedDecision, statedDecision, hspan]
  split
  · rfl
  · rfl

theorem injectedDecision_of_eq {context : Context} {span : SpanContext}
    (hspan : context.span = some span)
    (hstate : ∀ marker, context.deferredParent = some marker → marker.state = ∅)
    (h : context.deferredParent = some span) :
    injectedDecision context span = .deferred := by
  rw [injectedDecision_eq hspan, if_pos ((Context.isDeferredParent_iff hstate).mpr h)]

theorem injectedDecision_of_ne {context : Context} {span : SpanContext}
    (hspan : context.span = some span)
    (hstate : ∀ marker, context.deferredParent = some marker → marker.state = ∅)
    (h : context.deferredParent ≠ some span) :
    injectedDecision context span = .ofFlags span.flags := by
  rw [injectedDecision_eq hspan, if_neg (mt (Context.isDeferredParent_iff hstate).mp h)]

/-- The part of a header that states the decision of flags. -/
def flagsSuffix (flags : Int) : List Char :=
  if flags % 2 = 1 then [';', 'o', '=', '1'] else [';', 'o', '=', '0']

theorem suffixChars_ofFlags (flags : Int) :
    suffixChars (.ofFlags flags) = flagsSuffix flags ∧ Decision.ofFlags flags ≠ .deferred := by
  rw [Decision.ofFlags, flagsSuffix]
  split
  · exact ⟨rfl, by decide⟩
  · exact ⟨rfl, by decide⟩

/-- The header that is injected, written out: the identifiers of the span, and the decision of its
flags unless the span is the deferred parent. -/
theorem join_injected {context : Context} {span : SpanContext} (hspan : context.span = some span) :
    (writtenFields span (injectedDecision context span)).join =
      identifierChars span ++
        if context.isDeferredParent (some span) then [] else flagsSuffix span.flags := by
  rw [join_writtenFields, injectedDecision_eq hspan]
  split
  · rfl
  · rw [(suffixChars_ofFlags span.flags).1]

end CloudHeader

namespace Propagator

variable {context : Context} {span : SpanContext}

/-- The headers that a propagator writes behind the cloud trace header. -/
def furtherWrites (span : SpanContext) : Propagator → List Carrier.Write
  | .cloud => []
  | .combined => TraceParent.writes span

/-- For a valid span the cloud trace header is written first, whatever the propagator. -/
theorem writes_of_isValid (propagator : Propagator) (hspan : context.span = some span)
    (hvalid : span.isValid = true) :
    propagator.writes context =
      .ok ((CloudHeader.name, String.ofList (CloudHeader.writtenFields span
        (CloudHeader.injectedDecision context span)).join) :: propagator.furtherWrites span) := by
  rw [writes, CloudHeader.writes_of_isValid hspan hvalid, hspan]
  cases propagator <;> rfl

/-- For a span that is not valid a propagator writes what it writes behind the cloud trace
header. -/
theorem writes_of_not_isValid (propagator : Propagator) (hspan : context.span = some span)
    (h : span.isValid = false) :
    propagator.writes context = .ok (propagator.furtherWrites span) := by
  rw [writes, CloudHeader.writes_of_not_isValid hspan h, hspan]
  cases propagator <;> rfl

theorem inject_of_writes_nil {propagator : Propagator} (h : propagator.writes context = .ok [])
    (table : Headers) : propagator.inject (.headers table) context = .ok (.headers table) := by
  rw [inject, h]
  rfl

/-- Three names are written at most, each one once and in this order. -/
theorem sublist_names (propagator : Propagator) (line : String) (span : SpanContext) :
    (((CloudHeader.name, line) :: propagator.furtherWrites span).map Prod.fst).Sublist
      [CloudHeader.name, TraceParent.name, TraceState.name] := by
  apply List.Sublist.cons_cons
  cases propagator with
  | cloud => exact List.nil_sublist _
  | combined =>
      rw [furtherWrites, TraceParent.writes]
      split
      · exact List.nil_sublist _
      · apply List.Sublist.cons_cons
        split
        · exact List.nil_sublist _
        · exact List.Sublist.refl _

theorem pairwise_writes (propagator : Propagator) (line : String) (span : SpanContext) :
    ((CloudHeader.name, line) :: propagator.furtherWrites span).Pairwise fun a b => a.1 ≠ b.1 := by
  have hdistinct : [CloudHeader.name, TraceParent.name, TraceState.name].Pairwise (· ≠ ·) := by
    decide
  exact List.pairwise_map.mp (hdistinct.sublist (propagator.sublist_names line span))

/-- The headers that a propagator leaves in an empty table for a span, with a line for the cloud
trace header. -/
def sent (propagator : Propagator) (line : String) (span : SpanContext) : Headers :=
  .written ((CloudHeader.name, line) :: propagator.furtherWrites span)

/-- Injecting a valid span into an empty table. -/
theorem inject_empty (propagator : Propagator) (hspan : context.span = some span)
    (hvalid : span.isValid = true) :
    propagator.inject (.headers ∅) context =
      .ok (.headers (propagator.sent (String.ofList (CloudHeader.writtenFields span
        (CloudHeader.injectedDecision context span)).join) span)) := by
  rw [inject, propagator.writes_of_isValid hspan hvalid]
  exact Carrier.setAll_empty _

theorem isTextual_sent (propagator : Propagator) (line : String) (span : SpanContext) :
    (propagator.sent line span).IsTextual :=
  Headers.isTextual_written (propagator.pairwise_writes line span)

theorem get?_sent (propagator : Propagator) (line : String) (span : SpanContext) :
    (propagator.sent line span).get? (.text CloudHeader.name) = some (.text line) := by
  rw [sent, Headers.get?_written (propagator.pairwise_writes line span)]
  simp

theorem inject_cloud (hspan : context.span = some span) (hvalid : span.isValid = true)
    (table : Headers) :
    cloud.inject (.headers table) context =
      .ok (.headers (table.set (.text CloudHeader.name) (.text (String.ofList
        (CloudHeader.writtenFields span (CloudHeader.injectedDecision context span)).join)))) := by
  rw [inject, cloud.writes_of_isValid hspan hvalid]
  rfl

end Propagator

/-- In a session a propagator injects as it does by itself, and the headers it set are told. -/
theorem Session.inject_of_propagator {session : Session} {choice : Session.Choice}
    {reference : Session.Reference} {context : Context} {carrier after : Carrier}
    {writes : List Carrier.Write} (hcontext : session.resolve reference = context)
    (hwrites : (session.propagatorOf choice).writes context = .ok writes)
    (hinject : (session.propagatorOf choice).inject carrier context = .ok after) :
    session.inject choice carrier reference = .ok (.injected after writes) := by
  have hset : carrier.setAll writes = .ok after := by
    rw [Propagator.inject, hwrites] at hinject
    exact hinject
  rw [inject, hcontext, hwrites]
  simp only [bind, Except.bind, hset]
  rfl

/-- Injecting the cloud trace header for a valid span sets it in the table. -/
theorem Session.inject_cloud {session : Session} {reference : Session.Reference}
    {context : Context} {span : SpanContext} (hcontext : session.resolve reference = context)
    (hspan : context.span = some span) (hvalid : span.isValid = true) (table : Headers) :
    let header := String.ofList (CloudHeader.writtenFields span
      (CloudHeader.injectedDecision context span)).join
    session.inject .cloud (.headers table) reference =
      .ok (.injected (.headers (table.set (.text CloudHeader.name) (.text header)))
        [(CloudHeader.name, header)]) := by
  intro header
  exact inject_of_propagator hcontext (Propagator.cloud.writes_of_isValid hspan hvalid)
    (Propagator.inject_cloud hspan hvalid table)

end TraceRelay
