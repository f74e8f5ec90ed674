import TraceRelay.Proofs.CloudHeader.Canonical
import TraceRelay.Proofs.Propagator.Extraction
import TraceRelay.Proofs.Propagator.Injection
import TraceRelay.Proofs.TraceParent.Writing

/-!
# Headers that are sent together agree

The combined propagator writes a span twice, and the two headers do not say the same. The cloud
trace header keeps the lowest bit of the flags and an open decision. The traceparent keeps all
flags, and it can be read only when they fit into eight bits (`describes_sent_iff`), in which case
it is also short enough to be looked at (`TraceParent.length_write_le`). Whoever reads the headers,
with either propagator, gets the same parent up to the other flags and the trace state
(`extract_sent`), and passes on the same cloud trace header (`inject_combined_agrees`).
-/

set_option autoImplicit false

namespace TraceRelay

/-- A valid span stands for a span, so a traceparent is written for it. -/
theorem TraceParent.writes_of_isValid {span : SpanContext} (h : span.isValid = true) :
    writes span = (name, write span) ::
      if span.state.isEmpty then [] else [(TraceState.name, TraceState.write span.state)] := by
  have hsame : ¬ span.same .invalid = true := by
    intro hsame
    simp only [SpanContext.same, Bool.and_eq_true, beq_iff_eq] at hsame
    have hid : span.spanId = 0 := hsame.1.1.1.2
    have hpos := (SpanContext.isValid_iff.mp h).2.1
    omega
  rw [writes, if_neg hsame]

/-- The flags that record a decision of flags are the lowest bit of these. -/
theorem Decision.flags_ofFlags (flags : Int) : (ofFlags flags).flags = flags % 2 := by
  rw [ofFlags]
  split
  · rename_i hodd
    exact hodd.symm
  · have heven : flags % 2 = 0 := by omega
    exact heven.symm

namespace Propagator

/-! ## What was sent in the W3C headers -/

section Sent

variable {propagator : Propagator} {line : String} {span : SpanContext}

theorem entries_sent_combined (line : String) (h : span.isValid = true) :
    (combined.sent line span).entries = Headers.entriesOf ((CloudHeader.name, line) ::
      (TraceParent.name, TraceParent.write span) ::
        if span.state.isEmpty then [] else [(TraceState.name, TraceState.write span.state)]) := by
  rw [sent, Headers.entries_written (combined.pairwise_writes line span), furtherWrites,
    TraceParent.writes_of_isValid h]
  rfl

/-- The line of the traceparent that was sent for a valid span. -/
theorem firstText?_traceparent_sent (h : span.isValid = true) :
    (propagator.sent line span).firstText? TraceParent.name =
      match propagator with
      | .cloud => none
      | .combined => some (TraceParent.write span) := by
  rw [sent, Headers.firstText?_written (propagator.pairwise_writes line span)]
  cases propagator with
  | cloud => rfl
  | combined =>
      rw [furtherWrites, TraceParent.writes_of_isValid h]
      rfl

/-- The trace state that was sent for a valid span. None is sent when it is empty. -/
theorem get?_traceState_sent (h : span.isValid = true) :
    (combined.sent line span).get? (.text TraceState.name) =
      if span.state.isEmpty then none else some (.text (TraceState.write span.state)) := by
  rw [sent, Headers.get?_written (combined.pairwise_writes line span), furtherWrites,
    TraceParent.writes_of_isValid h]
  cases span.state.isEmpty with
  | true => rfl
  | false => rfl

/-- Whether a trace state was sent or not, its text is that of the state. -/
theorem textOf_sent (h : span.isValid = true) :
    TraceState.textOf (combined.sent line span) = TraceState.format span.state := by
  rw [TraceState.textOf, Headers.texts, get?_traceState_sent h]
  cases hempty : span.state.isEmpty with
  | true =>
      have hnil : span.state.entries = [] := List.isEmpty_iff.mp hempty
      rw [TraceState.format, hnil]
      rfl
  | false =>
      rw [if_neg Bool.false_ne_true]
      show TraceState.joined [TraceState.write span.state] = TraceState.format span.state
      rw [TraceState.joined, List.map_singleton, List.intercalate_singleton, TraceState.write,
        String.toList_ofList]

/-- When the W3C headers that were sent for a valid span describe one, they were sent at all, the
flags have eight bits, and what they describe is this span, as one that was received, with the trace
state that is read back. -/
theorem of_describes_sent (h : span.isValid = true) {received : SpanContext}
    (hdescribes : TraceParent.Describes (propagator.sent line span) received) :
    propagator = .combined ∧ (0 ≤ span.flags ∧ span.flags < 256) ∧
      ∃ state, received = ⟨span.traceId, span.spanId, true, span.flags, state⟩ ∧
        TraceState.Describes (TraceState.format span.state) state := by
  obtain ⟨text, parts, state, hfirst, -, hparts, hstate, rfl⟩ := hdescribes
  rw [firstText?_traceparent_sent h] at hfirst
  cases propagator with
  | cloud => cases hfirst
  | combined =>
      cases hfirst
      rw [TraceParent.write, String.toList_ofList] at hparts
      have hflags := (TraceParent.isSpelledBy_format_iff h).mp ⟨parts, hparts⟩
      -- The written parts are spelled out by the same line, and a line says one thing only.
      have hparent : parts.parent = (TraceParent.writtenParts span).parent := by
        apply Option.some.inj
        rw [← TraceParent.parse?_of_isSpelledBy hparts, TraceParent.parse?_of_isSpelledBy
          (TraceParent.isSpelledBy_writtenParts h hflags)]
      rw [textOf_sent h] at hstate
      refine ⟨rfl, hflags, state, ?_, hstate⟩
      rw [hparent, TraceParent.spanContext_writtenParts h hflags.1]

/-- The W3C headers that were sent for a valid span describe one exactly when the flags have eight
bits. -/
theorem describes_sent_iff (h : span.isValid = true) :
    (∃ received, TraceParent.Describes (propagator.sent line span) received) ↔
      propagator = .combined ∧ 0 ≤ span.flags ∧ span.flags < 256 := by
  constructor
  · rintro ⟨received, hdescribes⟩
    obtain ⟨hcombined, hflags, -⟩ := of_describes_sent h hdescribes
    exact ⟨hcombined, hflags⟩
  · rintro ⟨rfl, hflags⟩
    refine ⟨_, TraceParent.write span, TraceParent.writtenParts span, _,
      firstText?_traceparent_sent h, TraceParent.length_write_le h hflags, ?_,
      TraceState.ofText_eq_iff.mp rfl, rfl⟩
    rw [TraceParent.write, String.toList_ofList]
    exact TraceParent.isSpelledBy_writtenParts h hflags

/-- Both propagators carry the W3C headers, and the traceparent that one of them sends can be read
by the other one. -/
def TraceParentCounts (reader sender : Propagator) (span : SpanContext) : Prop :=
  reader = .combined ∧ sender = .combined ∧ 0 ≤ span.flags ∧ span.flags < 256

/-- What a reader receives of a span that was sent together with the header of a parent. -/
inductive Received (reader sender : Propagator) (span parent : SpanContext) : SpanContext → Prop
  /-- The header was read. -/
  | header (hcounts : ¬ TraceParentCounts reader sender span) :
      Received reader sender span parent parent
  /-- The W3C headers were read. -/
  | traceParent {state : TraceState} (hcounts : TraceParentCounts reader sender span)
      (hstate : TraceState.Describes (TraceState.format span.state) state) :
      Received reader sender span parent ⟨span.traceId, span.spanId, true, span.flags, state⟩

theorem Received.eq_parent {reader sender : Propagator} {parent received : SpanContext}
    (h : Received reader sender span parent received)
    (hparent : parent = ⟨span.traceId, span.spanId, true, span.flags, ∅⟩)
    (hstate : span.state = ∅) : received = parent := by
  cases h with
  | header hcounts => rfl
  | traceParent hcounts hdescribes =>
      rw [hstate] at hdescribes
      rw [hparent, TraceState.eq_of_describes_format TraceState.isAcceptable_empty hdescribes]

/-- Either propagator extracts the parent that the line describes, except that the W3C headers may
put the span that was sent in the place of its span. -/
theorem extract_sent (reader sender : Propagator) (h : span.isValid = true)
    {parent : CloudHeader.Parent} (hread : CloudHeader.read (.text line) = .ok parent)
    (logFailures : Bool) (base : Context) :
    ∃ received : SpanContext,
      (reader.extract logFailures (.headers (sender.sent line span)) base).result =
        .ok { base.withRemote (some parent.span) (parent.decision == .deferred) with
          span := some received } ∧
      Received reader sender span parent.span received := by
  have htexts : (sender.sent line span).HoldsTexts := (sender.isTextual_sent line span).values
  have hfirst : (Carrier.headers (sender.sent line span)).firstValue CloudHeader.name =
      .ok (some (.text line)) := by
    rw [htexts.firstValue_eq, Headers.firstText?, get?_sent]
    rfl
  have hcloud : (CloudHeader.extract logFailures (.headers (sender.sent line span)) base).result =
      .ok (base.withRemote (some parent.span) (parent.decision == .deferred)) :=
    congrArg Outcome.result (CloudHeader.extract_of_read hfirst hread)
  cases reader with
  | cloud =>
      refine ⟨parent.span, hcloud, .header ?_⟩
      rintro ⟨hreader, -⟩
      cases hreader
  | combined =>
      obtain ⟨hnone, hsome⟩ := extract_combined htexts hcloud
      by_cases hdescribes : ∃ received, TraceParent.Describes (sender.sent line span) received
      · obtain ⟨received, hreceived⟩ := hdescribes
        obtain ⟨hsender, hflags, state, rfl, hstate⟩ := of_describes_sent h hreceived
        exact ⟨_, hsome _ hreceived, .traceParent ⟨rfl, hsender, hflags⟩ hstate⟩
      · refine ⟨parent.span, hnone ?_, .header ?_⟩
        · intro received hreceived
          exact hdescribes ⟨received, hreceived⟩
        · rintro ⟨-, hsends⟩
          exact hdescribes ((describes_sent_iff h).mpr hsends)

end Sent

/-! ## What is passed on -/

section Passed

variable {context result : Context} {span received : SpanContext}

/-- Contexts that agree in the identifiers and the lowest bit of the flags of their spans, and in
whether the span is the deferred parent, pass on the same header. -/
theorem inject_cloud_congr (hspan : context.span = some span)
    (hreceived : result.span = some received) (hvalid : span.isValid = true)
    (htrace : received.traceId = span.traceId) (hid : received.spanId = span.spanId)
    (hflags : received.flags % 2 = span.flags % 2)
    (hdeferred : result.isDeferredParent (some received) = context.isDeferredParent (some span))
    (table : Headers) :
    cloud.inject (.headers table) result =
      .ok (.headers (table.set (.text CloudHeader.name) (.text (String.ofList
        (CloudHeader.writtenFields span (CloudHeader.injectedDecision context span)).join)))) := by
  have hreceivedValid : received.isValid = true := by
    rw [SpanContext.isValid_iff, htrace, hid]
    exact SpanContext.isValid_iff.mp hvalid
  have hdecision : CloudHeader.injectedDecision result received =
      CloudHeader.injectedDecision context span := by
    rw [CloudHeader.injectedDecision_eq hspan, CloudHeader.injectedDecision_eq hreceived,
      hdeferred, Decision.ofFlags, Decision.ofFlags, hflags]
  have hfields : ∀ decision, CloudHeader.writtenFields received decision =
      CloudHeader.writtenFields span decision := by
    intro decision
    rw [CloudHeader.writtenFields, CloudHeader.writtenFields, htrace, hid]
  rw [inject_cloud hreceived hreceivedValid, hdecision, hfields]

/-- The injected decision keeps the lowest bit of the flags, of which a deferred parent has none. -/
theorem flags_injectedDecision (hspan : context.span = some span)
    (hopen : context.isDeferredParent (some span) = true → span.flags = 0 ∧ span.state = ∅) :
    (CloudHeader.injectedDecision context span).flags = span.flags % 2 := by
  rw [CloudHeader.injectedDecision_eq hspan]
  split
  · rename_i hdeferred
    rw [(hopen hdeferred).1]
    rfl
  · exact Decision.flags_ofFlags span.flags

section Received

variable {reader sender : Propagator} {decision : Decision}

/-- What is received of a span that was sent with its own header is remote and has its identifiers.
Where the traceparent counts, the flags are kept and so is an acceptable state. Otherwise the lowest
bit of the flags is left. -/
theorem Received.parts_eq (hflags : decision.flags = span.flags % 2)
    (h : Received reader sender span (.remote span.traceId span.spanId decision) received) :
    (received.isRemote = true ∧ received.traceId = span.traceId ∧
        received.spanId = span.spanId) ∧
      (TraceParentCounts reader sender span → received.flags = span.flags ∧
        (span.state.IsAcceptable → received.state = span.state)) ∧
      (¬ TraceParentCounts reader sender span →
        received.flags = span.flags % 2 ∧ received.state = ∅) := by
  cases h with
  | header hnot =>
      refine ⟨⟨rfl, rfl, rfl⟩, ?_, fun _ => ⟨hflags, rfl⟩⟩
      intro hcounts
      exact absurd hcounts hnot
  | traceParent hcounts hdescribes =>
      refine ⟨⟨rfl, rfl, rfl⟩, fun _ => ⟨rfl, ?_⟩, ?_⟩
      · intro hstate
        exact TraceState.eq_of_describes_format hstate hdescribes
      · intro hnot
        exact absurd hcounts hnot

/-- What is received of a span that was sent with its own header is the deferred parent when the
span is, whichever of the two headers it comes from, provided that a deferred parent has neither
flags nor a trace state. -/
theorem Received.isDeferredParent_eq (hspan : context.span = some span)
    (hopen : context.isDeferredParent (some span) = true → span.flags = 0 ∧ span.state = ∅)
    (base : Context) (hdecision : decision = CloudHeader.injectedDecision context span)
    (h : Received reader sender span (.remote span.traceId span.spanId decision) received) :
    Context.isDeferredParent
        { base.withRemote (some (.remote span.traceId span.spanId decision))
            (decision == .deferred) with span := some received } (some received) =
      context.isDeferredParent (some span) := by
  rw [CloudHeader.injectedDecision_eq hspan] at hdecision
  cases hdeferred : context.isDeferredParent (some span) with
  | false =>
      rw [hdeferred, if_neg Bool.false_ne_true] at hdecision
      subst hdecision
      rw [beq_false_of_ne (CloudHeader.suffixChars_ofFlags span.flags).2]
      rfl
  | true =>
      -- Without flags and state the two headers describe one and the same span.
      obtain ⟨hflags, hstate⟩ := hopen hdeferred
      rw [hdeferred, if_pos rfl] at hdecision
      subst hdecision
      have hremote : SpanContext.remote span.traceId span.spanId .deferred =
          ⟨span.traceId, span.spanId, true, span.flags, ∅⟩ := by
        rw [hflags]
        rfl
      obtain rfl := h.eq_parent hremote hstate
      exact (SpanContext.same_iff rfl).mpr rfl

end Received

/-- The two headers that are injected together agree. Let the span of a context be valid, and if it
is the deferred parent, let it have neither flags nor a trace state. Into an empty table the
propagator that is built with the W3C headers writes the cloud trace header, a traceparent and,
unless it is empty, the trace state. The W3C headers describe a span when the flags fit into eight
bits. From this table, either propagator extracts a remote span with the same identifiers and the
same lowest bit of the flags. All flags are kept, and an acceptable trace state with them, when the
reader looks at W3C headers that describe a span; otherwise no bit but the lowest is left. The span
is the deferred parent of its context exactly when the span that was injected is that of its own,
and the cloud trace header that is injected for it is the one that was sent. -/
theorem inject_combined_agrees (hspan : context.span = some span) (hvalid : span.isValid = true)
    (hopen : context.isDeferredParent (some span) = true → span.flags = 0 ∧ span.state = ∅) :
    ∃ (table : Headers) (header : String),
      (including true).inject (.headers ∅) context = .ok (.headers table) ∧
      table.entries = Headers.entriesOf ((CloudHeader.name, header) ::
        (TraceParent.name, TraceParent.write span) ::
          if span.state.isEmpty then [] else [(TraceState.name, TraceState.write span.state)]) ∧
      table.get? (.text CloudHeader.name) = some (.text header) ∧
      ((∃ described, TraceParent.Describes table described) ↔
        0 ≤ span.flags ∧ span.flags < 256) ∧
      ∀ (reader : Propagator) (logFailures : Bool) (base : Context),
        ∃ (result : Context) (received : SpanContext),
          (reader.extract logFailures (.headers table) base).result = .ok result ∧
          result.span = some received ∧ received.isRemote = true ∧
          received.traceId = span.traceId ∧ received.spanId = span.spanId ∧
          received.flags % 2 = span.flags % 2 ∧
          (reader = including true ∧ 0 ≤ span.flags ∧ span.flags < 256 →
            received.flags = span.flags ∧
              (span.state.IsAcceptable → received.state = span.state)) ∧
          (¬ (reader = including true ∧ 0 ≤ span.flags ∧ span.flags < 256) →
            received.flags = span.flags % 2 ∧ received.state = ∅) ∧
          result.isDeferredParent (some received) = context.isDeferredParent (some span) ∧
          ∀ other : Headers, cloud.inject (.headers other) result =
            .ok (.headers (other.set (.text CloudHeader.name) (.text header))) := by
  obtain ⟨htrace, hid⟩ := SpanContext.isValid_iff.mp hvalid
  have hread := CloudHeader.read_written htrace ⟨by omega, hid.2⟩
    (CloudHeader.injectedDecision context span)
  have hdescribed := fun line => @describes_sent_iff combined line span hvalid
  simp only [true_and] at hdescribed
  refine ⟨_, _, combined.inject_empty hspan hvalid, entries_sent_combined _ hvalid,
    get?_sent _ _ _, hdescribed _, ?_⟩
  intro reader logFailures base
  obtain ⟨received, hextract, hreceived⟩ :=
    extract_sent reader combined hvalid hread logFailures base
  have hdecision := flags_injectedDecision hspan hopen
  obtain ⟨⟨hremote, hreceivedTrace, hreceivedId⟩, hwide, hnarrow⟩ :=
    hreceived.parts_eq hdecision
  have hmarker := hreceived.isDeferredParent_eq hspan hopen base rfl
  have hcounts : TraceParentCounts reader combined span ↔
      reader = including true ∧ 0 ≤ span.flags ∧ span.flags < 256 := by
    simp [TraceParentCounts, including]
  have hflags : received.flags % 2 = span.flags % 2 := by
    by_cases h : TraceParentCounts reader combined span
    · rw [(hwide h).1]
    · rw [(hnarrow h).1, Int.emod_emod_of_dvd _ (dvd_refl 2)]
  rw [hcounts] at hwide hnarrow
  exact ⟨_, received, hextract, rfl, hremote, hreceivedTrace, hreceivedId, hflags, hwide, hnarrow,
    hmarker, inject_cloud_congr hspan rfl hvalid hreceivedTrace hreceivedId hflags hmarker⟩

/-- A sampled span that was started under a deferred parent with the same identifiers. Its flags do
not fit into eight bits. -/
def wideContext : Context where
  span := some ⟨1, 5, false, 257, Table.ofList [("vendor", "entry")]⟩
  deferredParent := some ⟨1, 5, true, 0, ∅⟩

/-- A span with flags that are more than its sampled bit, and with a trace state. -/
def sampledContext : Context where
  span := some ⟨1, 5, false, 3, Table.ofList [("vendor", "entry")]⟩

/-- A deferred parent. -/
def openContext : Context where
  span := some ⟨1, 5, true, 0, ∅⟩
  deferredParent := some ⟨1, 5, true, 0, ∅⟩

/-- The traceparent of wide flags is refused, and their lowest bit is read all the same. Narrower
flags come with the trace state to a reader of the W3C headers, and as one bit to the other one. A
deferred parent is read as one from either header. -/
theorem inject_wideContext_agrees :
    (∃ (table : Headers) (header : String),
      (including true).inject (.headers ∅) wideContext = .ok (.headers table) ∧
      ∀ reader : Propagator, ∃ (result : Context) (received : SpanContext),
        (reader.extract false (.headers table) .root).result = .ok result ∧
        result.span = some received ∧ received.flags = 1 ∧
        result.isDeferredParent (some received) = false ∧
        cloud.inject (.headers ∅) result =
          .ok (.headers (Table.set ∅ (.text CloudHeader.name) (.text header)))) ∧
    (∃ table : Headers,
      (including true).inject (.headers ∅) sampledContext = .ok (.headers table) ∧
      (∃ result received, (combined.extract true (.headers table) wideContext).result =
        .ok result ∧ result.span = some received ∧ received.flags = 3 ∧
        received.state = Table.ofList [("vendor", "entry")]) ∧
      ∃ result received, (cloud.extract true (.headers table) wideContext).result = .ok result ∧
        result.span = some received ∧ received.flags = 1 ∧ received.state = ∅) ∧
    ∃ table : Headers,
      (including true).inject (.headers ∅) openContext = .ok (.headers table) ∧
      ∀ reader : Propagator, ∃ (result : Context) (received : SpanContext),
        (reader.extract false (.headers table) .root).result = .ok result ∧
        result.span = some received ∧ received.flags = 0 ∧
        result.isDeferredParent (some received) = true := by
  refine ⟨?_, ?_, ?_⟩
  · have hspan : wideContext.span =
        some ⟨1, 5, false, 257, Table.ofList [("vendor", "entry")]⟩ := rfl
    have hstarted : ¬ wideContext.isDeferredParent
        (some ⟨1, 5, false, 257, Table.ofList [("vendor", "entry")]⟩) = true := by decide
    obtain ⟨table, header, hinject, -, -, -, hagrees⟩ := inject_combined_agrees hspan (by decide)
      fun hdeferred => absurd hdeferred hstarted
    refine ⟨table, header, hinject, ?_⟩
    intro reader
    obtain ⟨result, received, hextract, hreceived, -, -, -, -, -, hflags, hdeferred, hpassed⟩ :=
      hagrees reader false .root
    exact ⟨result, received, hextract, hreceived, (hflags (by simp)).1,
      hdeferred.trans (Bool.eq_false_iff.mpr hstarted), hpassed ∅⟩
  · have hspan : sampledContext.span =
        some ⟨1, 5, false, 3, Table.ofList [("vendor", "entry")]⟩ := rfl
    have hstate : TraceState.IsAcceptable (Table.ofList [("vendor", "entry")]) :=
      ⟨by
        intro entry hentry
        obtain rfl : entry = ("vendor", "entry") := List.mem_singleton.mp hentry
        exact TraceState.entry?_eq_some_iff.mp (by decide), by decide, by decide⟩
    obtain ⟨table, header, hinject, -, -, -, hagrees⟩ := inject_combined_agrees hspan (by decide)
      fun hdeferred => nomatch hdeferred
    refine ⟨table, hinject, ?_, ?_⟩
    · obtain ⟨result, received, hextract, hreceived, -, -, -, -, hkept, -⟩ :=
        hagrees combined true wideContext
      obtain ⟨hflags, hkeeps⟩ := hkept (by decide)
      exact ⟨result, received, hextract, hreceived, hflags, hkeeps hstate⟩
    · obtain ⟨result, received, hextract, hreceived, -, -, -, -, -, hbit, -⟩ :=
        hagrees cloud true wideContext
      obtain ⟨hflags, hnone⟩ := hbit (by decide)
      exact ⟨result, received, hextract, hreceived, hflags, hnone⟩
  · have hspan : openContext.span = some ⟨1, 5, true, 0, ∅⟩ := rfl
    obtain ⟨table, header, hinject, -, -, -, hagrees⟩ := inject_combined_agrees hspan (by decide)
      fun _ => ⟨rfl, rfl⟩
    refine ⟨table, hinject, ?_⟩
    intro reader
    obtain ⟨result, received, hextract, hreceived, -, -, -, -, hwide, hnarrow, hdeferred, -⟩ :=
      hagrees reader false .root
    refine ⟨result, received, hextract, hreceived, ?_, hdeferred.trans (by decide)⟩
    cases reader with
    | cloud => exact (hnarrow (by decide)).1
    | combined => exact (hwide (by decide)).1

end Passed

end Propagator

end TraceRelay
