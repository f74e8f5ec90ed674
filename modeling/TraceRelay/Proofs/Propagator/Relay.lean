import TraceRelay.Proofs.Carrier.Respelling
import TraceRelay.Proofs.Propagator.Agreement

/-!
# Relays

On its way a parent passes through hops. Each one extracts a context from the headers it receives
and injects it into an empty table. It does so with a propagator of its choice, among them the two
that can be built (`Propagator.including`, `Session.propagatorFor_run`), or as a server, which may
receive the names in another letter case and sends its own request as a client. Every hop passes on
what it received, up to the spelling of the first line (`Hop.forward_sent`). So after any number of
hops the header is still that of the parent, also when its decision is open (`relay_keeps_header`).
-/

set_option autoImplicit false

namespace TraceRelay

/-! ## Hops -/

/-- A process that passes on what it receives: with a propagator, such as one that was built with
the W3C headers or without, or as a server that receives the names of headers in some letter case
and sends its own request as a client. It extracts into some context, and refused headers may be
recorded or not. -/
inductive Hop
  | propagate (logFailures : Bool) (propagator : Propagator) (base : Context)
  | serve (logFailures : Bool) (respelling : Respelling) (current : Context)

namespace Hop

/-- The context that a hop extracts from what is sent to it. -/
def extract (received : Carrier) : Hop → Except Fault Context
  | .propagate logFailures propagator base =>
      (propagator.extract logFailures received base).result
  | .serve logFailures respelling current =>
      (Inbound.parentContext logFailures (received.respelled respelling) current).result

/-- The headers that a hop injects a context into, which are none before. -/
def inject (context : Context) : Hop → Except Fault Carrier
  | .propagate _ propagator _ => propagator.inject (.headers ∅) context
  | .serve _ _ _ => Outbound.inject (.headers ∅) context

/-- What a hop sends when it receives a carrier. -/
def forward (hop : Hop) (received : Carrier) : Except Fault Carrier := do
  hop.inject (← hop.extract received)

/-- The propagator that shows in what a hop sends. A server sends as clients do. -/
def sender : Hop → Propagator
  | .propagate _ propagator _ => propagator
  | .serve _ _ _ => .cloud

end Hop

/-- What the hops send, one after the other, when the first one receives a carrier. -/
def relay : List Hop → Carrier → Except Fault (List Carrier)
  | [], _ => .ok []
  | hop :: rest, received => do
      let carrier ← hop.forward received
      let further ← relay rest carrier
      return carrier :: further

/-! ## What was extracted is sent on -/

/-- For a parent that was extracted the decision is stated that was read. -/
theorem CloudHeader.injectedDecision_of_read {value : Value} {parent : Parent}
    (hread : read value = .ok parent) (base : Context) :
    injectedDecision (base.withRemote (some parent.span) (parent.decision == .deferred))
      parent.span = parent.decision := by
  obtain ⟨trace, id, decision, rfl, -⟩ := exists_remote_of_read hread
  rw [injectedDecision_eq rfl]
  cases decision with
  | sampled => rfl
  | notSampled => rfl
  | deferred => exact if_pos ((SpanContext.same_iff rfl).mpr rfl)

/-- The names of headers that were sent are in lower case. -/
theorem Propagator.isLowercase_sent (propagator : Propagator) (line : String)
    (span : SpanContext) : (propagator.sent line span).IsLowercase := by
  have hlower : ∀ name ∈ [CloudHeader.name, TraceParent.name, TraceState.name],
      Text.lowercase name = name := by decide
  intro entry hentry
  rw [sent, Headers.entries_written (propagator.pairwise_writes line span)] at hentry
  obtain ⟨write, hwrite, rfl⟩ := List.mem_map.mp hentry
  have hname := (propagator.sublist_names line span).subset (List.mem_map_of_mem hwrite)
  exact ⟨write.1, rfl, hlower write.1 hname⟩

section Parent

variable {line : String} {parent : CloudHeader.Parent}

/-- From what was sent for a parent a hop extracts this parent, with the marker when its decision is
open. -/
theorem Hop.extract_sent (hread : CloudHeader.read (.text line) = .ok parent)
    (hid : parent.span.spanId ≠ 0) (sender : Propagator) (hop : Hop) :
    ∃ base : Context, hop.extract (.headers (sender.sent line parent.span)) =
      .ok (base.withRemote (some parent.span) (parent.decision == .deferred)) := by
  have hvalid := CloudHeader.isValid_of_read hread hid
  have hpropagator : ∀ (reader : Propagator) (logFailures : Bool) (base : Context),
      (reader.extract logFailures (.headers (sender.sent line parent.span)) base).result =
        .ok (base.withRemote (some parent.span) (parent.decision == .deferred)) := by
    intro reader logFailures base
    obtain ⟨received, hextract, hreceived⟩ :=
      reader.extract_sent sender hvalid hread logFailures base
    obtain ⟨trace, id, decision, rfl, -⟩ := CloudHeader.exists_remote_of_read hread
    -- The parent has no trace state, so both headers describe its span as it is.
    obtain rfl := hreceived.eq_parent rfl rfl
    exact hextract
  cases hop with
  | propagate logFailures propagator base =>
      exact ⟨base, hpropagator propagator logFailures base⟩
  | serve logFailures respelling current =>
      refine ⟨current, ?_⟩
      rw [extract, Inbound.parentContext,
        Inbound.lowered_respelled (sender.isLowercase_sent line parent.span)]
      exact hpropagator .cloud logFailures current

/-- The headers that a hop injects a valid span into are what its propagator sends for the span. -/
theorem Hop.inject_eq_sent (hop : Hop) {context : Context} {span : SpanContext}
    (hspan : context.span = some span) (hvalid : span.isValid = true) :
    hop.inject context = .ok (.headers (hop.sender.sent (String.ofList (CloudHeader.writtenFields
      span (CloudHeader.injectedDecision context span)).join) span)) := by
  cases hop with
  | propagate logFailures propagator base => exact propagator.inject_empty hspan hvalid
  | serve logFailures respelling current =>
      rw [inject, Outbound.inject]
      exact Outbound.propagator.inject_empty hspan hvalid

/-- A hop that receives what was sent for a parent sends the header of the parent, whatever line it
received. -/
theorem Hop.forward_sent (hread : CloudHeader.read (.text line) = .ok parent)
    (hid : parent.span.spanId ≠ 0) (sender : Propagator) (hop : Hop) :
    hop.forward (.headers (sender.sent line parent.span)) =
      .ok (.headers (hop.sender.sent (CloudHeader.headerOf parent) parent.span)) := by
  obtain ⟨base, hextract⟩ := hop.extract_sent hread hid sender
  have hspan : (base.withRemote (some parent.span) (parent.decision == .deferred)).span =
      some parent.span := rfl
  have hinject := hop.inject_eq_sent hspan (CloudHeader.isValid_of_read hread hid)
  rw [CloudHeader.injectedDecision_of_read hread] at hinject
  rw [forward, hextract]
  exact hinject

/-- Every hop of a relay sends the header of the parent. -/
theorem relay_sent (hread : CloudHeader.read (.text line) = .ok parent)
    (hid : parent.span.spanId ≠ 0) (sender : Propagator) (hops : List Hop) :
    relay hops (.headers (sender.sent line parent.span)) = .ok (hops.map fun hop =>
      .headers (hop.sender.sent (CloudHeader.headerOf parent) parent.span)) := by
  -- After the first hop the line is the header of the parent, which describes the parent again.
  induction hops generalizing line sender with
  | nil => rfl
  | cons hop rest ih =>
      rw [relay, hop.forward_sent hread hid, List.map_cons]
      simp only [bind, Except.bind, ih (CloudHeader.read_headerOf hread) hop.sender]
      rfl

/-- Let a line describe a parent with a span identifier other than zero. When the first hop of a
relay receives the line and nothing else, all hops return, and each one sends the header that is
written for the parent with its decision, which describes this parent again. -/
theorem relay_keeps_header (hread : CloudHeader.read (.text line) = .ok parent)
    (hid : parent.span.spanId ≠ 0) (hops : List Hop) :
    ∃ (header : String) (sent : List Carrier),
      CloudHeader.write parent.span (some parent.decision) = .ok header ∧
      CloudHeader.read (.text header) = .ok parent ∧
      relay hops (.headers (Table.ofList [(.text CloudHeader.name, .text line)])) = .ok sent ∧
      sent.length = hops.length ∧
      ∀ carrier ∈ sent, ∃ table : Headers, carrier = .headers table ∧
        table.get? (.text CloudHeader.name) = some (.text header) := by
  refine ⟨CloudHeader.headerOf parent, _, CloudHeader.write_headerOf hread,
    CloudHeader.read_headerOf hread, relay_sent hread hid .cloud hops, List.length_map _, ?_⟩
  intro carrier hcarrier
  obtain ⟨hop, -, rfl⟩ := List.mem_map.mp hcarrier
  exact ⟨_, rfl, Propagator.get?_sent _ _ _⟩

end Parent

/-- The name of the cloud trace header with capitals, and all other names as they are. -/
def capitals : Respelling where
  spell name := if name = CloudHeader.name then "X-Cloud-Trace-Context" else name
  sameLetters := by
    intro name
    split
    · rename_i hname
      rw [hname]
      decide
    · rfl

/-- A parent with an open decision goes through a relay. The contexts that it is extracted into hold
other parents. -/
theorem relay_keeps_open_header :
    CloudHeader.read (.text " 00000000000000000000000000000001/05;") =
      .ok ⟨⟨1, 5, true, 0, ∅⟩, .deferred⟩ ∧
    ∃ (header : String) (sent : List Carrier),
      header.toList = "00000000000000000000000000000001/5".toList ∧
      relay [
          .propagate true (.including true)
            { span := some ⟨1, 5, true, 1, ∅⟩, deferredParent := some ⟨2, 7, true, 0, ∅⟩ },
          .serve false capitals .root,
          .propagate false (.including false) .root]
        (.headers (Table.ofList [(.text CloudHeader.name,
          .text " 00000000000000000000000000000001/05;")])) = .ok sent ∧
      sent.length = 3 ∧
      ∀ carrier ∈ sent, ∃ table : Headers, carrier = .headers table ∧
        table.get? (.text CloudHeader.name) = some (.text header) := by
  have hread : CloudHeader.read (.text " 00000000000000000000000000000001/05;") =
      .ok ⟨⟨1, 5, true, 0, ∅⟩, .deferred⟩ := rfl
  obtain ⟨header, sent, hwrite, -, hrelay, hlength, hsent⟩ := relay_keeps_header hread (by decide)
    [.propagate true (.including true)
        { span := some ⟨1, 5, true, 1, ∅⟩, deferredParent := some ⟨2, 7, true, 0, ∅⟩ },
      .serve false capitals .root,
      .propagate false (.including false) .root]
  cases hwrite
  exact ⟨hread, _, sent, rfl, hrelay, hlength, hsent⟩

end TraceRelay
