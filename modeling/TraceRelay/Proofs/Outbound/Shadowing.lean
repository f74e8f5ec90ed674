import TraceRelay.Proofs.CloudHeader.Canonical
import TraceRelay.Proofs.Inbound.Lookup
import TraceRelay.Proofs.Propagator.Extraction
import TraceRelay.Proofs.Propagator.Injection

/-!
# Headers that shadow what a client injects

A client sets the cloud trace header under its name in lower case. The readers of requests take the
name in any letter case, so they may find an older header instead that stands in the same table with
capitals in its name. The one that goes by the first header is misled by what stands before the
entry that was set, and the one that goes by the last header by what stands behind it
(`Outbound.read_injected_iff`). So not every table is read as it was meant
(`Outbound.not_always_read`).
-/

set_option autoImplicit false

namespace TraceRelay

/-- The two spans have the same identifiers. -/
def SpanContext.SameIds (a b : SpanContext) : Prop :=
  a.traceId = b.traceId ∧ a.spanId = b.spanId

/-! ## The entry that is set -/

namespace Headers

/-- All names and all values are texts. -/
def HoldsLines (headers : Headers) : Prop :=
  ∀ entry ∈ headers.entries, ∃ name line, entry = (.text name, .text line)

/-- The entries before the place of a name. When the name is not there, these are all entries. -/
def before (headers : Headers) (name : String) : List (Key × Value) :=
  headers.entries.takeWhile fun entry => !(entry.1 == .text name)

/-- The entries behind the place of a name. -/
def behind (headers : Headers) (name : String) : List (Key × Value) :=
  (headers.entries.dropWhile fun entry => !(entry.1 == .text name)).tail

variable {headers : Headers}

theorem entries_set (headers : Headers) (name line : String) :
    (headers.set (.text name) (.text line)).entries =
      headers.before name ++ (.text name, .text line) :: headers.behind name := by
  obtain ⟨kept, hkept, hset⟩ :=
    Table.exists_setEntry_eq (.text name) (Value.text line) headers.entries
  obtain rfl := Key.beq_text_iff.mp hkept
  exact hset

/-- Setting a header to a text leaves texts only. -/
theorem HoldsLines.set (h : headers.HoldsLines) (name line : String) :
    Headers.HoldsLines (headers.set (.text name) (.text line)) := by
  intro entry hentry
  rw [entries_set, List.mem_append, List.mem_cons] at hentry
  rcases hentry with hbefore | rfl | hbehind
  · exact h entry ((List.takeWhile_prefix _).subset hbefore)
  · exact ⟨name, line, rfl⟩
  · exact h entry ((List.dropWhile_suffix _).subset (List.mem_of_mem_tail hbehind))

theorem holdsLines_written {writes : List Carrier.Write}
    (h : writes.Pairwise fun a b => a.1 ≠ b.1) : (Headers.written writes).HoldsLines := by
  intro entry hentry
  rw [entries_written h] at hentry
  obtain ⟨write, -, rfl⟩ := List.mem_map.mp hentry
  exact ⟨write.1, write.2, rfl⟩

theorem HoldsLines.names (h : headers.HoldsLines) :
    ∀ entry ∈ headers.entries, ∃ name, entry.1 = .text name := by
  intro entry hentry
  obtain ⟨name, line, rfl⟩ := h entry hentry
  exact ⟨name, rfl⟩

end Headers

/-! ## What the readers find -/

namespace Inbound

theorem lowered_name :
    ((Key.text CloudHeader.name).lowered.toOption == some CloudHeader.name) = true := rfl

/-- The first header is one that stands before an entry with the right name, or else that entry. -/
theorem firstMatch?_append_cons (before behind : List (Key × Value)) (value : Value) :
    firstMatch? (before ++ (.text CloudHeader.name, value) :: behind) =
      some ((firstMatch? before).getD value) := by
  rw [firstMatch?, firstMatch?, List.find?_append]
  cases before.find? fun entry => entry.1.lowered.toOption == some CloudHeader.name with
  | none => simp [lowered_name]
  | some entry => rfl

/-- The last header is one that stands behind an entry with the right name, or else that entry. -/
theorem lastHeader?_append_cons (before behind : List (Key × Value)) (value : Value) :
    lastHeader? (before ++ (.text CloudHeader.name, value) :: behind) =
      some ((lastHeader? behind).getD value) := by
  rw [lastHeader?, lastHeader?, List.reverse_append, List.reverse_cons, List.append_assoc,
    List.find?_append]
  cases behind.reverse.find? fun entry => entry.1.lowered.toOption == some CloudHeader.name with
  | none => simp [lowered_name]
  | some entry => rfl

theorem exists_line_of_lastHeader? {headers : Headers} (h : headers.HoldsLines) {value : Value}
    (hvalue : lastHeader? headers.entries = some value) : ∃ line, value = .text line := by
  obtain ⟨entry, hentry, rfl⟩ := exists_mem_of_lastHeader? hvalue
  obtain ⟨name, line, rfl⟩ := h entry hentry
  exact ⟨line, rfl⟩

end Inbound

namespace CloudHeader

/-- The value describes a parent with the identifiers of the span. -/
def Names (value : Value) (span : SpanContext) : Prop :=
  ∃ parent, read value = .ok parent ∧ parent.span.SameIds span

/-- What is found instead of a value names the span, if there is anything. -/
theorem names_getD_iff {value : Value} {span : SpanContext} (h : Names value span)
    (found : Option Value) :
    Names (found.getD value) span ↔ ∀ older, found = some older → Names older span := by
  cases found with
  | none => simp [h]
  | some older => simp

/-- A value names the span when it is decoded to a span with these identifiers. -/
theorem decode_sameIds_iff (value : Value) (span : SpanContext) :
    (∃ received, decode value = .ok (some received) ∧ received.SameIds span) ↔
      Names value span := by
  rw [decode, Names]
  rcases read value with fault | parent
  · cases fault <;> simp
  · simp

/-- A line that stands under the name of the header names a valid span when it is extracted with
these identifiers. -/
theorem extract_sameIds_iff {headers : Headers} {line : String} {span : SpanContext}
    (hline : headers.get? (.text name) = some (.text line)) (hvalid : span.isValid = true)
    (logFailures : Bool) (base : Context) :
    (∃ context received, (extract logFailures (.headers headers) base).result = .ok context ∧
      context.span = some received ∧ received.SameIds span) ↔ Names (.text line) span := by
  have hfirst : (Carrier.headers headers).firstValue name = .ok (some (.text line)) := by
    rw [Carrier.firstValue_headers, hline]
    rfl
  -- The span that stands for no span has other identifiers than a valid one.
  have hinvalid : ¬ SpanContext.invalid.SameIds span := by
    rintro ⟨htrace, -⟩
    have hpos := (SpanContext.isValid_iff.mp hvalid).1.1
    rw [← htrace] at hpos
    exact absurd hpos (by decide)
  constructor
  · rintro ⟨context, received, hextract, hspan, hids⟩
    cases extracted_of_extract hextract with
    | absent _ =>
        cases hspan
        exact absurd hids hinvalid
    | refused _ _ =>
        cases hspan
        exact absurd hids hinvalid
    | @parent value parent hvalue hread =>
        cases hspan
        rw [hfirst] at hvalue
        cases hvalue
        exact ⟨parent, hread, hids⟩
  · rintro ⟨parent, hread, hids⟩
    exact ⟨_, parent.span, by rw [extract_of_read hfirst hread]; rfl, rfl, hids⟩

end CloudHeader

/-! ## What the client meant -/

namespace Outbound

variable {context : Context} {span : SpanContext}

/-- Let a client inject a valid span into headers that are texts. The reader that goes by the first
header gets the identifiers of this span unless a header before the one that was set, with capitals
in its name, says something else. The reader that goes by the last header gets them unless a header
behind it does. -/
theorem read_injected_iff {headers : Headers} (h : headers.HoldsLines)
    (hspan : context.span = some span) (hvalid : span.isValid = true) :
    ∃ after : Headers, inject (.headers headers) context = .ok (.headers after) ∧
      ((∃ received, Inbound.decode (.headers after) = .ok (some received) ∧
          received.SameIds span) ↔
        ∀ older, Inbound.firstMatch? (headers.before CloudHeader.name) = some older →
          CloudHeader.Names older span) ∧
      ∀ (logFailures : Bool) (current : Context),
        (∃ result received,
          (Inbound.parentContext logFailures (.headers after) current).result = .ok result ∧
            result.span = some received ∧ received.SameIds span) ↔
          ∀ older, Inbound.lastHeader? (headers.behind CloudHeader.name) = some older →
            CloudHeader.Names older span := by
  obtain ⟨htrace, hpos, hsmall⟩ := SpanContext.isValid_iff.mp hvalid
  let header := String.ofList (CloudHeader.writtenFields span
    (CloudHeader.injectedDecision context span)).join
  have hnames : CloudHeader.Names (.text header) span :=
    ⟨_, CloudHeader.read_written htrace ⟨by omega, hsmall⟩ _, rfl, rfl⟩
  have hlines := h.set CloudHeader.name header
  -- Both readers find the line that was written, or an older one that takes its place.
  refine ⟨_, Propagator.inject_cloud hspan hvalid headers, ?_, ?_⟩
  · rw [Inbound.decode_of_names hlines.names, Headers.entries_set, Inbound.firstMatch?_append_cons,
      ← CloudHeader.names_getD_iff hnames]
    exact CloudHeader.decode_sameIds_iff _ span
  · intro logFailures current
    obtain ⟨table, hlast, hextract⟩ := Inbound.parentContext_of_names hlines.names
    rw [Headers.entries_set, Inbound.lastHeader?_append_cons] at hlast
    obtain ⟨line, hline⟩ : ∃ line, (Inbound.lastHeader? (headers.behind CloudHeader.name)).getD
        (.text header) = .text line := by
      apply Inbound.exists_line_of_lastHeader? hlines
      rw [Headers.entries_set, Inbound.lastHeader?_append_cons]
    rw [hline] at hlast
    rw [hextract, ← CloudHeader.names_getD_iff hnames, hline]
    exact CloudHeader.extract_sameIds_iff hlast hvalid logFailures current

/-- Headers with an older cloud trace header among others, and with no capitals in its name. -/
def forwardedHeaders : Headers := .written
  [("Accept", "*/*"), (CloudHeader.name, "00000000000000000000000000000002/6;o=0"),
    ("Host", "example")]

/-- Without capitals in its name an older header is replaced, and both readers get what was
injected. -/
theorem read_injected_forwarded :
    forwardedHeaders.HoldsLines ∧
    ∃ (context : Context) (after : Headers),
      context.span = some ⟨1, 5, false, 1, ∅⟩ ∧ SpanContext.isValid ⟨1, 5, false, 1, ∅⟩ = true ∧
      inject (.headers forwardedHeaders) context = .ok (.headers after) ∧
      (∃ received, Inbound.decode (.headers after) = .ok (some received) ∧
        received.SameIds ⟨1, 5, false, 1, ∅⟩) ∧
      ∃ result received, (Inbound.parentContext false (.headers after) .root).result = .ok result ∧
        result.span = some received ∧ received.SameIds ⟨1, 5, false, 1, ∅⟩ := by
  have hlines : forwardedHeaders.HoldsLines := Headers.holdsLines_written (by decide)
  have hspan : ({ span := some ⟨1, 5, false, 1, ∅⟩ } : Context).span =
      some ⟨1, 5, false, 1, ∅⟩ := rfl
  have hvalid : SpanContext.isValid ⟨1, 5, false, 1, ∅⟩ = true := rfl
  obtain ⟨after, hinject, hfirst, hlast⟩ := read_injected_iff hlines hspan hvalid
  refine ⟨hlines, _, after, hspan, hvalid, hinject, hfirst.mpr ?_, (hlast false .root).mpr ?_⟩
  · intro older holder
    cases holder
  · intro older holder
    cases holder

/-- Headers with older cloud trace headers in three spellings of the name. -/
def capitalHeaders : Headers := .written
  [("X-CLOUD-TRACE-CONTEXT", "00000000000000000000000000000002/6;o=0"),
    (CloudHeader.name, "00000000000000000000000000000002/7;o=0"),
    ("X-Cloud-Trace-Context", "00000000000000000000000000000002/8;o=0")]

/-- What is injected is not always read. In headers with three spellings of the name, both readers
get an older span, and each of them another one. -/
theorem not_always_read :
    (∃ after : Headers,
      inject (.headers capitalHeaders) { span := some ⟨1, 5, false, 1, ∅⟩ } =
        .ok (.headers after) ∧
      Inbound.decode (.headers after) = .ok (some ⟨2, 6, true, 0, ∅⟩) ∧
      (Inbound.parentContext false (.headers after) .root).result =
        .ok { span := some ⟨2, 8, true, 0, ∅⟩ }) ∧
    ¬ ∀ (headers after : Headers) (context : Context) (span : SpanContext), headers.HoldsLines →
        context.span = some span → span.isValid = true →
        inject (.headers headers) context = .ok (.headers after) →
        ∃ received, Inbound.decode (.headers after) = .ok (some received) ∧
          received.SameIds span := by
  have hinject : inject (.headers capitalHeaders) { span := some ⟨1, 5, false, 1, ∅⟩ } =
      .ok (.headers (capitalHeaders.set (.text CloudHeader.name)
        (.text "00000000000000000000000000000001/5;o=1"))) := rfl
  refine ⟨⟨_, hinject, rfl, rfl⟩, ?_⟩
  intro hreads
  obtain ⟨received, hdecode, htrace, -⟩ := hreads capitalHeaders _ _ _
    (Headers.holdsLines_written (by decide)) rfl rfl hinject
  have holder : received = ⟨2, 6, true, 0, ∅⟩ := (Option.some.inj (Except.ok.inj hdecode)).symm
  rw [holder] at htrace
  exact absurd htrace (by decide)

end Outbound

end TraceRelay
