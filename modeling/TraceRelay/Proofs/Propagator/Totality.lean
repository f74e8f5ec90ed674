import TraceRelay.Proofs.Propagator.Extraction

/-!
# When reading texts fails

A refused header is no failure: it decodes to no span, and extraction gives a context without a
usable one. There is one kind of line that fails all the same, since no numeral of more than 4300
digits is read: one that names a trace and has more decimal digits than that behind it. Decoding,
extraction with either propagator and the reader of requests fail on the headers whose line is of
this kind, and on no other textual headers (`returns_iff_not_isOverlong`).
-/

set_option autoImplicit false

namespace TraceRelay

namespace CloudHeader

/-- Behind a field that names a trace, the line has more digits than are read. -/
def IsOverlong (line : List Char) : Prop :=
  ∃ fields : Fields, Text.Trims Text.isBlank line fields.join ∧
    IsTraceField fields.trace ∧ IsOverlongField fields.span

theorem parse_of_isOverlong {line : List Char} (h : IsOverlong line) :
    ∃ digits, parse line = .error (.numeralRead digits) := by
  obtain ⟨fields, htrims, htrace, hspan⟩ := h
  have hcut : fields.IsCut := ⟨htrace.not_mem_slash, hspan.not_mem_semicolon⟩
  refine ⟨fields.span.length, ?_⟩
  rw [parse, htrims.trim_eq]
  exact parseTrimmed_of_isOverlongField hcut htrace hspan

/-- Any other line describes a parent or is refused. -/
theorem parse_of_not_isOverlong {line : List Char} (h : ¬ IsOverlong line) :
    (∃ parent, parse line = .ok parent) ∨ ∃ cause, parse line = .error (.header cause) := by
  have hverdict := verdict_parseTrimmed (Text.trim Text.isBlank line)
  rw [parse]
  generalize parseTrimmed (Text.trim Text.isBlank line) = outcome at hverdict
  cases hverdict with
  | missingSeparator _ => exact Or.inr ⟨_, rfl⟩
  | badTrace _ _ _ _ _ => exact Or.inr ⟨_, rfl⟩
  | badSpan _ _ _ _ _ _ _ => exact Or.inr ⟨_, rfl⟩
  | @overlong fields _ hjoin htrace hspan =>
      have htrims : Text.Trims Text.isBlank line fields.join := by
        rw [hjoin]
        exact Text.trims_trim line
      exact absurd ⟨fields, htrims, htrace, hspan⟩ h
  | parent _ _ _ _ => exact Or.inl ⟨_, rfl⟩

/-- Decoding a text fails on overlong lines only. -/
theorem decode_text_ok_iff (line : String) :
    (∃ found, decode (.text line) = .ok found) ↔ ¬ IsOverlong line.toList := by
  rw [decode, read_text]
  constructor
  · rintro ⟨found, hfound⟩ hlong
    obtain ⟨digits, hparse⟩ := parse_of_isOverlong hlong
    rw [hparse] at hfound
    cases hfound
  · intro hlong
    rcases parse_of_not_isOverlong hlong with ⟨parent, hparse⟩ | ⟨cause, hparse⟩
    · exact ⟨some parent.span, by rw [hparse]⟩
    · exact ⟨none, by rw [hparse]⟩

/-- Extraction from a carrier that has a text first, or none at all, fails on overlong lines
only. -/
theorem extract_ok_iff {carrier : Carrier} {first : Option String}
    (hfirst : carrier.firstValue name = .ok (first.map .text)) (logFailures : Bool)
    (base : Context) :
    (∃ context, (extract logFailures carrier base).result = .ok context) ↔
      ∀ line, first = some line → ¬ IsOverlong line.toList := by
  rw [extract, hfirst]
  cases first with
  | none =>
      constructor
      · intro _ line hline
        cases hline
      · intro _
        exact ⟨base.withEmpty, rfl⟩
  | some line =>
      simp only [Option.map_some, read_text, Option.some.injEq, forall_eq']
      constructor
      · rintro ⟨context, hcontext⟩ hlong
        obtain ⟨digits, hparse⟩ := parse_of_isOverlong hlong
        rw [hparse] at hcontext
        cases hcontext
      · intro hlong
        rcases parse_of_not_isOverlong hlong with ⟨parent, hparse⟩ | ⟨cause, hparse⟩
        · rw [hparse]
          exact ⟨_, rfl⟩
        · rw [hparse]
          exact ⟨base.withEmpty, rfl⟩

end CloudHeader

namespace Propagator

/-- On textual headers both propagators give a context when the extraction of the cloud trace
header does. -/
theorem extract_ok_iff {headers : Headers} (h : headers.IsTextual) (propagator : Propagator)
    (logFailures : Bool) (base : Context) :
    (∃ context, (propagator.extract logFailures (.headers headers) base).result = .ok context) ↔
      ∃ context, (CloudHeader.extract logFailures (.headers headers) base).result =
        .ok context := by
  cases propagator with
  | cloud => exact Iff.rfl
  | combined =>
      rw [result_extract_combined]
      cases (CloudHeader.extract logFailures (.headers headers) base).result with
      | error fault => simp [Except.bind]
      | ok context =>
          obtain ⟨last, hlast⟩ := TraceParent.extract_total h.values context
          exact ⟨fun _ => ⟨context, rfl⟩, fun _ => ⟨last, hlast⟩⟩

end Propagator

/-- Reading texts gives a result unless the line that counts is overlong: the line itself for
decoding, the first text under the name of the header for extraction, and the first text of the
last entry with that name in any letter case for the reader of requests. -/
theorem returns_iff_not_isOverlong (line : String) {headers : Headers} (h : headers.IsTextual)
    (logFailures : Bool) (base : Context) :
    ((∃ found, CloudHeader.decode (.text line) = .ok found) ↔
      ¬ CloudHeader.IsOverlong line.toList) ∧
    (∀ propagator : Propagator,
      (∃ context,
        (propagator.extract logFailures (.headers headers) base).result = .ok context) ↔
      ∀ first, (headers.get? (.text CloudHeader.name)).bind Value.firstText? = some first →
        ¬ CloudHeader.IsOverlong first.toList) ∧
    ((∃ context,
        (Inbound.parentContext logFailures (.headers headers) base).result = .ok context) ↔
      ∀ first, (Inbound.lastHeader? headers.entries).bind Value.firstText? = some first →
        ¬ CloudHeader.IsOverlong first.toList) := by
  refine ⟨CloudHeader.decode_text_ok_iff line, ?_, ?_⟩
  · intro propagator
    rw [Propagator.extract_ok_iff h]
    exact CloudHeader.extract_ok_iff
      (Carrier.firstValue_of_isTextual CloudHeader.name fun _ => h.get?) logFailures base
  · obtain ⟨table, hlowered, hlast⟩ := Inbound.lowered_of_isTextual h
    have htextual : ∀ value, table.get? (.text CloudHeader.name) = some value →
        value.IsTextual := by
      intro value hvalue
      rw [hlast] at hvalue
      exact Inbound.isTextual_of_lastHeader? h hvalue
    rw [Inbound.parentContext, hlowered, ← hlast]
    exact CloudHeader.extract_ok_iff
      (Carrier.firstValue_of_isTextual CloudHeader.name htextual) logFailures base

/-- Headers in which the name of the cloud trace header stands twice, and the second time with a
list. -/
def listedHeaders : Headers :=
  Table.ofList [
    (.text "X-Cloud-Trace-Context", .text "0/0"),
    (.text "x-cloud-trace-context",
      .list (["\t00000000000000000000000000000001/007;o=1", "/"].map .text)),
    (.text "traceparent", .text "00-0")]

theorem listedHeaders_isTextual : listedHeaders.IsTextual := by
  have hentries : listedHeaders.entries = [
      (.text "X-Cloud-Trace-Context", .text "0/0"),
      (.text "x-cloud-trace-context",
        .list (["\t00000000000000000000000000000001/007;o=1", "/"].map .text)),
      (.text "traceparent", .text "00-0")] := rfl
  constructor
  · intro entry hentry
    rw [hentries] at hentry
    simp only [List.mem_cons, List.not_mem_nil, or_false] at hentry
    rcases hentry with rfl | rfl | rfl <;> exact ⟨_, rfl⟩
  · intro entry hentry
    rw [hentries] at hentry
    simp only [List.mem_cons, List.not_mem_nil, or_false] at hentry
    rcases hentry with rfl | rfl | rfl
    · exact .text _
    · exact .list _
    · exact .text _

/-- The two propagators and the reader of requests find the listed line and return. -/
theorem listedHeaders_return :
    listedHeaders.IsTextual ∧
    (∀ propagator : Propagator, ∃ context,
      (propagator.extract true (.headers listedHeaders) .root).result = .ok context) ∧
    ∃ context, (Inbound.parentContext true (.headers listedHeaders) .root).result =
      .ok context := by
  have hdecode : ∃ found,
      CloudHeader.decode (.text "\t00000000000000000000000000000001/007;o=1") = .ok found :=
    ⟨_, rfl⟩
  obtain ⟨hline, hextract, hparent⟩ := returns_iff_not_isOverlong
    "\t00000000000000000000000000000001/007;o=1" listedHeaders_isTextual true .root
  have hshort := hline.mp hdecode
  refine ⟨listedHeaders_isTextual, ?_, ?_⟩
  · intro propagator
    apply (hextract propagator).mpr
    intro first hfirst
    cases hfirst
    exact hshort
  · apply hparent.mpr
    intro first hfirst
    cases hfirst
    exact hshort

/-- A line with 4301 digits behind a trace is not decoded. -/
theorem not_decode_overlong_line :
    ¬ ∃ found, CloudHeader.decode (.text (String.ofList
      (List.replicate 31 '0' ++ '1' :: '/' :: List.replicate 4301 '1'))) = .ok found := by
  rw [CloudHeader.decode_text_ok_iff, not_not, String.toList_ofList]
  refine ⟨⟨List.replicate 31 '0' ++ ['1'], List.replicate 4301 '1', none⟩, ?_, ?_, ?_⟩
  · have hjoin : CloudHeader.Fields.join
        ⟨List.replicate 31 '0' ++ ['1'], List.replicate 4301 '1', none⟩ =
        List.replicate 31 '0' ++ '1' :: '/' :: List.replicate 4301 '1' := by
      simp only [CloudHeader.Fields.join, List.append_nil, List.append_assoc, List.cons_append,
        List.nil_append]
    have hkept : ∀ c ∈ List.replicate 31 '0' ++ '1' :: '/' :: List.replicate 4301 '1',
        Text.isBlank c = false := by
      intro c hc
      simp only [List.mem_append, List.mem_cons, List.mem_replicate] at hc
      rcases hc with ⟨-, rfl⟩ | rfl | rfl | ⟨-, rfl⟩ <;> decide
    rw [hjoin, Text.trims_iff_trim_eq]
    apply Text.trim_eq_self
    · intro c hc
      exact hkept c (List.mem_of_mem_head? hc)
    · intro c hc
      exact hkept c (List.mem_of_mem_getLast? hc)
  · constructor
    · rfl
    · decide
    · exact ⟨'1', by decide, by decide⟩
  · constructor
    · intro c hc
      rw [List.eq_of_mem_replicate hc]
      decide
    · rw [List.length_replicate]
      decide

end TraceRelay
