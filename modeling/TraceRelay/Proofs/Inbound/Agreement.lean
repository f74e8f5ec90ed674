import TraceRelay.Proofs.Outbound.Shadowing
import TraceRelay.Proofs.Propagator.Replacement
import TraceRelay.Proofs.Text.LetterCase

/-!
# Where the readers of requests agree

Both readers of requests take the name of the cloud trace header in any letter case, which is the
case of its ASCII letters and no other one (`Text.lowercase_eq_iff_sameLetters`). Of the lines that
stand under the name, one reader decodes the first and the other one extracts the last. From one
line both get the same (`agree_of_line`). So they agree whenever these two lines are equal
(`readers_agree`).
-/

set_option autoImplicit false

namespace TraceRelay

namespace Headers

/-- The line of an entry that has the name in some letter case. -/
def lineUnder? (name : String) : Key × Value → Option String
  | (.text key, .text line) => if Text.SameLetters key name then some line else none
  | _ => none

/-- The lines that stand under a name in any letter case, in order. -/
def linesUnder (headers : Headers) (name : String) : List String :=
  headers.entries.filterMap (lineUnder? name)

/-- Headers with one line at most, under the name of the cloud trace header. -/
def ofLine? : Option String → Headers
  | none => ∅
  | some line => Table.ofList [(.text CloudHeader.name, .text line)]

theorem get?_ofLine? (line : Option String) :
    (ofLine? line).get? (.text CloudHeader.name) = line.map .text := by
  cases line with
  | none => rfl
  | some line => rfl

end Headers

namespace CloudHeader

theorem lowercase_eq_name_iff (key : String) :
    Text.lowercase key = name ↔ Text.SameLetters key name := by
  have hplain : (name.toList.all Text.isPlain) = true := by decide
  exact Text.lowercase_eq_iff_sameLetters (List.all_eq_true.mp hplain)

end CloudHeader

namespace Inbound

/-! ## First and last lines -/

/-- Among entries that are texts, the first one with the right name is the first one with a line
under this name. -/
theorem find?_lowered {entries : List (Key × Value)}
    (h : ∀ entry ∈ entries, ∃ key line, entry = (.text key, .text line)) :
    (entries.find? fun entry => entry.1.lowered.toOption == some CloudHeader.name).map (·.2) =
      (entries.findSome? (Headers.lineUnder? CloudHeader.name)).map .text := by
  induction entries with
  | nil => rfl
  | cons entry rest ih =>
      obtain ⟨key, line, rfl⟩ := h entry List.mem_cons_self
      have hrest := ih fun e he => h e (List.mem_cons_of_mem _ he)
      have hlowered : (Key.text key).lowered.toOption = some (Text.lowercase key) := rfl
      by_cases hkey : Text.SameLetters key CloudHeader.name
      · have hname := (CloudHeader.lowercase_eq_name_iff key).mpr hkey
        simp [hlowered, hname, Headers.lineUnder?, hkey]
      · have hname := mt (CloudHeader.lowercase_eq_name_iff key).mp hkey
        simpa [hlowered, hname, Headers.lineUnder?, hkey] using hrest

variable {headers : Headers}

theorem firstMatch?_eq_head? (h : headers.HoldsLines) :
    firstMatch? headers.entries = (headers.linesUnder CloudHeader.name).head?.map .text := by
  rw [firstMatch?, find?_lowered h, Headers.linesUnder, List.head?_filterMap]

/-- The last entry with the right name holds the last line. -/
theorem lastHeader?_eq_getLast? (h : headers.HoldsLines) :
    lastHeader? headers.entries = (headers.linesUnder CloudHeader.name).getLast?.map .text := by
  have hreverse : ∀ entry ∈ headers.entries.reverse,
      ∃ key line, entry = (.text key, .text line) := by
    intro entry hentry
    exact h entry (List.mem_reverse.mp hentry)
  rw [lastHeader?, find?_lowered hreverse, Headers.linesUnder, List.getLast?_filterMap]

/-! ## One line for both -/

/-- What is decoded is what is extracted: both fail for the same reason, or nothing is decoded and
there is no span in the context, or the span in the context is the one that is decoded. -/
inductive Agree : Except Fault (Option SpanContext) → Except Fault Context → Prop
  | failed (fault : Fault) : Agree (.error fault) (.error fault)
  | nothing {context : Context} (hspan : context.span = some .invalid) :
      Agree (.ok none) (.ok context)
  | parent {span : SpanContext} {context : Context} (hspan : context.span = some span)
      (hne : span ≠ .invalid) : Agree (.ok (some span)) (.ok context)

/-- The span context that a line describes, if there is a line and it is not refused. -/
def decodeLine? : Option String → Except Fault (Option SpanContext)
  | none => .ok none
  | some line => CloudHeader.decode (.text line)

/-- Decoding a line and extracting it come to the same. -/
theorem agree_of_line (line : Option String) (logFailures : Bool) (current : Context) :
    Agree (decodeLine? line)
      (CloudHeader.extract logFailures (.headers (.ofLine? line)) current).result := by
  have hfirst : (Carrier.headers (.ofLine? line)).firstValue CloudHeader.name =
      .ok (line.map .text) := by
    rw [Carrier.firstValue_headers, Headers.get?_ofLine?]
    cases line <;> rfl
  cases line with
  | none =>
      rw [CloudHeader.extract_of_absent hfirst]
      exact .nothing rfl
  | some line =>
      cases hread : CloudHeader.read (.text line) with
      | ok parent =>
          rw [CloudHeader.extract_of_read hfirst hread, decodeLine?,
            CloudHeader.decode_of_read hread]
          obtain ⟨trace, id, decision, rfl, htrace, -⟩ := CloudHeader.exists_remote_of_read hread
          refine .parent rfl ?_
          intro hinvalid
          have hzero : trace = 0 := congrArg SpanContext.traceId hinvalid
          omega
      | error fault =>
          by_cases hheader : ∃ cause, fault = .header cause
          · obtain ⟨cause, rfl⟩ := hheader
            rw [CloudHeader.extract_of_refused hfirst hread, decodeLine?,
              CloudHeader.decode_of_refused hread]
            exact .nothing rfl
          · have hother : ∀ cause, fault ≠ .header cause := not_exists.mp hheader
            rw [CloudHeader.extract_of_fault hfirst hread hother, decodeLine?,
              CloudHeader.decode_of_fault hread hother]
            exact .failed fault

/-- The names that count are the ASCII spellings of the name of the header. In headers that are
texts one reader decodes the first line under such a name, whatever follows, and the other one
extracts from the last line as if it were alone. Where these lines are equal, as when there is one
at most, the readers agree. -/
theorem readers_agree (h : headers.HoldsLines) (logFailures : Bool) (current : Context) :
    (∀ key : String,
      Text.lowercase key = CloudHeader.name ↔ Text.SameLetters key CloudHeader.name) ∧
    decode (.headers headers) = decodeLine? (headers.linesUnder CloudHeader.name).head? ∧
    parentContext logFailures (.headers headers) current =
      CloudHeader.extract logFailures
        (.headers (.ofLine? (headers.linesUnder CloudHeader.name).getLast?)) current ∧
    ((headers.linesUnder CloudHeader.name).length ≤ 1 ∨
        (headers.linesUnder CloudHeader.name).head? =
          (headers.linesUnder CloudHeader.name).getLast? →
      Agree (decode (.headers headers))
        (parentContext logFailures (.headers headers) current).result) := by
  have hdecode : decode (.headers headers) =
      decodeLine? (headers.linesUnder CloudHeader.name).head? := by
    rw [decode_of_names h.names, firstMatch?_eq_head? h]
    cases (headers.linesUnder CloudHeader.name).head? <;> rfl
  have hextract : parentContext logFailures (.headers headers) current =
      CloudHeader.extract logFailures
        (.headers (.ofLine? (headers.linesUnder CloudHeader.name).getLast?)) current := by
    obtain ⟨table, hlast, htable⟩ := parentContext_of_names h.names
    rw [htable]
    apply CloudHeader.extract_congr_first
    rw [hlast, lastHeader?_eq_getLast? h, Headers.get?_ofLine?]
  refine ⟨CloudHeader.lowercase_eq_name_iff, hdecode, hextract, ?_⟩
  intro hlines
  have hsame : (headers.linesUnder CloudHeader.name).head? =
      (headers.linesUnder CloudHeader.name).getLast? := by
    rcases hlines with hone | hsame
    · rw [List.head?_eq_getElem?, List.getLast?_eq_getElem?,
        show (headers.linesUnder CloudHeader.name).length - 1 = 0 by omega]
    · exact hsame
  rw [hdecode, hextract, hsame]
  exact agree_of_line _ logFailures current

/-- Headers with a malformed line between two equal ones, all under spellings of the name, and with
another line behind them under a name that only looks like it. -/
def recasedHeaders : Headers := .written
  [("X-CLOUD-TRACE-CONTEXT", "00000000000000000000000000000001/5"),
    (CloudHeader.name, "malformed"),
    ("X-Cloud-Trace-Context", "00000000000000000000000000000001/5"),
    ("x-cl\u03BFud-trace-context", "00000000000000000000000000000002/6")]

/-- Both readers get the span of the two equal lines. -/
theorem readers_agree_recased :
    recasedHeaders.HoldsLines ∧
    recasedHeaders.linesUnder CloudHeader.name =
      ["00000000000000000000000000000001/5", "malformed", "00000000000000000000000000000001/5"] ∧
    ∃ context : Context,
      decode (.headers recasedHeaders) = .ok (some ⟨1, 5, true, 0, ∅⟩) ∧
      (parentContext true (.headers recasedHeaders) .root).result = .ok context ∧
      context.span = some ⟨1, 5, true, 0, ∅⟩ := by
  have hlines : recasedHeaders.HoldsLines := Headers.holdsLines_written (by decide)
  have hunder : recasedHeaders.linesUnder CloudHeader.name =
      ["00000000000000000000000000000001/5", "malformed",
        "00000000000000000000000000000001/5"] := rfl
  obtain ⟨-, hdecode, -, hagree⟩ := readers_agree hlines true .root
  rw [hunder] at hdecode hagree
  have hspan : decodeLine? (some "00000000000000000000000000000001/5") =
      .ok (some ⟨1, 5, true, 0, ∅⟩) := rfl
  have hsame := hagree (Or.inr rfl)
  rw [hdecode, List.head?_cons, hspan] at hsame
  refine ⟨hlines, hunder, ?_⟩
  generalize (parentContext true (.headers recasedHeaders) .root).result = outcome at hsame
  cases hsame with
  | parent hcontext hne => exact ⟨_, hdecode.trans hspan, rfl, hcontext⟩

end Inbound

end TraceRelay
