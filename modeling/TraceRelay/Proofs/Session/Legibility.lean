import TraceRelay.Proofs.CloudHeader.Rejection
import TraceRelay.Proofs.Session.Records
import TraceRelay.Proofs.Text.Quoted

/-!
# Records of refused headers are legible

Refused headers come from anyone, and the text at fault is shown in the record. Nothing in it can
end the line of the record or rearrange it: the message is printable throughout
(`isPrintable_of_mem_refusal`). Nor can it pass for a refusal of another kind or of another text:
what stands before the literal of the text is one of five prefaces, none of which another one starts
with, and the literal gives the text back, so that the message determines the refusal
(`refusal_message_inj`). For the text that is at fault in a line, this is said of extraction in
`logged_messages_legible`.
-/

set_option autoImplicit false

namespace TraceRelay

namespace HeaderFault

/-! ## Messages -/

/-- What stands before the text at fault in the message of a refusal. -/
def preface (cause : HeaderFault) : List Char :=
  "Ignoring ".toList ++ cause.category.label.toList ++ " header: ".toList ++
    cause.complaint.toList ++ [' ', '('] ++ cause.culpritName.toList ++ ['=']

/-- The refusal without the text at fault. -/
def kind : HeaderFault → HeaderFault
  | .missingSeparator _ => .missingSeparator ""
  | .traceIdShape _ => .traceIdShape ""
  | .traceIdZero _ => .traceIdZero ""
  | .spanIdShape _ => .spanIdShape ""
  | .spanIdRange _ => .spanIdRange ""

/-- The kinds of refusals. -/
def kinds : List HeaderFault :=
  [.missingSeparator "", .traceIdShape "", .traceIdZero "", .spanIdShape "", .spanIdRange ""]

theorem kind_mem (cause : HeaderFault) : cause.kind ∈ kinds := by
  cases cause <;> simp [kind, kinds]

theorem preface_kind (cause : HeaderFault) : cause.kind.preface = cause.preface := by
  cases cause <;> rfl

theorem category_kind (cause : HeaderFault) : cause.kind.category = cause.category := by
  cases cause <;> rfl

/-- The message of a refusal is its preface, the literal of the text at fault, and a parenthesis. -/
theorem toList_message_refusal (cause : HeaderFault) :
    (CloudHeader.refusal cause).message.toList =
      cause.preface ++ (Text.Quoted.encode cause.culprit.toList ++ [')']) := by
  -- The strings are variables here, for literals would be taken apart.
  have hchars : ∀ (first second third fourth : String) (name literal : List Char),
      (first ++ second ++ third ++ (fourth ++
        String.ofList (' ' :: '(' :: (name ++ '=' :: literal) ++ [')']))).toList =
          first.toList ++ second.toList ++ third.toList ++ fourth.toList ++ [' ', '('] ++ name ++
            ['='] ++ (literal ++ [')']) := by
    simp
  exact hchars "Ignoring " cause.category.label " header: " cause.complaint
    cause.culpritName.toList (Text.Quoted.encode cause.culprit.toList)

/-- The message of a refusal is printable, whatever the text at fault. -/
theorem isPrintable_of_mem_refusal {cause : HeaderFault} {c : Char}
    (h : c ∈ (CloudHeader.refusal cause).message.toList) : Text.isPrintable c = true := by
  have hgraphic : (kinds.all fun a => a.preface.all Text.isAsciiGraphic) = true := by
    decide +kernel
  rw [toList_message_refusal, List.mem_append, List.mem_append] at h
  rcases h with hpreface | hliteral | hclose
  · rw [← preface_kind] at hpreface
    exact Text.isPrintable_of_all (List.all_eq_true.mp hgraphic _ cause.kind_mem) c hpreface
  · exact Text.Quoted.isPrintable_of_mem_encode hliteral
  · exact Text.isPrintable_of_all rfl c hclose

/-- No preface starts with that of another kind, so the message shows the kind. -/
theorem preface_inj {a b : HeaderFault} {s t : List Char} (h : a.preface ++ s = b.preface ++ t) :
    a.kind = b.kind ∧ s = t := by
  have hkinds : ∀ p ∈ kinds, ∀ q ∈ kinds, p.preface <+: q.preface → p = q := by decide +kernel
  rw [← preface_kind a, ← preface_kind b] at h
  have hleft : a.kind.preface <+: b.kind.preface ++ t := ⟨s, h⟩
  have hright : b.kind.preface <+: b.kind.preface ++ t := List.prefix_append _ _
  have hsame : a.kind = b.kind := by
    rcases List.prefix_or_prefix_of_prefix hleft hright with hab | hba
    · exact hkinds _ a.kind_mem _ b.kind_mem hab
    · exact (hkinds _ b.kind_mem _ a.kind_mem hba).symm
  rw [hsame] at h
  exact ⟨hsame, List.append_cancel_left h⟩

/-- Refusals with the same message are of one category and show the same text. -/
theorem refusal_message_inj {a b : HeaderFault}
    (h : (CloudHeader.refusal a).message = (CloudHeader.refusal b).message) :
    a.category = b.category ∧ a.culprit = b.culprit := by
  have hchars := congrArg String.toList h
  rw [toList_message_refusal, toList_message_refusal] at hchars
  obtain ⟨hkind, hrest⟩ := preface_inj hchars
  obtain ⟨hculprit, -⟩ := Text.Quoted.encode_append_inj.mp hrest
  refine ⟨?_, String.toList_inj.mp hculprit⟩
  rw [← category_kind a, hkind, category_kind]

end HeaderFault

namespace CloudHeader

/-! ## Lines at fault -/

/-- The text that is at fault in a line, with the category of the fault: the header when it has no
slash, the trace field when it names no trace, and behind a trace the span field when it is refused
as one. -/
inductive IsAtFault (line : String) : Category → List Char → Prop
  | header (hslash : '/' ∉ headerOfLine line) :
      IsAtFault line .missingSeparator (headerOfLine line)
  | trace {fields : Fields} (hcut : fields.IsCut) (hjoin : fields.join = headerOfLine line)
      (htrace : ¬ IsTraceField fields.trace) : IsAtFault line .traceId fields.trace
  | span {fields : Fields} (hcut : fields.IsCut) (hjoin : fields.join = headerOfLine line)
      (htrace : IsTraceField fields.trace) (hspan : IsRefusedSpanField fields.span) :
      IsAtFault line .spanId fields.span

/-- A refusal in a category that shows a text has this category and this text. -/
theorem IsRefusedFor.exists_cause {line name : String} {category : Category} {text : List Char}
    (h : IsRefusedFor line category name text) :
    ∃ cause, read (.text line) = .error (.header cause) ∧
      cause.category = category ∧ cause.culprit.toList = text := by
  obtain ⟨cause, hread, hcategory, hentries⟩ := h
  rw [cause.entries_details_report] at hentries
  simp only [List.cons.injEq, Prod.mk.injEq, Value.text.injEq, and_true] at hentries
  refine ⟨cause, hread, hcategory, ?_⟩
  rw [hentries.2, String.toList_ofList]

/-- A line is refused for the text that is at fault in it, in the category of the fault. -/
theorem isAtFault_iff {line : String} {category : Category} {text : List Char} :
    IsAtFault line category text ↔ ∃ cause, read (.text line) = .error (.header cause) ∧
      cause.category = category ∧ cause.culprit.toList = text := by
  constructor
  · intro h
    cases h with
    | header hslash => exact ((isRefusedFor_missingSeparator_iff line).mpr hslash).exists_cause
    | trace hcut hjoin htrace =>
        exact ((isRefusedFor_traceId_iff hcut hjoin).mpr htrace).exists_cause
    | span hcut hjoin htrace hspan =>
        exact ((isRefusedFor_spanId_iff hcut hjoin htrace).mpr hspan).exists_cause
  · rintro ⟨cause, hread, rfl, rfl⟩
    have hverdict := verdict_parseTrimmed (headerOfLine line)
    rw [← read_text_eq_parseTrimmed, hread] at hverdict
    cases hverdict with
    | missingSeparator hslash =>
        rw [HeaderFault.culprit, String.toList_ofList]
        exact .header hslash
    | badTrace hcut hjoin htrace hcategory hculprit =>
        rw [hcategory, hculprit, String.toList_ofList]
        exact .trace hcut hjoin htrace
    | badSpan hcut hjoin htrace hspan hshort hcategory hculprit =>
        rw [hcategory, hculprit, String.toList_ofList]
        exact .span hcut hjoin htrace (isRefusedSpanField_iff.mpr ⟨hspan, hshort⟩)

/-! ## Messages of extraction -/

/-- Extraction with records of refused headers finds the line in the carrier and leaves a record
with the message. -/
structure Logs (carrier : Carrier) (base : Context) (line message : String) : Prop where
  found : carrier.firstValue name = .ok (some (.text line))
  logged : ∃ record ∈ (extract true carrier base).records, record.message = message

variable {carrier : Carrier} {base : Context} {line message : String}

/-- The message is that of the refusal of the line. -/
theorem Logs.exists_cause (h : Logs carrier base line message) :
    ∃ cause, read (.text line) = .error (.header cause) ∧ (refusal cause).message = message := by
  obtain ⟨hfound, record, hrecord, rfl⟩ := h
  rw [records_extract, Carrier.record?, if_pos rfl, Option.mem_toList,
    Option.map_eq_some_iff] at hrecord
  obtain ⟨cause, hcause, rfl⟩ := hrecord
  obtain ⟨value, rest, hvalues, hread⟩ := Carrier.refusal?_eq_some_iff.mp hcause
  have hfirst := Carrier.firstValue_eq_some_iff.mpr ⟨rest, hvalues⟩
  rw [hfound] at hfirst
  cases hfirst
  exact ⟨cause, hread, rfl⟩

theorem records_of_refused {cause : HeaderFault}
    (hfound : carrier.firstValue name = .ok (some (.text line)))
    (hread : read (.text line) = .error (.header cause)) (base : Context) :
    (extract true carrier base).records = [refusal cause] := by
  obtain ⟨rest, hvalues⟩ := Carrier.firstValue_eq_some_iff.mp hfound
  have hrefusal : carrier.refusal? = some cause :=
    Carrier.refusal?_eq_some_iff.mpr ⟨_, rest, hvalues, hread⟩
  rw [records_extract, Carrier.record?, hrefusal]
  rfl

/-- The messages of refused lines are legible. All their characters are printable, so that none of
them ends a line, controls a terminal or turns the direction of writing. There is a message exactly
for the lines in which something is at fault. And lines with the same message have faults of the
same category and the same text at fault, whatever else they hold. -/
theorem logged_messages_legible :
    (∀ carrier base line message, Logs carrier base line message →
      (∀ c ∈ message.toList, Text.isPrintable c = true ∧ Text.isDisruptive c = false) ∧
      ∃ category text, IsAtFault line category text) ∧
    (∀ carrier base line category text, carrier.firstValue name = .ok (some (.text line)) →
      IsAtFault line category text →
        ∃ message, (extract true carrier base).records = [⟨.debug, logger, message⟩]) ∧
    ∀ carrier base line other otherBase otherLine message,
      Logs carrier base line message → Logs other otherBase otherLine message →
        ∀ category text otherCategory otherText, IsAtFault line category text →
          IsAtFault otherLine otherCategory otherText →
            category = otherCategory ∧ text = otherText := by
  refine ⟨?_, ?_, ?_⟩
  · intro carrier base line message hlogs
    obtain ⟨cause, hread, rfl⟩ := hlogs.exists_cause
    refine ⟨?_, cause.category, cause.culprit.toList, isAtFault_iff.mpr ⟨cause, hread, rfl, rfl⟩⟩
    intro c hc
    have hprintable := HeaderFault.isPrintable_of_mem_refusal hc
    exact ⟨hprintable, Text.not_isDisruptive_of_isPrintable hprintable⟩
  · intro carrier base line category text hfound hfault
    obtain ⟨cause, hread, -⟩ := isAtFault_iff.mp hfault
    exact ⟨(refusal cause).message, records_of_refused hfound hread base⟩
  · intro carrier base line other otherBase otherLine message hlogs hother category text
      otherCategory otherText hfault hotherFault
    obtain ⟨cause, hread, hmessage⟩ := hlogs.exists_cause
    obtain ⟨otherCause, hotherRead, hotherMessage⟩ := hother.exists_cause
    obtain ⟨found, hfound, rfl, rfl⟩ := isAtFault_iff.mp hfault
    obtain ⟨otherFound, hotherFound, rfl, rfl⟩ := isAtFault_iff.mp hotherFault
    have hcause : found = cause := by
      rw [hfound] at hread
      cases hread
      rfl
    have hotherCause : otherFound = otherCause := by
      rw [hotherFound] at hotherRead
      cases hotherRead
      rfl
    subst hcause hotherCause
    obtain ⟨hcategory, hculprit⟩ :=
      HeaderFault.refusal_message_inj (hmessage.trans hotherMessage.symm)
    exact ⟨hcategory, congrArg String.toList hculprit⟩

/-- The carrier with a line for its header. -/
def carrierOf (line : String) : Carrier :=
  .headers (Table.ofList [(.text name, .text line)])

/-- A line with a line feed, a mark that turns the direction of writing, and a single quote in its
trace field. -/
def smuggledLine : String := "0\n\u202e'/1"

/-- A line with the same trace field, with blanks around it and with another rest. -/
def spacedLine : String := "\t0\n\u202e'/x;o=1 "

/-- The message for both lines shows their trace field, in one line and in order. -/
def smuggledMessage : String :=
  "Ignoring InvalidTraceIdError header: trace id must be 32 lowercase hex characters " ++
    "(field=\"0\\n\\u202e'\")"

/-- Both lines leave this message, which is legible, and their faults are the same. -/
theorem smuggledLine_legible :
    Logs (carrierOf smuggledLine) .root smuggledLine smuggledMessage ∧
    Logs (carrierOf spacedLine) .root spacedLine smuggledMessage ∧
    (∀ c ∈ smuggledMessage.toList, Text.isPrintable c = true ∧ Text.isDisruptive c = false) ∧
    (∃ message,
      (extract true (carrierOf smuggledLine) .root).records = [⟨.debug, logger, message⟩]) ∧
    ∀ category text, IsAtFault spacedLine category text →
      category = .traceId ∧ text = "0\n\u202e'".toList := by
  have hread : read (.text smuggledLine) =
      .error (.header (.traceIdShape "0\n\u202e'")) := rfl
  have hspacedRead : read (.text spacedLine) =
      .error (.header (.traceIdShape "0\n\u202e'")) := rfl
  have hmessage : (refusal (.traceIdShape "0\n\u202e'")).message = smuggledMessage := by
    decide +kernel
  have hlogs : Logs (carrierOf smuggledLine) .root smuggledLine smuggledMessage := by
    refine ⟨rfl, _, ?_, hmessage⟩
    rw [records_of_refused rfl hread]
    exact List.mem_singleton_self _
  have hspacedLogs : Logs (carrierOf spacedLine) .root spacedLine smuggledMessage := by
    refine ⟨rfl, _, ?_, hmessage⟩
    rw [records_of_refused rfl hspacedRead]
    exact List.mem_singleton_self _
  have hfault : IsAtFault smuggledLine .traceId "0\n\u202e'".toList :=
    isAtFault_iff.mpr ⟨_, hread, rfl, rfl⟩
  obtain ⟨hlegible, hexists, hsame⟩ := logged_messages_legible
  refine ⟨hlogs, hspacedLogs, (hlegible _ _ _ _ hlogs).1,
    hexists _ .root _ _ _ rfl hfault, ?_⟩
  intro category text hspacedFault
  exact hsame _ _ _ _ _ _ _ hspacedLogs hlogs _ _ _ _ hspacedFault hfault

end CloudHeader

end TraceRelay
