import TraceRelay.Proofs.Inbound.Lookup
import TraceRelay.Proofs.Propagator.Extraction
import TraceRelay.Proofs.Propagator.Injection

/-!
# What extraction replaces

Extraction of the cloud trace header puts a span and a marker into a context, and keeps everything
else of it. What it puts there depends on the first value under the name of the header and on
nothing else (`extract_congr_first`): the parent that this value describes, with the marker for an
open decision, or no span and no marker. So nothing that the base held in these two places is ever
taken over (`extract_replaces`).
-/

set_option autoImplicit false

namespace TraceRelay

/-! ## First values -/

namespace Carrier

/-- There is no value among what stands under a name: no entry, a null, or nothing in a list or an
object. -/
inductive HoldsNothing : Option Value → Prop
  | missing : HoldsNothing none
  | null : HoldsNothing (some .null)
  | emptyList : HoldsNothing (some (.list []))
  | emptyObject : HoldsNothing (some (.object []))

/-- There is no first value when there is no value. -/
theorem firstOf_eq_none_iff (found : Option Value) : firstOf found = none ↔ HoldsNothing found := by
  constructor
  · intro h
    rcases found with - | value
    · exact .missing
    · cases value with
      | null => exact .null
      | list items =>
          cases items with
          | nil => exact .emptyList
          | cons item rest => cases h
      | object fields =>
          cases fields with
          | nil => exact .emptyObject
          | cons field rest => cases h
      | _ => cases h
  · intro h
    cases h <;> rfl

end Carrier

namespace CloudHeader

/-- Extraction sees of headers the first value under the name of the cloud trace header. -/
theorem extract_congr_first {logFailures : Bool} {headers other : Headers} {base : Context}
    (h : Carrier.firstOf (other.get? (.text name)) = Carrier.firstOf (headers.get? (.text name))) :
    extract logFailures (.headers other) base = extract logFailures (.headers headers) base := by
  simp only [extract, Carrier.firstValue_headers, h]

/-! ## The two places -/

/-- Nothing is found that could name a parent: no value, or a first value that is refused. -/
def NamesNoParent (found : Option Value) : Prop :=
  Carrier.HoldsNothing found ∨
    ∃ value cause, Carrier.firstOf found = some value ∧ read value = .error (.header cause)

/-- The context is the base with the span and the marker replaced by what is found. Without a parent
there is no span in it and no deferred parent. Otherwise its span is the parent that the first value
describes, which is also its deferred parent when its decision is open. -/
structure Replaces (found : Option Value) (base context : Context) : Prop where
  values : context.values = base.values
  none : NamesNoParent found →
    context.span = some .invalid ∧ ∀ span, context.isDeferredParent (some span) = false
  parent : ¬ NamesNoParent found →
    ∃ value parent, Carrier.firstOf found = some value ∧ read value = .ok parent ∧
      context.span = some parent.span ∧
      ∀ span, context.isDeferredParent (some span) = true ↔
        parent.decision = .deferred ∧ span = parent.span

variable {found : Option Value} {base context : Context} {logFailures : Bool}

theorem replaces_withEmpty (h : NamesNoParent found) (base : Context) :
    Replaces found base base.withEmpty where
  values := rfl
  none _ := ⟨rfl, fun _ => rfl⟩
  parent hparent := absurd h hparent

/-- A value that describes a parent goes into both places. -/
theorem replaces_withRemote {value : Value} {parent : Parent}
    (hfirst : Carrier.firstOf found = some value) (hread : read value = .ok parent)
    (base : Context) :
    Replaces found base (base.withRemote (some parent.span) (parent.decision == .deferred)) where
  values := rfl
  none hnone := by
    rcases hnone with hnothing | ⟨other, cause, hother, hrefused⟩
    · rw [(Carrier.firstOf_eq_none_iff found).mpr hnothing] at hfirst
      cases hfirst
    · rw [hfirst] at hother
      cases hother
      rw [hread] at hrefused
      cases hrefused
  parent _ := by
    refine ⟨value, parent, hfirst, hread, rfl, ?_⟩
    obtain ⟨trace, id, decision, rfl, -⟩ := exists_remote_of_read hread
    intro span
    rw [Context.isDeferredParent_withRemote rfl, beq_iff_eq]

/-- Extraction that returns replaces the span and the marker by what stands under the name. -/
theorem replaces_of_extract {headers : Headers}
    (h : (extract logFailures (.headers headers) base).result = .ok context) :
    Replaces (headers.get? (.text name)) base context := by
  -- There are two ways to name no parent, and they have the same effect.
  cases extracted_of_extract h with
  | absent hfirst =>
      apply replaces_withEmpty
      exact Or.inl ((Carrier.firstOf_eq_none_iff _).mp (Except.ok.inj hfirst))
  | @refused value cause hfirst hread =>
      apply replaces_withEmpty
      exact Or.inr ⟨value, cause, Except.ok.inj hfirst, hread⟩
  | @parent value parent hfirst hread =>
      exact replaces_withRemote (Except.ok.inj hfirst) hread base

/-- A server that gets a context has the current one with the span and the marker replaced by what
the last entry with the right name holds. -/
theorem replaces_of_parentContext {headers : Headers}
    (h : (Inbound.parentContext logFailures (.headers headers) base).result = .ok context) :
    Replaces (Inbound.lastHeader? headers.entries) base context := by
  obtain ⟨table, hlast, hextract⟩ :=
    Inbound.parentContext_of_names (Inbound.names_of_parentContext h)
  rw [hextract] at h
  rw [← hlast]
  exact replaces_of_extract h

theorem step_extract_cloud {session : Session} {reference : Session.Reference} {carrier : Carrier}
    (hbase : session.resolve reference = base)
    (h : (extract session.settings.logDecodeFailures carrier base).result = .ok context)
    (into : Option String) :
    (session.step (.extract .cloud carrier reference into)).2.result = .ok (.context context) := by
  simp only [Session.step, Session.derive, Derivation.apply, Session.propagatorOf,
    Propagator.extract, Outcome.map, hbase, h]
  rfl

/-- When extraction of the cloud trace header from a table returns, it has replaced the span and the
marker of the base, of which nothing is left but the unrelated values. Any base with these values
gives the same context, and what follows the first value in a list makes no difference. In a session
this is the context that is extracted when the base is the current one, and when it is passed by a
name, which stands for the root if nothing is kept under it. A server that reads the headers of a
request replaces the span and the marker of the current context in the same way. -/
theorem extract_replaces (logFailures : Bool) (headers : Headers) (base context : Context) :
    ((extract logFailures (.headers headers) base).result = .ok context →
      Replaces (headers.get? (.text name)) base context ∧
      (∀ other : Context, other.values = base.values →
        (extract logFailures (.headers headers) other).result = .ok context) ∧
      (∀ value rest further, headers.get? (.text name) = some (.list (value :: rest)) →
        (extract logFailures (.headers (headers.set (.text name) (.list (value :: further))))
          base).result = .ok context) ∧
      ∀ (session : Session) (into : Option String),
        session.settings.logDecodeFailures = logFailures →
        (session.current = base →
          (session.step (.extract .cloud (.headers headers) .current into)).2.result =
            .ok (.context context)) ∧
        ∀ key : String, (session.contexts.get? key).getD .root = base →
          (session.step (.extract .cloud (.headers headers) (.named key) into)).2.result =
            .ok (.context context)) ∧
    ((Inbound.parentContext logFailures (.headers headers) base).result = .ok context →
      Replaces (Inbound.lastHeader? headers.entries) base context ∧
      (∀ other : Context, other.values = base.values →
        (Inbound.parentContext logFailures (.headers headers) other).result = .ok context) ∧
      ∀ (session : Session) (into : Option String),
        session.settings.logDecodeFailures = logFailures → session.current = base →
        (session.step (.derive (.extractParent (.headers headers)) .current into)).2.result =
          .ok (.context context)) := by
  constructor
  · intro h
    refine ⟨replaces_of_extract h, ?_, ?_, ?_⟩
    · intro other hother
      rw [extract_congr hother, h]
    · intro value rest further hlist
      have hfirst : Carrier.firstOf ((headers.set (.text name) (.list (value :: further))).get?
          (.text name)) = Carrier.firstOf (headers.get? (.text name)) := by
        rw [Table.get?_set_self, hlist]
        rfl
      rw [extract_congr_first hfirst, h]
    · rintro session into rfl
      refine ⟨?_, ?_⟩
      · intro hcurrent
        have hresolve : session.resolve .current = base := hcurrent
        exact step_extract_cloud hresolve h into
      · intro key hnamed
        have hresolve : session.resolve (.named key) = base := hnamed
        exact step_extract_cloud hresolve h into
  · intro h
    refine ⟨replaces_of_parentContext h, ?_, ?_⟩
    · intro other hother
      obtain ⟨table, -, hextract⟩ :=
        Inbound.parentContext_of_names (Inbound.names_of_parentContext h)
      rw [hextract] at h ⊢
      rw [extract_congr hother, h]
    · rintro session into rfl rfl
      simp only [Session.step, Session.derive, Derivation.apply, Session.resolve, Outcome.map, h]
      rfl

/-- A context of somebody else's trace: a span, a deferred parent and an unrelated value. -/
def inheritedContext : Context where
  span := some ⟨2, 7, false, 1, ∅⟩
  deferredParent := some ⟨3, 9, true, 0, ∅⟩
  values := Table.ofList [("tenant", .text "blue")]

/-- Headers with two values under the name of the cloud trace header, the first of them with an open
decision, and with a malformed value under the same name in capitals. -/
def misspeltHeaders : Headers := Table.ofList
  [(.text name, .list [.text "00000000000000000000000000000001/5", .text "malformed"]),
    (.text "X-Cloud-Trace-Context", .text "malformed")]

/-- A session of a process that records refused headers, in the midst of somebody else's trace. -/
def busySession : Session where
  settings := { logDecodeFailures := true }
  current := inheritedContext
  contexts := Table.ofList [("inherited", inheritedContext)]

/-- A propagator replaces the span and the marker of somebody else's trace by the first value, also
in a session in which they are current or kept under a name. A server drops both of them for the
malformed value. -/
theorem extract_replaces_inherited :
    (∃ context : Context,
      (extract true (.headers misspeltHeaders) inheritedContext).result = .ok context ∧
      context.values = inheritedContext.values ∧
      Replaces (some (.list [.text "00000000000000000000000000000001/5", .text "malformed"]))
        inheritedContext context ∧
      (busySession.step (.extract .cloud (.headers misspeltHeaders) .current none)).2.result =
        .ok (.context context) ∧
      (busySession.step (.extract .cloud (.headers misspeltHeaders) (.named "inherited")
        none)).2.result = .ok (.context context)) ∧
    ∃ context : Context,
      (Inbound.parentContext true (.headers misspeltHeaders) inheritedContext).result =
        .ok context ∧
      context.span = some .invalid ∧
      (∀ span, context.isDeferredParent (some span) = false) ∧
      (busySession.step (.derive (.extractParent (.headers misspeltHeaders)) .current
        none)).2.result = .ok (.context context) := by
  have hextract : (extract true (.headers misspeltHeaders) inheritedContext).result =
      .ok { inheritedContext with
        span := some ⟨1, 5, true, 0, ∅⟩, deferredParent := some ⟨1, 5, true, 0, ∅⟩ } := rfl
  have hrequest : (Inbound.parentContext true (.headers misspeltHeaders) inheritedContext).result =
      .ok inheritedContext.withEmpty := rfl
  obtain ⟨hreplaces, -, -, hsession⟩ :=
    (extract_replaces true misspeltHeaders inheritedContext _).1 hextract
  obtain ⟨hserver, -, hcurrent⟩ :=
    (extract_replaces true misspeltHeaders inheritedContext _).2 hrequest
  have hnone : NamesNoParent (Inbound.lastHeader? misspeltHeaders.entries) :=
    Or.inr ⟨.text "malformed", .missingSeparator "malformed", rfl, rfl⟩
  obtain ⟨hspan, hmarker⟩ := hserver.none hnone
  exact ⟨⟨_, hextract, hreplaces.values, hreplaces, (hsession busySession none rfl).1 rfl,
      (hsession busySession none rfl).2 "inherited" rfl⟩,
    _, hrequest, hspan, hmarker, hcurrent busySession none rfl rfl⟩

end CloudHeader

end TraceRelay
