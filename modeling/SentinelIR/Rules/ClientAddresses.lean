/-
# Addresses that cannot be determined

The middleware and auth-service read the client's address off the same header, and take
whatever stands before its first comma. Nothing may stand there. Such an address is recorded
as an empty text, which the login rule counts as an address of its own. Where it stands
nowhere, the alerts that are about an address rest on events from that address, as far as
the refusal rule keeps apart who it counts.
-/

import SentinelIR.Common.Transparency
import SentinelIR.Rules.Callers
import SentinelIR.Rules.Signals
import SentinelIR.Services.AuthService

namespace SentinelIR.Services

open SentinelIR.Py SentinelIR.Common

/-- `get_source_ip`. -/
def getSourceIp (request : Request) : Option Str := clientIp request

end SentinelIR.Services

namespace SentinelIR.Rules

open SentinelIR.Py SentinelIR.Common SentinelIR.Alerts SentinelIR.Collector
open SentinelIR.Services UnauthorisedAccess

/-! ## What is recorded -/

/-- The event is left by the middleware around a request, or by an attempt to log in. -/
inductive LeftBy [UnicodeDb] (request : Request) : EventBody → Prop
  | middleware {body : EventBody} (serviceName : ServiceName) (correlationId : Str)
      (outcome : Except Exc Nat)
      (left : body ∈ (SecurityEventMiddleware.dispatch serviceName request correlationId
        ⟨outcome, []⟩).emitted) : LeftBy request body
  | attempt {body : EventBody} (verifyPassword : Str → Str → Bool)
      (found : Option User) (username password correlationId : Str)
      (left : body ∈ (AuthService.authenticate verifyPassword found username password
        (getSourceIp request) correlationId).emitted) : LeftBy request body

theorem sourceIp_of_mem_emit {fields : EventFields} {event : EventBody}
    (left : event ∈ (Traced.emit fields).emitted) : event.sourceIp = fields.sourceIp := by
  by_cases valid : fields.normalised.Valid
  · rw [Traced.emit_of_normalised valid] at left
    rw [List.mem_singleton.mp left]
    rfl
  · rw [Traced.emit_of_invalid valid] at left
    cases left

theorem sourceIp_of_dispatch {request : Request} {serviceName : ServiceName} {correlationId : Str}
    {outcome : Except Exc Nat} {event : EventBody}
    (left : event ∈ (SecurityEventMiddleware.dispatch serviceName request correlationId
      ⟨outcome, []⟩).emitted) : event.sourceIp = clientIp request := by
  rw [SecurityEventMiddleware.dispatch, SecurityEventMiddleware.dispatchWith] at left
  split at left
  · cases left
  rcases Traced.mem_bind left with arrival | ⟨_, later⟩
  · exact sourceIp_of_mem_emit arrival
  cases outcome with
  | error raised =>
      simp only [Traced.bind_passed, List.nil_append] at later
      rcases Traced.mem_bind later with failure | ⟨_, ⟨⟩⟩
      exact sourceIp_of_mem_emit failure
  | ok status =>
      simp only [Traced.bind_passed, List.nil_append] at later
      split at later
      · rcases Traced.mem_bind later with failure | ⟨_, last⟩
        · exact sourceIp_of_mem_emit failure
        rcases Traced.mem_bind last with completion | ⟨_, ⟨⟩⟩
        exact sourceIp_of_mem_emit completion
      · rcases Traced.mem_bind later with completion | ⟨_, ⟨⟩⟩
        exact sourceIp_of_mem_emit completion

theorem sourceIp_of_authenticate [UnicodeDb] {verifyPassword : Str → Str → Bool}
    {found : Option User} {username password correlationId : Str} {sourceIp : Option Str}
    {event : EventBody}
    (left : event ∈ (AuthService.authenticate verifyPassword found username password sourceIp
      correlationId).emitted) : event.sourceIp = sourceIp := by
  rw [AuthService.authenticate] at left
  split at left
  · rcases Traced.mem_bind left with failure | ⟨_, ⟨⟩⟩
    exact sourceIp_of_mem_emit failure
  · rcases Traced.mem_bind left with success | ⟨_, ⟨⟩⟩
    exact sourceIp_of_mem_emit success

/-- Either way the event has the address read off the request. -/
theorem sourceIp_of_leftBy [UnicodeDb] {request : Request} {body : EventBody}
    (left : LeftBy request body) : body.sourceIp = clientIp request := by
  cases left with
  | middleware serviceName correlationId outcome left => exact sourceIp_of_dispatch left
  | attempt verifyPassword found username password correlationId left =>
      exact sourceIp_of_authenticate left

/-- An event of a stream, with the request it was recorded on. -/
structure Recorded [UnicodeDb] where
  request : Request
  body : EventBody
  stamp : Stamp
  left : LeftBy request body

section Stream

variable [UnicodeDb]

/-- The store of a stream. -/
def storeOf (stream : List Recorded) : EventStore := ⟨stream.map fun r => r.body.stamp r.stamp⟩

theorem readable_storeOf (stream : List Recorded) : Readable (storeOf stream).events := by
  intro event held
  obtain ⟨recorded, -, rfl⟩ := List.mem_map.mp held
  rw [stamp_timestamp, ← stamp_timestamp recorded.body, strptime_stamp]
  rfl

/-- An event of the store has the address of a request of the stream. -/
theorem exists_request {stream : List Recorded} {event : SecurityEvent}
    (held : event ∈ (storeOf stream).events) :
    ∃ recorded ∈ stream, event.sourceIp = clientIp recorded.request := by
  obtain ⟨recorded, present, rfl⟩ := List.mem_map.mp held
  exact ⟨recorded, present, sourceIp_of_leftBy recorded.left⟩

end Stream

/-! ## What an alert is about -/

/-- No client address is known of the event. -/
def Undetermined (event : SecurityEvent) : Prop :=
  ∀ address, event.sourceIp = some address → Blank address

/-- The alert about the subject is attributed to the address: it is the subject itself, or
the caller of a refusal that is counted. -/
def AttributedTo (now : Datetime) (events : List SecurityEvent) (address : Str) : Subject → Prop
  | .address sourceIp => sourceIp = address
  | .source sourceIp => sourceIp = address
  | .refused caller => ∃ event ∈ (Subject.refused caller).evidence now events,
      callerOf event = some (.address address)
  | _ => False

/-- The addresses recorded on a stream are not blank, no alert is attributed to a blank one,
and an alert that is attributed to an address rests on no event without one. -/
structure Addressed [UnicodeDb] (stream : List Recorded) (now : Datetime) : Prop where
  recorded : ∀ recorded ∈ stream, ∀ address, recorded.body.sourceIp = some address →
    ¬ Blank address
  attributed : ∀ subject : Subject, subject.ReportedBy evaluateBodies (storeOf stream) now →
    ∀ address, AttributedTo now (storeOf stream).events address subject → ¬ Blank address
  undetermined : ∀ subject : Subject, subject.ReportedBy evaluateBodies (storeOf stream) now →
    ∀ address, AttributedTo now (storeOf stream).events address subject →
      ∀ event ∈ subject.evidence now (storeOf stream).events, ¬ Undetermined event

/-! ## When it is so -/

/-- Something stands before the first comma of the header, or, where no header is given, the
host of the peer is not blank. -/
def Determinable (request : Request) : Prop :=
  match request.forwardedFor with
  | some (c :: forwarded) => ¬ Blank ((c :: forwarded).takeWhile (· ≠ codePoint ','))
  | _ => ∀ host, request.peer = some host → ¬ Blank host

/-- No three windowed refusals under one text are of an address among them and without one
among them. -/
def Apart (now : Datetime) (events : List SecurityEvent) : Prop :=
  ∀ text, 3 ≤ (refusalsUnder text now events).length →
    (∃ event ∈ refusalsUnder text now events, ∃ address,
      callerOf event = some (.address address)) →
      ∀ event ∈ refusalsUnder text now events, event.sourceIp ≠ none

theorem determinable_iff {request : Request} :
    Determinable request ↔ ∀ address, clientIp request = some address → ¬ Blank address := by
  match header : request.forwardedFor with
  | some (c :: forwarded) =>
      rw [Determinable, clientIp_of_forwarded header (List.cons_ne_nil c forwarded), header]
      simp only [Option.some.injEq, forall_eq', leadingEntry, blank_strip_iff]
  | some [] => rw [Determinable, clientIp, header]
  | none => rw [Determinable, clientIp, header]

/-! ## The alerts -/

theorem sourceIp_of_sourceOf {event : SecurityEvent} {source : Str}
    (named : AbnormalRate.sourceOf event = some source) : event.sourceIp = some source := by
  rw [AbnormalRate.sourceOf] at named
  split at named
  · next given =>
      rw [given]
      exact named
  · cases named

theorem sourceIp_of_callerOf {event : SecurityEvent} {address : Str}
    (named : callerOf event = some (.address address)) : event.sourceIp = some address := by
  rw [callerOf] at named
  split at named
  · cases named
  · next given _ =>
      rw [given]
      injection named with same
      injection same with same
      rw [same]
  · cases named

theorem evidence_refused (now : Datetime) (events : List SecurityEvent) (text : Str) :
    (Subject.refused text).evidence now events = refusalsUnder text now events := by
  rw [refusalsUnder, recent, filter_evidence]
  rfl

section Alerts

variable {now : Datetime} {events : List SecurityEvent} {address : Str}

/-- An alert that is attributed to an address rests on an event from there. -/
theorem exists_evidence {subject : Subject} (hover : subject.Over now events)
    (attributed : AttributedTo now events address subject) :
    ∃ event ∈ subject.evidence now events, event.sourceIp = some address := by
  obtain ⟨event, held⟩ := List.exists_mem_of_ne_nil _ (Subject.evidence_ne_nil hover)
  have concerns := Subject.concerns_of_mem_evidence held
  cases subject with
  | account userId => cases attributed
  | service name => cases attributed
  | address sourceIp =>
      obtain rfl : sourceIp = address := attributed
      exact ⟨event, held, concerns⟩
  | source sourceIp =>
      obtain rfl : sourceIp = address := attributed
      exact ⟨event, held, sourceIp_of_sourceOf concerns⟩
  | refused caller =>
      obtain ⟨counted, cited, named⟩ := attributed
      exact ⟨counted, cited, sourceIp_of_callerOf named⟩

/-- Apart from refusals that are mixed, it rests on no other. -/
theorem sourceIp_ne_none (apart : Apart now events) {subject : Subject}
    (hover : subject.Over now events) (attributed : AttributedTo now events address subject)
    {event : SecurityEvent} (cited : event ∈ subject.evidence now events) :
    event.sourceIp ≠ none := by
  have concerns := Subject.concerns_of_mem_evidence cited
  cases subject with
  | account userId => cases attributed
  | service name => cases attributed
  | address sourceIp =>
      have stated : event.sourceIp = some sourceIp := concerns
      exact stated ▸ Option.some_ne_none sourceIp
  | source sourceIp =>
      have stated : event.sourceIp = some sourceIp := sourceIp_of_sourceOf concerns
      exact stated ▸ Option.some_ne_none sourceIp
  | refused caller =>
      obtain ⟨counted, held, named⟩ := attributed
      rw [Subject.Over] at hover
      rw [evidence_refused] at hover held cited
      exact apart caller hover ⟨counted, held, address, named⟩ event cited

end Alerts

section Addressed

variable [UnicodeDb] {stream : List Recorded} {now : Datetime}

theorem apart_of_addressed (addressed : Addressed stream now)
    (fits : WindowFits detectionWindow now) : Apart now (storeOf stream).events := by
  intro text reached ⟨counted, held, address, named⟩ event under absent
  have hover : (Subject.refused text).Over now (storeOf stream).events := by
    rw [Subject.Over, evidence_refused]
    exact reached
  have reported : (Subject.refused text).ReportedBy evaluateBodies (storeOf stream) now :=
    (reported_iff (readable_storeOf stream) _).mpr ⟨fits, hover⟩
  rw [← evidence_refused] at held under
  apply addressed.undetermined _ reported address ⟨counted, held, named⟩ event under
  intro other stated
  rw [absent] at stated
  cases stated

theorem addressed_of_apart (determinable : ∀ recorded ∈ stream, Determinable recorded.request)
    (apart : WindowFits detectionWindow now → Apart now (storeOf stream).events) :
    Addressed stream now := by
  have known : ∀ event ∈ (storeOf stream).events, ∀ address,
      event.sourceIp = some address → ¬ Blank address := by
    intro event held address stated
    obtain ⟨recorded, present, own⟩ := exists_request held
    exact determinable_iff.mp (determinable recorded present) address (own ▸ stated)
  constructor
  · intro recorded present address stated
    rw [sourceIp_of_leftBy recorded.left] at stated
    exact determinable_iff.mp (determinable recorded present) address stated
  · intro subject reported address attributed
    obtain ⟨fits, hover⟩ := (reported_iff (readable_storeOf stream) subject).mp reported
    obtain ⟨event, cited, stated⟩ := exists_evidence hover attributed
    exact known event (Subject.mem_events_of_mem_evidence cited) address stated
  · intro subject reported address attributed event cited undetermined
    obtain ⟨fits, hover⟩ := (reported_iff (readable_storeOf stream) subject).mp reported
    have stated := sourceIp_ne_none (apart fits) hover attributed cited
    obtain ⟨own, same⟩ := Option.ne_none_iff_exists'.mp stated
    exact known event (Subject.mem_events_of_mem_evidence cited) own same (undetermined own same)

/-- The addresses of a stream are what they are to be exactly when each request says where
it came from, by its header or else by its peer, and no refusals that are counted together
are of an address and without one. -/
theorem addressed_iff (stream : List Recorded) (now : Datetime) :
    Addressed stream now ↔
      (∀ recorded ∈ stream, Determinable recorded.request) ∧
        (WindowFits detectionWindow now → Apart now (storeOf stream).events) := by
  constructor
  · intro addressed
    refine ⟨?_, apart_of_addressed addressed⟩
    intro recorded present
    apply determinable_iff.mpr
    intro address stated
    rw [← sourceIp_of_leftBy recorded.left] at stated
    exact addressed.recorded recorded present address stated
  · rintro ⟨determinable, apart⟩
    exact addressed_of_apart determinable apart

end Addressed

/-! ## A comma -/

/-- An attempt to log in under a header of one comma. -/
def masked : Request where
  method := "POST"
  path := "/api/v1/auth/login"
  forwardedFor := some ","
  peer := some "10.0.0.2"

/-- Its failure. -/
def maskedFailure [UnicodeDb] (n : Fin 60) : Recorded where
  request := masked
  body := AuthService.failureEvent "root" (getSourceIp masked) lit_correlation_visible .unknownUser
  stamp := ⟨n, daybreak n⟩
  left := by
    apply LeftBy.attempt (fun _ _ => false) none "root" "guess" "corr-000000000001"
    rw [AuthService.authenticate_refused lit_correlation_visible rfl]
    exact List.mem_singleton_self _

/-- Five of them accuse the empty address. -/
theorem masked_accused : ¬ ∀ (_ : UnicodeDb) (stream : List Recorded) (now : Datetime),
    Addressed stream now := by
  intro always
  let _ : UnicodeDb := ⟨fun _ => true⟩
  have addressed := always ⟨fun _ => true⟩ ([1, 2, 3, 4, 5].map maskedFailure) (daybreak 5).time
  have reported : (Subject.address []).ReportedBy evaluateBodies
      (storeOf ([1, 2, 3, 4, 5].map maskedFailure)) (daybreak 5).time := by
    apply (reported_iff (readable_storeOf _) _).mpr
    exact ⟨by decide +kernel, by decide +kernel⟩
  exact addressed.attributed _ reported [] rfl (by decide)

end SentinelIR.Rules
