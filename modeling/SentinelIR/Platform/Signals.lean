/-
# The signals of a stream

The rules read events; a history of requests is easier to count than its events.
For each kind of signal, the events of an exchange amount to exactly the signals
stated beside it, so a threshold over a stream is a threshold over a history.
-/

import SentinelIR.Platform.Exchange

namespace SentinelIR.Platform

open SentinelIR.Py SentinelIR.Common SentinelIR.Collector SentinelIR.Rules SentinelIR.Services
open SentinelIR.Gateway

/-! ## What each event amounts to -/

section Middleware

variable {service : ServiceName} {request : Request} {correlationId : Str}
  {recorded : request.Recorded correlationId} {stamp : Stamp} {status : Nat}
  {inRange : 100 ≤ status ∧ status ≤ 599}

/-- Only a completion with a refusing status is a refusal. -/
theorem ofRefusal_received :
    Signal.ofRefusal ((receivedEvent service recorded).stamp stamp) = none := rfl

theorem contains_refusal (status : Nat) :
    UnauthorisedAccess.refusalStatusCodes.contains (status : Int) =
      decide (status = 401 ∨ status = 403) := by
  have cast (code : Nat) : ((status : Int) = (code : Int)) ↔ status = code := Int.natCast_inj
  rw [Bool.eq_iff_iff, decide_eq_true_eq, List.contains_iff_mem]
  simp only [UnauthorisedAccess.refusalStatusCodes, List.mem_cons, List.not_mem_nil, or_false]
  exact or_congr (cast 401) (cast 403)

theorem isRefusal_completed :
    UnauthorisedAccess.isRefusal ((completedEvent service recorded inRange).stamp stamp) =
      decide (status = 401 ∨ status = 403) := contains_refusal status

theorem ofRefusal_answeredError (failing : 500 ≤ status) :
    Signal.ofRefusal ((answeredErrorEvent service recorded inRange).stamp stamp) = none := by
  have calm : UnauthorisedAccess.isRefusal
      ((answeredErrorEvent service recorded inRange).stamp stamp) = false :=
    (contains_refusal status).trans (decide_eq_false (by omega))
  rw [Signal.ofRefusal, calm]
  rfl

end Middleware

/-- The name under which the middleware of a service records a refusal. -/
theorem subjectOf_completed {client : ClientRequest} (service : ServiceName) {gateway : Address}
    (recorded : (client.upstream gateway).Recorded client.correlationId) {status : Nat}
    (inRange : 100 ≤ status ∧ status ≤ 599) (stamp : Stamp) :
    UnauthorisedAccess.subjectOf ((completedEvent service recorded inRange).stamp stamp) =
      Exchange.recordedCaller client := by
  have address : ((completedEvent service recorded inRange).stamp stamp).sourceIp =
      some client.recordedAddress := clientIp_upstream client gateway
  have user : ((completedEvent service recorded inRange).stamp stamp).userId =
      client.userIdHeader := rfl
  unfold UnauthorisedAccess.subjectOf Exchange.recordedCaller
  rw [address, user]
  cases client.userIdHeader with
  | none => cases client.recordedAddress <;> rfl
  | some userId =>
      cases userId with
      | nil => cases client.recordedAddress <;> rfl
      | cons c userId => rfl

/-- A refusal a service completes for a client is recorded under one name. -/
theorem ofRefusal_completed {client : ClientRequest} (service : ServiceName) {gateway : Address}
    (recorded : (client.upstream gateway).Recorded client.correlationId) {status : Nat}
    (inRange : 100 ≤ status ∧ status ≤ 599) (stamp : Stamp) :
    Signal.ofRefusal ((completedEvent service recorded inRange).stamp stamp) =
      if status = 401 ∨ status = 403 then some (Exchange.recordedCaller client, moment stamp)
      else none := by
  rw [Signal.ofRefusal, isRefusal_completed, subjectOf_completed, timeOf_stamp]
  simp only [decide_eq_true_eq]

/-- The source under which a service records a client's request. -/
theorem ofRequest_received {client : ClientRequest} (service : ServiceName) {gateway : Address}
    (recorded : (client.upstream gateway).Recorded client.correlationId) (stamp : Stamp) :
    Signal.ofRequest ((receivedEvent service recorded).stamp stamp) =
      (Exchange.rateSource client).map fun source => (source, moment stamp) := by
  have address : ((receivedEvent service recorded).stamp stamp).sourceIp =
      some client.recordedAddress := clientIp_upstream client gateway
  have source : AbnormalRate.sourceOf ((receivedEvent service recorded).stamp stamp) =
      Exchange.rateSource client := by
    unfold AbnormalRate.sourceOf Exchange.rateSource
    rw [address]
    cases client.recordedAddress <;> rfl
  change (AbnormalRate.sourceOf _).map _ = _
  rw [source, timeOf_stamp]

/-- A lookup arrives from the host that makes it. -/
theorem ofRequest_lookup (lookup : Lookup) (host : Address) {correlationId : Str}
    (correlation : ¬ Blank correlationId) (stamp : Stamp) :
    Signal.ofRequest ((receivedEvent .asset (lookup.recorded host correlation)).stamp stamp) =
      some (host.text, moment stamp) := by
  have source : AbnormalRate.sourceOf
      ((receivedEvent .asset (lookup.recorded host correlation)).stamp stamp) =
        some host.text := by
    obtain ⟨c, rest, htext⟩ := List.exists_cons_of_ne_nil host.visible
    have address : ((receivedEvent .asset (lookup.recorded host correlation)).stamp stamp).sourceIp =
        some host.text := rfl
    rw [AbnormalRate.sourceOf, address, htext]
  change (AbnormalRate.sourceOf _).map _ = _
  rw [source, timeOf_stamp]
  rfl

/-! ## Reports are no signals -/

theorem not_ofKind {report : Stamped} {kinds : List EventType}
    (apart : ∀ kind ∈ reportTypes, kind ∉ kinds) : report.event.eventType ∉ kinds :=
  apart _ report.1.kind

theorem filterMap_reports {signalOf : SecurityEvent → Option Signal}
    (silent : ∀ report : Stamped, signalOf report.event = none) (reports : List Stamped) :
    (reports.map Stamped.event).filterMap signalOf = [] := by
  rw [List.filterMap_map, List.filterMap_eq_nil_iff]
  exact fun report _ => silent report

theorem ofRefusal_report (report : Stamped) : Signal.ofRefusal report.event = none := by
  have calm : UnauthorisedAccess.isRefusal report.event = false := by
    have status : UnauthorisedAccess.refusalStatusCodes.contains report.event.statusCode =
        false := by
      rw [Bool.eq_false_iff]
      exact fun held => report.1.calm (List.contains_iff_mem.mp held)
    have kind : report.event.eventType ∉ [EventType.unauthorisedAccess] := not_ofKind (by decide)
    unfold UnauthorisedAccess.isRefusal
    split
    · rfl
    · next unauthorised => exact absurd (List.mem_singleton.mpr unauthorised) kind
    · exact status
  rw [Signal.ofRefusal, calm]
  rfl

theorem ofAccount_of_ne {event : SecurityEvent} (other : event.eventType ∉ [EventType.authFailed]) :
    Signal.ofAccount event = none := by
  have kind : FailedLogins.isFailure event = false := by
    simpa [FailedLogins.isFailure] using other
  rw [Signal.ofAccount, kind]
  rfl

theorem ofAddress_of_ne {event : SecurityEvent} (other : event.eventType ∉ [EventType.authFailed]) :
    Signal.ofAddress event = none := by
  have kind : FailedLogins.isFailure event = false := by
    simpa [FailedLogins.isFailure] using other
  rw [Signal.ofAddress, kind]
  rfl

theorem ofThrottle_of_ne {event : SecurityEvent}
    (other : event.eventType ∉ [EventType.rateLimitExceeded]) : Signal.ofThrottle event = none := by
  have kind : (event.eventType == EventType.rateLimitExceeded) = false := by simpa using other
  rw [Signal.ofThrottle, kind]
  rfl

theorem ofRequest_of_ne {event : SecurityEvent}
    (other : event.eventType ∉ [EventType.requestReceived]) : Signal.ofRequest event = none := by
  have kind : AbnormalRate.requestEventTypes.contains event.eventType = false := by
    rw [Bool.eq_false_iff]
    exact fun held => other (List.contains_iff_mem.mp held)
  rw [Signal.ofRequest, kind]
  rfl

/-! ## One exchange -/

section Hop

variable {request : Request} {correlationId : Str}

theorem filterMap_hop (signalOf : SecurityEvent → Option Signal) (service : ServiceName)
    (recorded : request.Recorded correlationId) (stamps : Stamps) (handled : List SecurityEvent)
    (answer : Answer) :
    (hop service recorded stamps handled answer).filterMap signalOf =
      (signalOf ((receivedEvent service recorded).stamp stamps.arrival)).toList ++
        (handled.filterMap signalOf ++
          (closing service recorded stamps answer).filterMap signalOf) := by
  rw [hop, List.filterMap_cons]
  cases signalOf ((receivedEvent service recorded).stamp stamps.arrival) <;>
    simp [List.filterMap_append]

/-- What the middleware writes at the end carries none of the other signals. -/
theorem filterMap_closing_of_ne {kinds : List EventType}
    (apart : ∀ kind ∈ [EventType.serviceError, .requestCompleted], kind ∉ kinds)
    {signalOf : SecurityEvent → Option Signal}
    (silent : ∀ event, event.eventType ∉ kinds → signalOf event = none) (service : ServiceName)
    (recorded : request.Recorded correlationId) (stamps : Stamps) (answer : Answer) :
    (closing service recorded stamps answer).filterMap signalOf = [] := by
  rw [List.filterMap_eq_nil_iff]
  intro event hevent
  refine silent event (apart _ ?_)
  cases answer with
  | unhandled raised =>
      rw [List.mem_singleton.mp hevent]
      exact List.mem_cons_self
  | status code inRange =>
      rcases List.mem_append.mp hevent with failing | completed
      · split at failing
        · rw [List.mem_singleton.mp failing]
          exact List.mem_cons_self
        · cases failing
      · rw [List.mem_singleton.mp completed]
        exact List.mem_cons_of_mem _ List.mem_cons_self

/-- A request answered without a refusal closes without one. -/
theorem filterMap_closing_granted (service : ServiceName)
    (recorded : request.Recorded correlationId) (stamps : Stamps) {answer : Answer}
    (granted : ¬ (answer.code = 401 ∨ answer.code = 403)) :
    (closing service recorded stamps answer).filterMap Signal.ofRefusal = [] := by
  cases answer with
  | unhandled raised => rfl
  | status code inRange =>
      have completed : Signal.ofRefusal
          ((completedEvent service recorded inRange).stamp stamps.completion) = none := by
        rw [Signal.ofRefusal, isRefusal_completed]
        exact if_neg (by simpa [Answer.code] using granted)
      by_cases failing : 500 ≤ code
      · simp [closing, Answer.code, failing, ofRefusal_answeredError failing, completed]
      · simp [closing, Answer.code, failing, completed]

/-- The closing of a client's request records its refusal, if it was refused. -/
theorem filterMap_closing_refused {client : ClientRequest} (service : ServiceName)
    {gateway : Address} (recorded : (client.upstream gateway).Recorded client.correlationId)
    (stamps : Stamps) (answer : Answer) :
    (closing service recorded stamps answer).filterMap Signal.ofRefusal =
      serviceRefusals client answer.code stamps := by
  by_cases refused : answer.code = 401 ∨ answer.code = 403
  · cases answer with
    | unhandled raised =>
        exact absurd (show (500 : Nat) = 401 ∨ (500 : Nat) = 403 from refused) (by decide)
    | status code inRange =>
        have calm : ¬ 500 ≤ code := by
          have := refused
          simp only [Answer.code] at this
          omega
        have code_eq : (Answer.status code inRange).code = code := rfl
        rw [code_eq] at refused
        rw [serviceRefusals, code_eq, if_pos refused, closing, code_eq, if_neg calm,
          List.nil_append, List.filterMap_cons, ofRefusal_completed, if_pos refused]
        rfl
  · rw [filterMap_closing_granted service recorded stamps refused, serviceRefusals, if_neg refused]

end Hop

/-! ### The gateway's line -/

section Logged

variable {client : ClientRequest} (recorded : client.Recorded) (status : Nat) (stamp : Stamp)

/-- The gateway's line, as a list of events. -/
def line : List SecurityEvent := ((logged recorded status).map (·.stamp stamp)).toList

theorem subjectOf_refused (refusal : status = 401 ∨ status = 403) :
    UnauthorisedAccess.subjectOf
      ((⟨refusedFields client status, refusedFields_valid recorded refusal⟩ : EventBody).stamp
        stamp) = Exchange.gatewayCaller client := by
  change UnauthorisedAccess.subjectOf
    ((⟨{ refusedFields client status with }, _⟩ : EventBody).stamp stamp) = _
  obtain ⟨c, rest, htext⟩ := List.exists_cons_of_ne_nil client.peer.visible
  unfold UnauthorisedAccess.subjectOf Exchange.gatewayCaller
  simp only [EventBody.stamp, refusedFields, ClientRequest.consumer]
  cases client.token with
  | none => simp [htext]
  | some user => rfl

theorem filterMap_line_ofRefusal :
    (line recorded status stamp).filterMap Signal.ofRefusal =
      if status = 401 ∨ status = 403 then [(Exchange.gatewayCaller client, moment stamp)]
      else [] := by
  by_cases throttled : status = 429
  · rw [if_neg (by omega), line, logged, if_pos throttled]
    rfl
  · by_cases refusal : status = 401 ∨ status = 403
    · rw [if_pos refusal, line, logged, if_neg throttled, dif_pos refusal]
      change (some (UnauthorisedAccess.subjectOf _, timeOf _)).toList = _
      rw [subjectOf_refused recorded status stamp refusal, timeOf_stamp]
      rfl
    · rw [if_neg refusal, line, logged, if_neg throttled, dif_neg refusal]
      rfl

theorem filterMap_line_ofThrottle :
    (line recorded status stamp).filterMap Signal.ofThrottle =
      if status = 429 then [(client.peer.text, moment stamp)] else [] := by
  by_cases throttled : status = 429
  · rw [if_pos throttled, line, logged, if_pos throttled]
    have source : AbnormalRate.sourceOf
        ((⟨throttledFields client, throttledFields_valid recorded⟩ : EventBody).stamp stamp) =
          some client.peer.text :=
      AbnormalRate.sourceOf_eq_some_iff.mpr ⟨client.peer.visible, rfl⟩
    change ((AbnormalRate.sourceOf _).map _).toList = _
    rw [source, timeOf_stamp]
    rfl
  · rw [if_neg throttled, line, logged, if_neg throttled]
    split <;> rfl

/-- The gateway logs no other signal. -/
theorem filterMap_line_of_ne {kinds : List EventType}
    (apart : ∀ kind ∈ [EventType.unauthorisedAccess, .rateLimitExceeded], kind ∉ kinds)
    {signalOf : SecurityEvent → Option Signal}
    (silent : ∀ event, event.eventType ∉ kinds → signalOf event = none) :
    (line recorded status stamp).filterMap signalOf = [] := by
  rw [List.filterMap_eq_nil_iff]
  intro event hevent
  refine silent event (apart _ ?_)
  unfold line logged at hevent
  split at hevent
  · rw [List.mem_singleton.mp hevent]
    exact List.mem_cons_of_mem _ List.mem_cons_self
  · split at hevent
    · rw [List.mem_singleton.mp hevent]
      exact List.mem_cons_self
    · cases hevent

end Logged

/-! ### The whole of it -/

theorem filterMap_lookups (signalOf : SecurityEvent → Option Signal) (host : Address)
    {correlationId : Str} (correlation : ¬ Blank correlationId)
    (signals : Lookup → List Signal) (lookups : List Lookup)
    (reads : ∀ lookup : Lookup, (hop .asset (lookup.recorded host correlation) lookup.stamps
      (lookup.reports.map Stamped.event) lookup.answer).filterMap signalOf = signals lookup) :
    (lookups.flatMap fun lookup => hop .asset (lookup.recorded host correlation) lookup.stamps
      (lookup.reports.map Stamped.event) lookup.answer).filterMap signalOf =
        lookups.flatMap signals := by
  rw [List.filterMap_flatMap]
  exact List.flatMap_congr fun lookup _ => reads lookup

section Handling

variable [UnicodeDb] {client : ClientRequest} (recorded : client.Recorded) (gateway : Address)

/-- The refusals of services. -/
theorem filterMap_handling_ofRefusal (handling : Handling) :
    (handling.events recorded gateway).filterMap Signal.ofRefusal = handling.refusals client := by
  cases handling with
  | turnedAway status => rfl
  | failedLogin username reason report stamps =>
      rw [Handling.events, filterMap_hop, ofRefusal_received, filterMap_closing_refused]
      rfl
  | incident host lookups reports answer stamps =>
      have none_of_lookups := filterMap_lookups Signal.ofRefusal host recorded.correlation
        (fun _ => []) lookups fun lookup => by
          rw [filterMap_hop, ofRefusal_received, filterMap_reports ofRefusal_report,
            filterMap_closing_granted _ _ _ (not_or.mpr lookup.granted)]
          rfl
      rw [Handling.events, filterMap_hop, ofRefusal_received, filterMap_closing_refused,
        List.filterMap_append, none_of_lookups, filterMap_reports ofRefusal_report]
      simp [Handling.refusals]
  | served service reports answer stamps =>
      rw [Handling.events, filterMap_hop, ofRefusal_received, filterMap_closing_refused,
        filterMap_reports ofRefusal_report]
      rfl

/-- The arrivals at services. -/
theorem filterMap_handling_ofRequest (handling : Handling) :
    (handling.events recorded gateway).filterMap Signal.ofRequest =
      handling.arrivals client ++ handling.lookupArrivals := by
  have closes {request : Request} {correlationId : Str} (service : ServiceName)
      (recorded : request.Recorded correlationId) (stamps : Stamps) (answer : Answer) :
      (closing service recorded stamps answer).filterMap Signal.ofRequest = [] :=
    filterMap_closing_of_ne (by decide) (fun _ => ofRequest_of_ne) service recorded stamps answer
  have reports (reports : List Stamped) :
      (reports.map Stamped.event).filterMap Signal.ofRequest = [] :=
    filterMap_reports (fun report => ofRequest_of_ne (not_ofKind (by decide))) reports
  have arrives (stamps : Stamps) :
      ((Exchange.rateSource client).map fun source => (source, moment stamps.arrival)).toList =
        arrivals client stamps := by
    unfold arrivals
    cases Exchange.rateSource client <;> rfl
  cases handling with
  | turnedAway status => rfl
  | failedLogin username reason report stamps =>
      rw [Handling.events, filterMap_hop, ofRequest_received, arrives, closes]
      simp only [Handling.arrivals, Handling.lookupArrivals, List.append_nil]
      exact List.append_nil _
  | incident host lookups served answer stamps =>
      have looked := filterMap_lookups Signal.ofRequest host recorded.correlation
        (fun lookup => [(host.text, moment lookup.stamps.arrival)]) lookups
        fun lookup => by
          rw [filterMap_hop, ofRequest_lookup lookup host recorded.correlation, reports, closes]
          rfl
      rw [Handling.events, filterMap_hop, ofRequest_received, arrives, closes,
        List.filterMap_append, looked, reports]
      simp [Handling.arrivals, Handling.lookupArrivals, List.map_eq_flatMap]
  | served service served answer stamps =>
      rw [Handling.events, filterMap_hop, ofRequest_received, arrives, closes, reports]
      simp [Handling.arrivals, Handling.lookupArrivals]

/-- A signal neither the middleware nor a report carries comes from a failed
login alone. -/
theorem filterMap_handling_of_ne {kinds : List EventType}
    (apart : ∀ kind ∈ .serviceError :: .requestCompleted :: .requestReceived :: reportTypes,
      kind ∉ kinds)
    {signalOf : SecurityEvent → Option Signal}
    (silent : ∀ event, event.eventType ∉ kinds → signalOf event = none) (handling : Handling) :
    (handling.events recorded gateway).filterMap signalOf =
      match handling with
      | .failedLogin username reason report _ =>
          (signalOf ((AuthService.failureEvent username (clientIp (client.upstream gateway))
            recorded.correlation reason).stamp report)).toList
      | _ => [] := by
  have closes {request : Request} {correlationId : Str} (service : ServiceName)
      (recorded : request.Recorded correlationId) (stamps : Stamps) (answer : Answer) :
      (closing service recorded stamps answer).filterMap signalOf = [] :=
    filterMap_closing_of_ne (fun kind hkind => apart kind (by
      rcases List.mem_cons.mp hkind with rfl | hkind
      · exact List.mem_cons_self
      · exact List.mem_cons_of_mem _ (List.mem_singleton.mp hkind ▸ List.mem_cons_self)))
      silent service recorded stamps answer
  have receives {request : Request} {correlationId : Str} (service : ServiceName)
      (recorded : request.Recorded correlationId) (stamp : Stamp) :
      signalOf ((receivedEvent service recorded).stamp stamp) = none :=
    silent _ (apart _ (List.mem_cons_of_mem _ (List.mem_cons_of_mem _ List.mem_cons_self)))
  have reports (reports : List Stamped) :
      (reports.map Stamped.event).filterMap signalOf = [] :=
    filterMap_reports (fun report => silent _ (not_ofKind fun kind hkind =>
      apart kind (List.mem_cons_of_mem _ (List.mem_cons_of_mem _
        (List.mem_cons_of_mem _ hkind))))) reports
  cases handling with
  | turnedAway status => rfl
  | failedLogin username reason report stamps =>
      have alone (event : SecurityEvent) :
          [event].filterMap signalOf = (signalOf event).toList := by
        rw [List.filterMap_cons]
        cases signalOf event <;> rfl
      rw [Handling.events, filterMap_hop, receives, closes, List.append_nil]
      exact alone _
  | incident host lookups served answer stamps =>
      have looked := filterMap_lookups signalOf host recorded.correlation (fun _ => []) lookups
        fun lookup => by
          rw [filterMap_hop, receives, reports, closes]
          rfl
      rw [Handling.events, filterMap_hop, receives, closes, List.filterMap_append, looked, reports]
      simp
  | served service served answer stamps =>
      rw [Handling.events, filterMap_hop, receives, closes, reports]
      rfl

end Handling

namespace Exchange

variable [UnicodeDb] (exchange : Exchange)

theorem filterMap_events (signalOf : SecurityEvent → Option Signal)
    (ofHandling ofLine : ClientRequest → Handling → Stamp → List Signal)
    (handled : ∀ {client : ClientRequest} (recorded : client.Recorded) (gateway : Address) handling
      stamp, (handling.events recorded gateway).filterMap signalOf =
        ofHandling client handling stamp)
    (lines : ∀ {client : ClientRequest} (recorded : client.Recorded) handling stamp,
      (line recorded (Handling.status handling) stamp).filterMap signalOf =
        ofLine client handling stamp) :
    exchange.events.filterMap signalOf =
      exchange.signals ofHandling ++ exchange.signals ofLine := by
  unfold events signals
  cases exchange.outcome with
  | silent => rfl
  | handled recorded handling stamp =>
      rw [List.filterMap_append, handled recorded exchange.gateway handling stamp]
      exact congrArg (ofHandling _ handling stamp ++ ·) (lines recorded handling stamp)

omit [UnicodeDb] in
/-- A signal no line of the gateway carries. -/
theorem signals_nil : exchange.signals (fun _ _ _ => []) = [] := by
  unfold signals
  cases exchange.outcome <;> rfl

theorem filterMap_ofRefusal :
    exchange.events.filterMap Signal.ofRefusal = exchange.refusals ++ exchange.gatewayRefusals :=
  exchange.filterMap_events _ _ _
    (fun recorded gateway handling _ => filterMap_handling_ofRefusal recorded gateway handling)
    fun recorded handling stamp => filterMap_line_ofRefusal recorded handling.status stamp

theorem filterMap_ofRequest :
    exchange.events.filterMap Signal.ofRequest = exchange.arrivals ++ exchange.lookups := by
  rw [exchange.filterMap_events _
    (fun client handling _ => handling.arrivals client ++ handling.lookupArrivals) (fun _ _ _ => [])
    (fun recorded gateway handling _ => filterMap_handling_ofRequest recorded gateway handling)
    fun recorded handling stamp =>
      filterMap_line_of_ne recorded handling.status stamp (by decide) fun _ => ofRequest_of_ne]
  rw [signals_nil, List.append_nil, arrivals, lookups]
  unfold signals
  cases exchange.outcome <;> rfl

theorem filterMap_ofThrottle :
    exchange.events.filterMap Signal.ofThrottle = exchange.throttles := by
  rw [exchange.filterMap_events _ (fun _ _ _ => []) _ ?_
    fun recorded handling stamp => filterMap_line_ofThrottle recorded handling.status stamp]
  · rw [signals_nil]
    rfl
  · intro client recorded gateway handling stamp
    rw [filterMap_handling_of_ne recorded gateway (by decide) fun _ => ofThrottle_of_ne]
    cases handling <;> rfl

theorem filterMap_ofAccount :
    exchange.events.filterMap Signal.ofAccount = exchange.accounts := by
  rw [exchange.filterMap_events _ (fun _ handling _ => handling.accounts) (fun _ _ _ => []) ?_
    fun recorded handling stamp =>
      filterMap_line_of_ne recorded handling.status stamp (by decide) fun _ => ofAccount_of_ne]
  · rw [signals_nil, List.append_nil]
    rfl
  · intro client recorded gateway handling stamp
    rw [filterMap_handling_of_ne recorded gateway (by decide) fun _ => ofAccount_of_ne]
    cases handling with
    | failedLogin username reason report stamps =>
        change (some (username, timeOf _)).toList = _
        rw [timeOf_stamp]
        rfl
    | _ => rfl

theorem filterMap_ofAddress :
    exchange.events.filterMap Signal.ofAddress = exchange.addresses := by
  rw [exchange.filterMap_events _ (fun client handling _ => handling.addresses client)
    (fun _ _ _ => []) ?_
    fun recorded handling stamp =>
      filterMap_line_of_ne recorded handling.status stamp (by decide) fun _ => ofAddress_of_ne]
  · rw [signals_nil, List.append_nil]
    rfl
  · intro client recorded gateway handling stamp
    rw [filterMap_handling_of_ne recorded gateway (by decide) fun _ => ofAddress_of_ne]
    cases handling with
    | failedLogin username reason report stamps =>
        change ((clientIp (client.upstream gateway)).map fun sourceIp =>
          (sourceIp, timeOf _)).toList = _
        rw [clientIp_upstream, timeOf_stamp]
        rfl
    | _ => rfl

/-- Every event of an exchange carries a timestamp a service minted. -/
theorem exists_stamp_of_mem {event : SecurityEvent} (hevent : event ∈ exchange.events) :
    ∃ (body : EventBody) (stamp : Stamp), event = body.stamp stamp := by
  have closes {request : Request} {correlationId : Str} {service : ServiceName}
      {recorded : request.Recorded correlationId} {stamps : Stamps} {answer : Answer}
      (mem : event ∈ closing service recorded stamps answer) :
      ∃ (body : EventBody) (stamp : Stamp), event = body.stamp stamp := by
    cases answer with
    | unhandled raised => exact ⟨_, _, List.mem_singleton.mp mem⟩
    | status code inRange =>
        rcases List.mem_append.mp mem with failing | completed
        · split at failing
          · exact ⟨_, _, List.mem_singleton.mp failing⟩
          · cases failing
        · exact ⟨_, _, List.mem_singleton.mp completed⟩
  have hops {request : Request} {correlationId : Str} {service : ServiceName}
      {recorded : request.Recorded correlationId} {stamps : Stamps} {answer : Answer}
      {handled : List SecurityEvent} (mem : event ∈ hop service recorded stamps handled answer)
      (inner : event ∈ handled → ∃ (body : EventBody) (stamp : Stamp), event = body.stamp stamp) :
      ∃ (body : EventBody) (stamp : Stamp), event = body.stamp stamp := by
    rcases List.mem_cons.mp mem with received | mem
    · exact ⟨_, _, received⟩
    · exact (List.mem_append.mp mem).elim inner closes
  have reports {reports : List Stamped} (mem : event ∈ reports.map Stamped.event) :
      ∃ (body : EventBody) (stamp : Stamp), event = body.stamp stamp := by
    obtain ⟨report, -, rfl⟩ := List.mem_map.mp mem
    exact ⟨_, _, rfl⟩
  unfold events at hevent
  split at hevent
  · cases hevent
  · next recorded handling stamp _ =>
    rcases List.mem_append.mp hevent with handled | line
    · cases handling with
      | turnedAway status => cases handled
      | failedLogin username reason report stamps =>
          exact hops handled fun mem => ⟨_, _, List.mem_singleton.mp mem⟩
      | incident host lookups served answer stamps =>
          refine hops handled fun mem => (List.mem_append.mp mem).elim (fun mem => ?_) reports
          obtain ⟨lookup, -, mem⟩ := List.mem_flatMap.mp mem
          exact hops mem reports
      | served service served answer stamps => exact hops handled reports
    · obtain ⟨body, -, rfl⟩ := Option.map_eq_some_iff.mp (Option.mem_toList.mp line)
      exact ⟨_, _, rfl⟩

end Exchange

/-! ## One stream -/

section Stream

variable [UnicodeDb] {stream : EventStore} {history : List Exchange}

/-- Every timestamp of a stream can be read. -/
theorem readable_of_streams (streams : Streams stream history) : Readable stream.events := by
  intro event hevent
  obtain ⟨exchange, -, hevent⟩ := List.mem_flatMap.mp (streams.mem_iff.mp hevent)
  obtain ⟨body, stamp, rfl⟩ := exchange.exists_stamp_of_mem hevent
  rw [strptime_stamp]
  rfl

/-- How many signals of one kind a window counts for a name in a history. -/
def tallied (signals : Exchange → List Signal) (window : Micros) (now : Datetime) (name : Str)
    (history : List Exchange) : Nat :=
  Signal.tally window now name (history.flatMap signals)

omit [UnicodeDb] in
theorem tallied_append (first second : Exchange → List Signal) (window : Micros) (now : Datetime)
    (name : Str) (history : List Exchange) :
    tallied (fun exchange => first exchange ++ second exchange) window now name history =
      tallied first window now name history + tallied second window now name history := by
  induction history with
  | nil => rfl
  | cons exchange history ih =>
      simp only [tallied, List.flatMap_cons, Signal.tally_append] at ih ⊢
      omega

theorem tally_stream (streams : Streams stream history)
    {signalOf : SecurityEvent → Option Signal} {signals : Exchange → List Signal}
    (reads : ∀ exchange : Exchange, exchange.events.filterMap signalOf = signals exchange)
    (window : Micros) (now : Datetime) (name : Str) :
    Signal.tally window now name (stream.events.filterMap signalOf) =
      tallied signals window now name history := by
  rw [Signal.tally_perm (streams.filterMap signalOf), List.filterMap_flatMap, tallied]
  exact congrArg _ (List.flatMap_congr fun exchange _ => reads exchange)

variable (streams : Streams stream history) (now : Datetime) (name : Str)

include streams

theorem over_account_iff :
    (Subject.account name).Over now stream.events ↔
      5 ≤ tallied Exchange.accounts FailedLogins.detectionWindow now name history := by
  rw [Subject.over_account, tally_stream streams Exchange.filterMap_ofAccount]

theorem over_address_iff :
    (Subject.address name).Over now stream.events ↔
      5 ≤ tallied Exchange.addresses FailedLogins.detectionWindow now name history := by
  rw [Subject.over_address, tally_stream streams Exchange.filterMap_ofAddress]

theorem over_refused_iff :
    (Subject.refused name).Over now stream.events ↔
      3 ≤ tallied Exchange.refusals UnauthorisedAccess.detectionWindow now name history +
        tallied Exchange.gatewayRefusals UnauthorisedAccess.detectionWindow now name history := by
  rw [Subject.over_refused, tally_stream streams Exchange.filterMap_ofRefusal, tallied_append]

theorem over_source_iff :
    (Subject.source name).Over now stream.events ↔
      3 ≤ tallied Exchange.throttles AbnormalRate.detectionWindow now name history ∨
        30 ≤ tallied Exchange.arrivals AbnormalRate.detectionWindow now name history +
          tallied Exchange.lookups AbnormalRate.detectionWindow now name history := by
  rw [Subject.over_source, tally_stream streams Exchange.filterMap_ofThrottle,
    tally_stream streams Exchange.filterMap_ofRequest, tallied_append]

end Stream

end SentinelIR.Platform
