/-
# The client between services

`ResilientClient.get` puts the breaker around the retry of one request, and turns
a call that failed into the caller's fallback together with the event that says
so. Whether the event is written is decided by the state the breaker had when it
was read, before the call.
-/

import SentinelIR.Common.Breaker
import SentinelIR.Common.Traced

namespace SentinelIR.Common

open SentinelIR.Py

variable {β : Type}

/-- `_SERVER_ERROR_FLOOR`. -/
def serverErrorFloor : Nat := 500

/-- What one `httpx.get` ends with. -/
inductive Response (β : Type)
  /-- `httpx.HTTPError`: no connection, or no answer in time. -/
  | failed (message : Str)
  /-- An answer; a body that is no JSON decodes to nothing. -/
  | answered (status : Nat) (body : Option β)
  /-- Any other exception. -/
  | broken (raised : Exc) (foreign : raised.isTransient = false)

/-- A transport error, a timeout or a server error. -/
def Response.Transient : Response β → Prop
  | failed _ => True
  | answered status _ => serverErrorFloor ≤ status
  | broken _ _ => False

/-- `_attempt`. -/
def attempt (dependency : Str) : Response β → Except Exc β
  | .failed message => .error (.transient message)
  | .answered status body =>
      if serverErrorFloor ≤ status then
        .error (.transient (dependency ++ " returned " ++ decimal status))
      else if 200 ≤ status ∧ status ≤ 299 then
        match body with
        | some value => .ok value
        | none => .error .jsonDecodeError
      else .error (.httpStatus status)
  | .broken raised _ => .error raised

theorem fails_attempt_iff {dependency : Str} {response : Response β} :
    Fails (attempt dependency response) ↔ response.Transient := by
  cases response with
  | failed message => exact Iff.intro (fun _ => trivial) fun _ => rfl
  | broken raised foreign =>
      refine Iff.intro (fun fails => ?_) False.elim
      exact absurd (foreign.symm.trans fails) (by decide)
  | answered status body =>
      rw [attempt.eq_def, Response.Transient]
      dsimp only
      by_cases failing : serverErrorFloor ≤ status
      · rw [if_pos failing]
        exact Iff.intro (fun _ => failing) fun _ => rfl
      · rw [if_neg failing]
        refine iff_of_false ?_ failing
        split
        · cases body with
          | none => exact Bool.false_ne_true
          | some value => exact id
        · exact Bool.false_ne_true

/-- A client of one dependency: who it calls for, whom, and the thresholds. -/
structure ResilientClient where
  serviceName : ServiceName
  dependency : Str
  maxAttempts : Nat
  maxAttempts_pos : 0 < maxAttempts
  breaker : BreakerSettings

/-- One call of `get`: its arguments, whether it declares a fallback, the
correlation id of its context, when the breaker is called and when the attempts
are done, and what each attempt meets. -/
structure Call (β : Type) where
  path : Str
  correlationId : Str
  fallback : Bool
  ambient : Str
  start : Micros
  stop : Micros
  responses : Nat → Response β
  path_visible : ¬ Blank path
  correlation_visible : ¬ Blank correlationId
  ambient_visible : ¬ Blank ambient

/-- What `get` returns: the decoded body, or the caller's fallback. -/
inductive Fetched (β : Type)
  | body (value : β)
  | fallback

namespace ResilientClient

variable (client : ResilientClient)

/-! ## Events -/

/-- The fields every event of the client shares. -/
def fields (eventType : EventType) (severity : Severity) (endpoint message correlationId : Str) :
    EventFields where
  serviceName := client.serviceName
  eventType := eventType
  severity := severity
  endpoint := endpoint
  httpMethod := "GET"
  statusCode := 503
  message := message
  correlationId := correlationId
  affectedEntity := some client.dependency

theorem fields_valid {eventType : EventType} {severity : Severity}
    {endpoint message correlationId : Str} (path : ¬ Blank endpoint) (visible : ¬ Blank message)
    (correlation : ¬ Blank correlationId) :
    (client.fields eventType severity endpoint message correlationId).Valid where
  method := show lit "GET" ∈ permittedMethods by decide
  status := show (100 : Int) ≤ 503 ∧ (503 : Int) ≤ 599 by decide
  endpoint := path
  message := visible
  correlation := correlation

/-- The event of `emit_dependency_failure`. -/
def dependencyFailure (call : Call β) (reason : Str) : EventBody :=
  ⟨client.fields .dependencyFailure .high call.path
      ("Call to " ++ client.dependency ++ " failed after retries: " ++ reason) call.correlationId,
    client.fields_valid call.path_visible
      (not_blank_append_left (not_blank_append_right (not_blank_lit (by decide +kernel))))
      call.correlation_visible⟩

/-- The event of `BreakerEventListener.state_change`. -/
def changeEvent (call : Call β) : Change → EventBody
  | .opened =>
      ⟨client.fields .circuitOpened .high ("/" ++ client.dependency)
          ("Circuit breaker opened for " ++ client.dependency ++ " after " ++
            decimal client.breaker.failMax ++ " consecutive failures; calls now return the " ++
            "fallback without touching the network") call.ambient,
        client.fields_valid (not_blank_append_left (not_blank_lit (by decide +kernel)))
          (not_blank_append_right (not_blank_lit (by decide +kernel))) call.ambient_visible⟩
  | .closed =>
      ⟨client.fields .circuitClosed .low ("/" ++ client.dependency)
          ("Circuit breaker closed for " ++ client.dependency ++ "; live calls resumed")
          call.ambient,
        client.fields_valid (not_blank_append_left (not_blank_lit (by decide +kernel)))
          (not_blank_append_right (not_blank_lit (by decide +kernel))) call.ambient_visible⟩

/-! ## The call -/

/-- `_call_with_retry`: the last attempt's result, and how many were made. -/
def callWithRetry (call : Call β) : Except Exc β × Nat :=
  retrying (fun n => attempt client.dependency (call.responses n)) (client.maxAttempts - 1) 0

/-- All attempts of the call fail transiently. -/
def Exhausts (call : Call β) : Prop := Fails (client.callWithRetry call).1

instance (call : Call β) : Decidable (client.Exhausts call) :=
  inferInstanceAs (Decidable (Fails _))

/-- A call that spent its retries ends with the failure of its last attempt. -/
theorem Exhausts.raised {client : ResilientClient} {call : Call β}
    (exhausts : client.Exhausts call) :
    ∃ raised, (client.callWithRetry call).1 = .error raised ∧ raised.isTransient = true := by
  unfold Exhausts at exhausts
  cases hresult : (client.callWithRetry call).1 with
  | ok value =>
      rw [hresult] at exhausts
      exact exhausts.elim
  | error raised =>
      rw [hresult] at exhausts
      exact ⟨raised, rfl, exhausts⟩

/-- `_degrade`, apart from the event. -/
def degrade (call : Call β) (reason : Str) : Except Exc (Fetched β) :=
  if call.fallback then .ok .fallback
  else
    .error (.sentinel
      { kind := .dependencyUnavailable
        message := client.dependency ++ " could not be reached: " ++ reason
        details :=
          [("dependency", .text client.dependency), ("path", .text call.path),
            ("reason", .text reason)] })

/-- What one `get` leaves: the breaker, its result, its events, and the number of
attempts it made. -/
structure Got (β : Type) where
  breaker : Breaker
  result : Except Exc (Fetched β)
  events : List EventBody
  attempts : Nat

/-- `str(exc)`, for the failures the client counts. -/
def reasonOf : Exc → Str
  | .transient message => message
  | _ => []

/-- The text of pybreaker's refusal. -/
def refusedText : Str := "Timeout not elapsed yet, circuit breaker still open"

/-- `get`, with the state of the breaker as it was read before the call. -/
def get (breaker : Breaker) (wasOpen : Bool) (call : Call β) : Got β :=
  let step := breaker.call client.breaker call.start call.stop (client.callWithRetry call).1
  let changes := step.changes.map (client.changeEvent call)
  match step.verdict with
  | .refused =>
      { breaker := step.breaker
        result := client.degrade call (if wasOpen then "circuit breaker is open" else refusedText)
        events := changes ++ if wasOpen then [] else [client.dependencyFailure call refusedText]
        attempts := 0 }
  | .tripped cause =>
      { breaker := step.breaker
        result :=
          client.degrade call (if wasOpen then "circuit breaker is open" else reasonOf cause)
        events := changes ++ if wasOpen then [] else [client.dependencyFailure call (reasonOf cause)]
        attempts := (client.callWithRetry call).2 }
  | .passed result =>
      match result with
      | .ok value => ⟨step.breaker, .ok (.body value), changes, (client.callWithRetry call).2⟩
      | .error raised =>
          if raised.isTransient then
            { breaker := step.breaker
              result := client.degrade call (reasonOf raised)
              events := changes ++ [client.dependencyFailure call (reasonOf raised)]
              attempts := (client.callWithRetry call).2 }
          else ⟨step.breaker, .error raised, changes, (client.callWithRetry call).2⟩

/-! ### What a call can do -/

/-- The dependency failures among some events. -/
def failures (events : List EventBody) : List EventBody :=
  events.filter fun event => event.eventType == .dependencyFailure

theorem failures_changes (call : Call β) (changes : List Change) :
    failures (changes.map (client.changeEvent call)) = [] := by
  rw [failures, List.filter_eq_nil_iff]
  intro event hevent
  obtain ⟨change, -, rfl⟩ := List.mem_map.mp hevent
  cases change <;> exact Bool.false_ne_true

section Get

variable {client} {breaker : Breaker} (wasOpen : Bool) {call : Call β}

/-- A blocked call makes no attempt and leaves the breaker alone. -/
theorem get_of_blocks (blocks : breaker.Blocks client.breaker call.start) :
    (client.get breaker wasOpen call).breaker = breaker ∧
      (client.get breaker wasOpen call).attempts = 0 ∧
      (client.get breaker wasOpen call).events =
        if wasOpen then [] else [client.dependencyFailure call refusedText] := by
  unfold get
  rw [Breaker.call_of_blocks blocks]
  exact ⟨rfl, rfl, rfl⟩

/-- A call that is made and gets an answer it does not count leaves the breaker
closed with nothing counted, and no failure on the stream. -/
theorem get_of_settled (free : ¬ breaker.Blocks client.breaker call.start)
    (settled : ¬ client.Exhausts call) :
    (client.get breaker wasOpen call).breaker = ⟨.closed, 0⟩ ∧
      (client.get breaker wasOpen call).attempts = (client.callWithRetry call).2 ∧
      failures (client.get breaker wasOpen call).events = [] := by
  obtain ⟨changes, hcall⟩ := Breaker.call_of_settled call.stop free settled
  unfold get
  rw [hcall]
  dsimp only
  cases hresult : (client.callWithRetry call).1 with
  | ok value => exact ⟨rfl, rfl, client.failures_changes call changes⟩
  | error raised =>
      have foreign : raised.isTransient = false := by
        unfold Exhausts at settled
        rw [hresult] at settled
        exact Bool.eq_false_iff.mpr settled
      simp only [foreign, Bool.false_eq_true, if_false]
      exact ⟨trivial, trivial, client.failures_changes call changes⟩

/-- A call below the threshold of a closed breaker is counted once and reported. -/
theorem get_of_counted (closed : breaker.state = .closed) (exhausts : client.Exhausts call)
    (below : breaker.failCounter + 1 < client.breaker.failMax) :
    (client.get breaker wasOpen call).breaker = ⟨.closed, breaker.failCounter + 1⟩ ∧
      (client.get breaker wasOpen call).attempts = (client.callWithRetry call).2 ∧
      ∃ reason, failures (client.get breaker wasOpen call).events =
        [client.dependencyFailure call reason] := by
  obtain ⟨raised, hresult, transient⟩ := exhausts.raised
  unfold get
  rw [hresult, Breaker.call_of_counted closed transient below]
  simp only [transient, if_true]
  exact ⟨trivial, trivial, reasonOf raised, rfl⟩

/-- A call that opens the breaker is reported exactly when the breaker had not
been read as open. -/
theorem get_of_opening (free : ¬ breaker.Blocks client.breaker call.start)
    (exhausts : client.Exhausts call)
    (opens : breaker.isOpen = true ∨ client.breaker.failMax ≤ breaker.failCounter + 1) :
    (client.get breaker wasOpen call).breaker = ⟨.opened call.stop, breaker.failCounter + 1⟩ ∧
      (client.get breaker wasOpen call).attempts = (client.callWithRetry call).2 ∧
      ∃ reason, failures (client.get breaker wasOpen call).events =
        if wasOpen then [] else [client.dependencyFailure call reason] := by
  obtain ⟨raised, hresult, transient⟩ := exhausts.raised
  unfold get
  rw [hresult, Breaker.call_of_opening free opens transient]
  refine ⟨rfl, rfl, reasonOf raised, ?_⟩
  cases wasOpen <;> rfl

end Get

end ResilientClient

end SentinelIR.Common
