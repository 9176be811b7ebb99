/-
# What a brute-force run fires

Each failed login leaves four events. Two of them are refusals to the
unauthorised-access rule: the completion of auth-service, recorded under the name
the request claims, and the gateway's line, recorded under the peer. The rule
leaves out only the failure itself, so two logins from one address already amount
to four refusals.
-/

import SentinelIR.Platform.Signals

namespace SentinelIR.Platform

open SentinelIR.Py SentinelIR.Common SentinelIR.Collector SentinelIR.Rules SentinelIR.Services
open SentinelIR.Gateway SentinelIR.Alerts

/-- A login auth-service refuses, with whatever the client put into it. -/
structure LoginAttempt where
  username : Str
  reason : FailureReason
  peer : Address
  userIdHeader : Option Str
  forwardedFor : Option Str
  correlationId : Str
  correlation : ¬ Blank correlationId
  sent : Datetime
  gateway : Address
  report : Stamp
  stamps : Stamps
  logged : Stamp

namespace LoginAttempt

variable (attempt : LoginAttempt)

/-- The request, on the one route that takes no token. -/
def client : ClientRequest where
  method := "POST"
  path := loginEndpoint
  peer := attempt.peer
  token := none
  userIdHeader := attempt.userIdHeader
  forwardedFor := attempt.forwardedFor
  correlationId := attempt.correlationId

theorem recorded : attempt.client.Recorded where
  method := show lit "POST" ∈ permittedMethods by decide
  path := not_blank_lit (by decide +kernel)
  correlation := attempt.correlation
  tracked := show loginEndpoint ∉ untrackedPaths by decide

/-- The exchange of the attempt. -/
def exchange : Exchange where
  client := attempt.client
  sent := attempt.sent
  gateway := attempt.gateway
  outcome :=
    .handled attempt.recorded (.failedLogin attempt.username attempt.reason attempt.report
      attempt.stamps) attempt.logged

/-- The four events of an attempt, in the words of their emitters. -/
theorem events_eq [UnicodeDb] :
    attempt.exchange.events.map (·.toEventFields) =
      [SecurityEventMiddleware.received .auth (attempt.client.upstream attempt.gateway)
          attempt.correlationId,
        AuthService.failureFields attempt.username
          (clientIp (attempt.client.upstream attempt.gateway)) attempt.correlationId attempt.reason,
        SecurityEventMiddleware.completed .auth (attempt.client.upstream attempt.gateway)
          attempt.correlationId 401,
        refusedFields attempt.client 401] := rfl

end LoginAttempt

/-- The instant falls into the window. -/
def Within (window : Micros) (now : Datetime) (instant : Micros) : Prop :=
  now.instant - window ≤ instant ∧ instant ≤ now.instant

instance (window : Micros) (now : Datetime) (instant : Micros) :
    Decidable (Within window now instant) := inferInstanceAs (Decidable (_ ∧ _))

/-- How often a run of attempts is held against a name: once for each completion
auth-service records under it and once for each line the gateway does. -/
def charges (now : Datetime) (caller : Str) (attempts : List LoginAttempt) : Nat :=
  attempts.countP (fun attempt => Exchange.recordedCaller attempt.client = caller ∧
      Within UnauthorisedAccess.detectionWindow now (moment attempt.stamps.completion)) +
    attempts.countP fun attempt => attempt.peer.text = caller ∧
      Within UnauthorisedAccess.detectionWindow now (moment attempt.logged)

theorem charges_eq (now : Datetime) (caller : Str) (attempts : List LoginAttempt) :
    charges now caller attempts =
      tallied Exchange.refusals UnauthorisedAccess.detectionWindow now caller
          (attempts.map LoginAttempt.exchange) +
        tallied Exchange.gatewayRefusals UnauthorisedAccess.detectionWindow now caller
          (attempts.map LoginAttempt.exchange) := by
  have counted (instant : LoginAttempt → Stamp) (name : LoginAttempt → Str)
      (signals : Exchange → List Signal)
      (one : ∀ attempt : LoginAttempt,
        signals attempt.exchange = [(name attempt, moment (instant attempt))]) :
      tallied signals UnauthorisedAccess.detectionWindow now caller
          (attempts.map LoginAttempt.exchange) =
        attempts.countP fun attempt => name attempt = caller ∧
          Within UnauthorisedAccess.detectionWindow now (moment (instant attempt)) := by
    have list : (attempts.map LoginAttempt.exchange).flatMap signals =
        attempts.map fun attempt => (name attempt, moment (instant attempt)) := by
      rw [List.flatMap_map, List.map_eq_flatMap]
      exact List.flatMap_congr fun attempt _ => one attempt
    rw [tallied, list, Signal.tally, List.countP_map]
    rfl
  rw [charges, counted (·.stamps.completion) (Exchange.recordedCaller ·.client) Exchange.refusals
      fun _ => rfl,
    counted (·.logged) (·.peer.text) Exchange.gatewayRefusals fun _ => rfl]

/-- The unauthorised-access rule stays silent over a run of failed logins exactly
while no name is charged three times inside its window. -/
theorem silent_iff_uncharged [UnicodeDb] {stream : EventStore} {attempts : List LoginAttempt}
    (streams : Streams stream (attempts.map LoginAttempt.exchange)) (now : Datetime) :
    (∀ bodies, UnauthorisedAccess.evaluate stream now = .ok bodies → bodies = []) ↔
      (WindowFits UnauthorisedAccess.detectionWindow now →
        ∀ caller, charges now caller attempts < 3) := by
  rw [refusals_silent_iff (readable_of_streams streams)]
  refine forall_congr' fun _ => forall_congr' fun caller => ?_
  rw [over_refused_iff streams now caller, charges_eq, Nat.not_le]

/-! ## Two logins are enough -/

/-- A second of the demonstration's first minute. -/
def tick (n : Fin 60) : Stamp where
  suffix := n
  clock :=
    { time :=
        { year := 2026, month := 9, day := 4, hour := 12, minute := 0, second := n
          microsecond := 0
          valid := noon_valid n }
      epoch := after_epoch }

/-- An address as a literal. -/
def address (text : String) (visible : lit text ≠ [])
    (plain : ((lit text).all fun c => c ≠ codePoint ',' ∧ isSpace c = false) = true) : Address where
  text := text
  visible := visible
  plain := fun c hc => of_decide_eq_true (List.all_eq_true.mp plain c hc)

/-- The gateway's host. -/
def kong : Address := address "172.18.0.5" (by decide +kernel) (by decide +kernel)

/-- A client's host. -/
def attacker : Address := address "203.0.113.9" (by decide +kernel) (by decide +kernel)

/-- The logins of a minute may be counted by numerals. -/
instance logins_neZero : NeZero 15 := ⟨by decide⟩

/-- A wrong password for `root`, and the four seconds it takes. -/
def wrongPassword (n : Fin 15) : LoginAttempt where
  username := "root"
  reason := .badPassword
  peer := attacker
  userIdHeader := none
  forwardedFor := none
  correlationId := "corr-000000000001"
  correlation := lit_correlation_visible
  sent := (tick ⟨4 * n, by omega⟩).clock.time
  gateway := kong
  report := tick ⟨4 * n + 1, by omega⟩
  stamps := ⟨tick ⟨4 * n, by omega⟩, tick ⟨4 * n + 2, by omega⟩, tick ⟨4 * n + 2, by omega⟩⟩
  logged := tick ⟨4 * n + 3, by omega⟩

/-- What the two logins leave. -/
def twoLogins [UnicodeDb] : EventStore :=
  ⟨([wrongPassword 0, wrongPassword 1].map LoginAttempt.exchange).flatMap Exchange.events⟩

theorem charged_twoLogins :
    ¬ charges (tick 10).clock.time "203.0.113.9" [wrongPassword 0, wrongPassword 1] < 3 := by
  decide +kernel

theorem fits_tick : WindowFits UnauthorisedAccess.detectionWindow (tick 10).clock.time := by
  decide +kernel

/-- The rule alerts on two failed logins. -/
theorem twoLogins_alert : letI : UnicodeDb := ⟨fun _ => true⟩
    ¬ ∀ (stream : EventStore) (attempts : List LoginAttempt) (now : Datetime)
      (bodies : List AlertBody), Streams stream (attempts.map LoginAttempt.exchange) →
        UnauthorisedAccess.evaluate stream now = .ok bodies → bodies = [] := by
  let _ : UnicodeDb := ⟨fun _ => true⟩
  intro silent
  have streams : Streams twoLogins ([wrongPassword 0, wrongPassword 1].map LoginAttempt.exchange) :=
    List.Perm.refl _
  have readable := readable_of_streams streams
  have quiet := (refusals_silent_iff readable).mp
    (fun bodies => silent twoLogins _ (tick 10).clock.time bodies streams) fits_tick "203.0.113.9"
  rw [over_refused_iff streams, ← charges_eq, Nat.not_le] at quiet
  exact charged_twoLogins quiet

/-- The two logins are charged, so the rule does not stay silent. -/
theorem silent_iff_uncharged_twoLogins : letI : UnicodeDb := ⟨fun _ => true⟩
    ¬ ∀ bodies, UnauthorisedAccess.evaluate twoLogins (tick 10).clock.time = .ok bodies →
      bodies = [] := by
  let _ : UnicodeDb := ⟨fun _ => true⟩
  intro silent
  have streams : Streams twoLogins ([wrongPassword 0, wrongPassword 1].map LoginAttempt.exchange) :=
    List.Perm.refl _
  exact charged_twoLogins ((silent_iff_uncharged streams _).mp silent fits_tick _)

end SentinelIR.Platform
