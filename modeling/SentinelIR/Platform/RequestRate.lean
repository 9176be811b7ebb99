/-
# Who is over the rate

The rate rule counts what services receive, and not everything a service receives
is a client's. Each attempt to look an asset up arrives at asset-service from the
host of incident-service, so a few clients raising incidents can put that host
over the rate; and what a client forwards in front of its own address is counted
instead of it.
-/

import SentinelIR.Platform.BruteForce

namespace SentinelIR.Platform

open SentinelIR.Py SentinelIR.Common SentinelIR.Collector SentinelIR.Rules SentinelIR.Services
open SentinelIR.Gateway SentinelIR.Alerts

/-- No client sends as many requests as the rule counts inside any minute. -/
def UnderRate (history : List Exchange) : Prop :=
  ∀ (peer : Str) (start : Micros),
    history.countP (fun exchange => exchange.client.peer.text = peer ∧
      start ≤ exchange.sent.instant ∧ exchange.sent.instant ≤ start + minutes 1) <
        AbnormalRate.requestThreshold

/-- The status the gateway answers with, where it leaves a trace. -/
def Exchange.answered (exchange : Exchange) : Option Nat :=
  match exchange.outcome with
  | .silent => none
  | .handled _ handling _ => some handling.status

/-- The gateway turns no request away for its rate. -/
def Unthrottled (history : List Exchange) : Prop :=
  ∀ exchange ∈ history, exchange.answered ≠ some 429

instance (history : List Exchange) : Decidable (Unthrottled history) :=
  inferInstanceAs (Decidable (∀ exchange ∈ history, _))

theorem tallied_throttles {history : List Exchange} (unthrottled : Unthrottled history)
    (window : Micros) (now : Datetime) (source : Str) :
    tallied Exchange.throttles window now source history = 0 := by
  have none : history.flatMap Exchange.throttles = [] := by
    rw [List.flatMap_eq_nil_iff]
    intro exchange hexchange
    have answered := unthrottled exchange hexchange
    unfold Exchange.answered at answered
    unfold Exchange.throttles Exchange.signals
    split
    · rfl
    · next recorded handling stamp houtcome =>
        rw [houtcome] at answered
        exact if_neg fun throttled => answered (congrArg some throttled)
  rw [tallied, none]
  rfl

/-- Requests received at the services under one source, as clients' requests and
as lookups. -/
def received (now : Datetime) (source : Str) (history : List Exchange) : Nat :=
  tallied Exchange.arrivals AbnormalRate.detectionWindow now source history +
    tallied Exchange.lookups AbnormalRate.detectionWindow now source history

/-- Under a rate the gateway lets through, the rate rule stays silent exactly
while no source collects thirty arrivals, its lookups among them. -/
theorem rate_silent_iff_spread [UnicodeDb] {stream : EventStore} {history : List Exchange}
    (streams : Streams stream history) :
    (UnderRate history → Unthrottled history →
      ∀ now bodies, AbnormalRate.evaluate stream now = .ok bodies → bodies = []) ↔
    (UnderRate history → Unthrottled history →
      ∀ now, WindowFits AbnormalRate.detectionWindow now →
        ∀ source, received now source history < 30) := by
  refine forall_congr' fun _ => forall_congr' fun unthrottled => forall_congr' fun now => ?_
  rw [rate_silent_iff (readable_of_streams streams)]
  refine forall_congr' fun _ => forall_congr' fun source => ?_
  rw [over_source_iff streams, tallied_throttles unthrottled, not_or, Nat.not_le, Nat.not_le]
  exact and_iff_right (by decide)

/-! ## Ten incidents -/

/-- The host of incident-service. -/
def incidentHost : Address := address "172.18.0.7" (by decide +kernel) (by decide +kernel)

/-- One attempt to read the asset, with what asset-service answers. -/
def attempt (n : Fin 60) (code : Nat) (inRange : 100 ≤ code ∧ code ≤ 599)
    (granted : code ≠ 401 ∧ code ≠ 403) : Lookup where
  assetId := 1
  reports := []
  answer := .status code inRange
  stamps := ⟨tick n, tick n, tick n⟩
  granted := granted

/-- An incident raised while asset-service fails twice before it answers. -/
def creation (n : Fin 60) : Exchange where
  client :=
    { method := "POST"
      path := "/api/v1/incidents"
      peer := attacker
      token := some "analyst"
      userIdHeader := none
      forwardedFor := none
      correlationId := "corr-000000000001" }
  sent := (tick n).clock.time
  gateway := kong
  outcome :=
    .handled
      { method := post_permitted
        path := lit_incidents_visible
        correlation := lit_correlation_visible
        tracked := show lit "/api/v1/incidents" ∉ untrackedPaths by decide }
      (.incident incidentHost
        [attempt n 500 (by decide) (by decide), attempt n 500 (by decide) (by decide),
          attempt n 200 (by decide) (by decide)]
        [] (.status 201 (by decide)) ⟨tick n, tick n, tick n⟩)
      (tick n)

/-- Ten incidents by one client in twenty seconds. -/
def tenIncidents : List Exchange :=
  [creation 0, creation 2, creation 4, creation 6, creation 8, creation 10, creation 12,
    creation 14, creation 16, creation 18]

theorem underRate_tenIncidents : UnderRate tenIncidents := fun _ _ =>
  lt_of_le_of_lt List.countP_le_length (show 10 < 30 by decide)

theorem unthrottled_tenIncidents : Unthrottled tenIncidents := by decide

theorem received_tenIncidents :
    ¬ received (tick 20).clock.time "172.18.0.7" tenIncidents < 30 := by decide +kernel

theorem fits_minute : WindowFits AbnormalRate.detectionWindow (tick 20).clock.time := by
  decide +kernel

/-- Ten requests of one client put the host of incident-service over the rate. -/
theorem tenIncidents_alert : letI : UnicodeDb := ⟨fun _ => true⟩
    ¬ ∀ (stream : EventStore) (history : List Exchange) (now : Datetime) (bodies : List AlertBody),
      Streams stream history → UnderRate history → Unthrottled history →
        AbnormalRate.evaluate stream now = .ok bodies → bodies = [] := by
  let _ : UnicodeDb := ⟨fun _ => true⟩
  intro silent
  have streams : Streams ⟨tenIncidents.flatMap Exchange.events⟩ tenIncidents := List.Perm.refl _
  have quiet := (rate_silent_iff (readable_of_streams streams)).mp
    (fun bodies => silent _ _ (tick 20).clock.time bodies streams underRate_tenIncidents
      unthrottled_tenIncidents) fits_minute "172.18.0.7"
  rw [over_source_iff streams, not_or, Nat.not_le, Nat.not_le] at quiet
  exact received_tenIncidents quiet.2

/-- The ten incidents again: the rule does not stay silent over them. -/
theorem rate_silent_iff_spread_tenIncidents : letI : UnicodeDb := ⟨fun _ => true⟩
    ¬ ∀ now bodies, AbnormalRate.evaluate ⟨tenIncidents.flatMap Exchange.events⟩ now = .ok bodies →
      bodies = [] := by
  let _ : UnicodeDb := ⟨fun _ => true⟩
  intro silent
  have streams : Streams ⟨tenIncidents.flatMap Exchange.events⟩ tenIncidents := List.Perm.refl _
  have spread := (rate_silent_iff_spread streams).mp (fun _ _ => silent) underRate_tenIncidents
    unthrottled_tenIncidents
  exact received_tenIncidents (spread _ fits_minute _)

end SentinelIR.Platform
