/-
# When two findings become one node

The stable identifier digests what an alert says and which events it cites, not
the grouping key that raised it. An account attacked from a single address, which
attacks nothing else, is reported twice over the same failures: once for the
account and once for the address. The two alerts say the same to the digest and
end up as one node. No other pair of findings collapses.
-/

import SentinelIR.Loader.Loadable

namespace SentinelIR.Loader

open SentinelIR.Py SentinelIR.Common SentinelIR.Alerts SentinelIR.Collector SentinelIR.Rules
open SentinelIR.Graph LoadEvents

/-- Where the identifiers could be computed (`exists_stableAlerts_iff` says where), there is one
node for each alert exactly when no two findings share what is digested; with distinct events,
exactly when no account and address rest on one burst. -/
theorem distinct_nodes_iff [UnicodeDb] {digest : Digest}
    (collisionFree : Function.Injective digest) :
    (∀ ids store now keyed, stableAlerts ids digest store now = .ok keyed →
      ((keyed.map (·.alertId)).Nodup ↔ DistinctFootprints now store.events)) ∧
    (∀ ids clock store now keyed sources, latestMoment clock store = .ok now →
      stableAlerts ids digest store now = .ok keyed →
      collectWrites ids digest clock store = .ok sources →
      (OneNodePerAlert (load sources) keyed ↔ DistinctFootprints now store.events)) ∧
    ∀ now (events : List SecurityEvent), (events.map (·.eventId)).Nodup →
      (DistinctFootprints now events ↔ DistinctBursts now events) := by
  refine ⟨fun ids store now keyed hkeyed => nodup_stableIds_iff collisionFree hkeyed, ?_,
    fun now events distinct => distinctFootprints_iff distinct⟩
  intro ids clock store now keyed sources hnow hkeyed hsources
  obtain ⟨moment, raised, alerts, eventWrites, hmoment, hraised, halerts, hevents, rfl⟩ :=
    exists_of_collectWrites hsources
  obtain rfl : now = moment := Except.ok.inj (hnow.symm.trans hmoment)
  have stable : stableAlerts ids digest store now = .ok alerts :=
    (bind_of_eq_ok hraised _).trans halerts
  obtain rfl : keyed = alerts := Except.ok.inj (hkeyed.symm.trans stable)
  exact (oneNodePerAlert_iff hevents).trans (nodup_stableIds_iff collisionFree hkeyed)

/-! ## One burst, two findings -/

/-- A second of the demonstration's first minute. -/
def second (n : Fin 60) : Clock where
  time :=
    { year := 2026, month := 9, day := 4, hour := 12, minute := 0, second := n, microsecond := 0
      valid := noon_valid n }
  epoch := after_epoch

/-- A failed login of `root` from one address, as auth-service reports it. -/
def failedLogin (n : Fin 60) : SecurityEvent :=
  EventBody.stamp
    ⟨{ serviceName := .auth
       eventType := .authFailed
       severity := .medium
       userId := some "root"
       sourceIp := some "203.0.113.9"
       endpoint := "/api/v1/auth/login"
       httpMethod := "POST"
       statusCode := 401
       message := "Failed login attempt for 'root' (bad_password)."
       correlationId := "corr-000000000001"
       affectedEntity := some "login-endpoint" }, by decide +kernel⟩
    ⟨n, second n⟩

/-- Five failed logins in five seconds. -/
def burst : EventStore :=
  ⟨[failedLogin 1, failedLogin 2, failedLogin 3, failedLogin 4, failedLogin 5]⟩

/-- Everything beyond ASCII prints. -/
@[reducible]
def printsAll : UnicodeDb := ⟨fun _ => true⟩

/-- What the digest sees of both alerts about the burst. -/
def burstMaterial : Str :=
  lit "Multiple Failed Logins|auth-service|root|login-endpoint|" ++
    lit "evt-000000000001,evt-000000000002,evt-000000000003," ++
    lit "evt-000000000004,evt-000000000005"

/-- The first twelve hexadecimal digits of the burst's SHA-1; any other text keeps
itself. -/
def burstDigest : Digest :=
  fun text => if text = burstMaterial then lit "43a3c96dda78" else codePoint 'g' :: text

theorem burstDigest_injective : Function.Injective burstDigest := by
  intro first second same
  have apart (text : Str) : codePoint 'g' :: text ≠ lit "43a3c96dda78" := fun h => by
    have heads : codePoint 'g' = codePoint '4' := (List.cons.inj h).1
    exact absurd heads (by decide)
  simp only [burstDigest] at same
  split at same <;> split at same
  · simp_all
  · exact absurd same.symm (apart _)
  · exact absurd same (apart _)
  · exact (List.cons.inj same).2

theorem over_burst : (Subject.account "root").Over (second 6).time burst.events ∧
    (Subject.address "203.0.113.9").Over (second 6).time burst.events := by
  decide +kernel

theorem same_burst : (Subject.account "root").evidence (second 6).time burst.events =
    (Subject.address "203.0.113.9").evidence (second 6).time burst.events := by
  decide +kernel

theorem found_burst : overSubjects (second 5).time burst.events =
    [.account "root", .address "203.0.113.9"] := by
  decide +kernel

theorem material_burst : letI := printsAll
    ∀ subject ∈ overSubjects (second 5).time burst.events,
      material (subject.alert (second 5).time burst.events) = burstMaterial := by
  let _ := printsAll
  intro subject hsubject
  rw [found_burst, List.mem_cons, List.mem_singleton] at hsubject
  rcases hsubject with rfl | rfl
  · rw [material_alert]
    decide +kernel
  · rw [material_alert]
    decide +kernel

/-- Both findings on the burst have the identifier of its digest. -/
theorem alertId_burst : letI := printsAll
    ∀ keyed, stableAlerts (fun _ => alertIdTag) burstDigest burst (second 5).time = .ok keyed →
      ∀ alert ∈ keyed, alert.alertId = "alt-43a3c96dda78" := by
  let _ := printsAll
  intro keyed hkeyed alert halert
  have entries := stableAlerts_eq_ok hkeyed
  have member : (alert.toAlertFields, alert.alertId) ∈
      keyed.map fun alert => (alert.toAlertFields, alert.alertId) := List.mem_map_of_mem halert
  rw [entries] at member
  obtain ⟨subject, hsubject, same⟩ := List.mem_map.mp member
  have identified : stableId burstDigest (second 5).time burst.events subject = alert.alertId :=
    congrArg Prod.snd same
  rw [← identified, stableId, material_burst subject hsubject, burstDigest, if_pos rfl]
  decide

theorem exists_stableAlerts_burst : letI := printsAll
    ∃ keyed, stableAlerts (fun _ => alertIdTag) burstDigest burst (second 6).time = .ok keyed := by
  have encodable : ∀ event ∈ burst.events, EncodableEvent event := by decide +kernel
  have readable : Readable burst.events := by decide +kernel
  have fits : WindowFits UnauthorisedAccess.detectionWindow (second 6).time := by decide +kernel
  let _ := printsAll
  exact exists_stableAlerts_iff.mpr
    ⟨fits, readable, fun subject hover => attributable_of_encodable encodable hover⟩

/-- The burst's two findings carry one identifier. -/
theorem burst_collapses : letI := printsAll
    ¬ ∀ (ids : AlertIds) (digest : Digest) (store : EventStore) (now : Datetime)
      (keyed : List Alert), Function.Injective digest →
        stableAlerts ids digest store now = .ok keyed → (keyed.map (·.alertId)).Nodup := by
  let _ := printsAll
  intro distinct
  obtain ⟨keyed, hkeyed⟩ := exists_stableAlerts_burst
  have separate := (nodup_stableIds_iff burstDigest_injective hkeyed).mp
    (distinct _ _ _ _ _ burstDigest_injective hkeyed)
  have collapsed := separate _ _ over_burst.1 over_burst.2
    (footprint_account_eq_address over_burst.1 same_burst)
  cases collapsed

/-- The burst again: its identifiers are distinct exactly when its footprints
are, which they are not. -/
theorem distinct_nodes_burst : letI := printsAll
    ¬ DistinctFootprints (second 6).time burst.events ∧
      ∃ keyed, stableAlerts (fun _ => alertIdTag) burstDigest burst (second 6).time = .ok keyed ∧
        ¬ (keyed.map (·.alertId)).Nodup := by
  let _ := printsAll
  have shared : ¬ DistinctFootprints (second 6).time burst.events := fun separate => by
    have collapsed := separate _ _ over_burst.1 over_burst.2
      (footprint_account_eq_address over_burst.1 same_burst)
    cases collapsed
  obtain ⟨keyed, hkeyed⟩ := exists_stableAlerts_burst
  exact ⟨shared, keyed, hkeyed, fun distinct =>
    shared (((distinct_nodes_iff burstDigest_injective).1 _ _ _ _ hkeyed).mp distinct)⟩

end SentinelIR.Loader
