/-
# The live source

On the running stack the collector adds the failing health checks to what was logged, and goes on
without them when Consul cannot be asked. Health is additive: at one moment the first three rules
return what they return without it, Rule 4 keeps every service it names and names besides those
with a critical check in its window, and what the evaluation raises does not depend on it. The
runner reasons from the clock on the live source, so it takes one moment with and without health;
the loader's moment is that of the newest event, which may be a check.
-/

import SentinelIR.Collector.Health
import SentinelIR.Loader.AcceptedLines
import SentinelIR.Rules.Counting
import SentinelIR.Rules.Signals

namespace SentinelIR.Loader

open SentinelIR.Py SentinelIR.Common SentinelIR.Alerts SentinelIR.Collector SentinelIR.Rules

/-- `collect`: the lines of the source, and on the live one the health events, unless they are
not wanted. -/
def collectFrom [Pydantic] [UnicodeDb] (source : Source) (noHealth : Bool)
    (lines : Except Exc (List Str)) (consul : Consul) : Except Exc EventStore := do
  let store ← buildStore (← lines)
  if source = .docker ∧ noHealth = false then
    match healthEvents consul with
    | .ok health => return (store.extend health).1
    | .error _ => return store
  else return store

/-- The store with the events of the failing checks. -/
def withHealth [UnicodeDb] (store : EventStore) (consul : Consul) : EventStore :=
  ⟨store.events ++ consul.checks.filterMap eventOf⟩

/-- Asking Consul changes nothing about whether collecting raises, and adds one event for each
critical check on a service. -/
theorem collectFrom_docker [Pydantic] [UnicodeDb] (lines : Except Exc (List Str))
    (consul : Consul) :
    collectFrom .docker false lines consul =
      (collectFrom .docker true lines consul).map fun store => withHealth store consul := by
  simp only [collectFrom, bind, Except.bind]
  cases lines with
  | error raised => rfl
  | ok lines =>
      dsimp only
      cases buildStore lines with
      | error raised => rfl
      | ok store =>
          dsimp only [Except.map]
          rw [if_pos (by decide), if_neg (by decide)]
          cases consul with
          | error raised =>
              have same : withHealth store (.error raised) = store := by
                rw [withHealth, Consul.checks, List.filterMap_nil, List.append_nil]
              exact congrArg Except.ok same.symm
          | ok checks =>
              have told : healthEvents (.ok checks) = .ok (checks.filterMap eventOf) :=
                eventsFromChecks_eq checks
              rw [told]
              rfl

/-! ## Events a rule does not look at -/

section Unwanted

variable {wanted : SecurityEvent → Bool} {window : Micros} {now : Datetime}
  {events more : List SecurityEvent}

theorem evidence_append (unwanted : ∀ event ∈ more, wanted event = false) :
    evidence wanted window now (events ++ more) = evidence wanted window now events := by
  have none : more.filter (fun event => decide (Windowed window now event) && wanted event) = [] :=
    List.filter_eq_nil_iff.mpr fun event held => by simp [unwanted event held]
  rw [evidence, evidence, chronological, chronological, filter_sortedBy, filter_sortedBy,
    List.filter_append, none, List.append_nil]

/-- A window is empty unless one of the events is wanted and falls into it. -/
theorem evidence_ne_nil :
    evidence wanted window now events ≠ [] ↔
      ∃ event ∈ events, Windowed window now event ∧ wanted event = true := by
  constructor
  · intro found
    obtain ⟨event, held⟩ := List.exists_mem_of_ne_nil _ found
    exact ⟨event, mem_evidence.mp held⟩
  · rintro ⟨event, held⟩
    exact List.ne_nil_of_mem (mem_evidence.mpr held)

theorem readable_append (dated : Readable more) :
    Readable (events ++ more) ↔ Readable events :=
  ⟨fun readable event held => readable event (List.mem_append_left _ held),
    fun readable event held => (List.mem_append.mp held).elim (readable event) (dated event)⟩

/-- A scan passes over what it does not want, and raises as it does without it. -/
theorem recentEvents_append (dated : Readable more)
    (unwanted : ∀ event ∈ more, wanted event = false) :
    recentEvents wanted window ⟨events ++ more⟩ now = recentEvents wanted window ⟨events⟩ now := by
  rw [recentEvents_eq, recentEvents_eq, evidence_append unwanted]
  simp only [readable_append dated]

end Unwanted

/-! ## The four rules -/

section Rules

variable [UnicodeDb] {consul : Consul}

theorem eventType_health {event : SecurityEvent}
    (held : event ∈ consul.checks.filterMap eventOf) :
    event.eventType = .healthCheckFailed := by
  obtain ⟨entry, -, made⟩ := List.mem_filterMap.mp held
  obtain ⟨service, -, rfl⟩ := Option.map_eq_some_iff.mp made
  rfl

theorem readable_health : Readable (consul.checks.filterMap eventOf) := by
  intro event held
  obtain ⟨entry, -, made⟩ := List.mem_filterMap.mp held
  obtain ⟨service, -, rfl⟩ := Option.map_eq_some_iff.mp made
  rw [healthEvent, strptime_stamp]
  rfl

/-- Failed health checks are no failed logins. -/
theorem evaluate_failedLogins (store : EventStore) (now : Datetime) :
    FailedLogins.evaluate (withHealth store consul) now = FailedLogins.evaluate store now := by
  rw [FailedLogins.evaluate, FailedLogins.evaluate, withHealth, recentEvents_append readable_health
    fun event held => by rw [FailedLogins.isFailure, eventType_health held]; rfl]

/-- Nor refusals. -/
theorem evaluate_unauthorisedAccess (store : EventStore) (now : Datetime) :
    UnauthorisedAccess.evaluate (withHealth store consul) now =
      UnauthorisedAccess.evaluate store now := by
  rw [UnauthorisedAccess.evaluate, UnauthorisedAccess.evaluate, withHealth,
    recentEvents_append readable_health]
  intro event held
  obtain ⟨entry, -, made⟩ := List.mem_filterMap.mp held
  obtain ⟨service, -, rfl⟩ := Option.map_eq_some_iff.mp made
  rfl

/-- Nor requests. -/
theorem evaluate_abnormalRate (store : EventStore) (now : Datetime) :
    AbnormalRate.evaluate (withHealth store consul) now = AbnormalRate.evaluate store now := by
  have passed (wanted : SecurityEvent → Bool)
      (unwanted : ∀ event : SecurityEvent, event.eventType = .healthCheckFailed →
        wanted event = false) :
      (evidence (fun _ => true) AbnormalRate.detectionWindow now
          (withHealth store consul).events).filter wanted =
        (evidence (fun _ => true) AbnormalRate.detectionWindow now store.events).filter wanted := by
    rw [filter_evidence, filter_evidence, withHealth, evidence_append]
    intro event held
    rw [unwanted event (eventType_health held), Bool.and_false]
  have throttled := congrArg AbnormalRate.groupBySource
    (passed (fun event => event.eventType == .rateLimitExceeded)
      fun event type => by rw [type]; rfl)
  have volume := congrArg AbnormalRate.groupBySource
    (passed (fun event => AbnormalRate.requestEventTypes.contains event.eventType)
      fun event type => by rw [type]; rfl)
  rw [← AbnormalRate.throttled, ← AbnormalRate.throttled] at throttled
  rw [← AbnormalRate.volume, ← AbnormalRate.volume] at volume
  have offending : AbnormalRate.offending (evidence (fun _ => true) AbnormalRate.detectionWindow now
      (withHealth store consul).events) =
      AbnormalRate.offending (evidence (fun _ => true) AbnormalRate.detectionWindow now
        store.events) := by
    rw [AbnormalRate.offending, AbnormalRate.offending, AbnormalRate.sources, AbnormalRate.sources,
      throttled, volume]
  have dated : Readable (withHealth store consul).events ↔ Readable store.events :=
    readable_append readable_health
  rw [AbnormalRate.evaluate, AbnormalRate.evaluate, recentEvents_eq, recentEvents_eq]
  simp only [dated]
  split
  · split
    · dsimp only [bind, Except.bind]
      rw [throttled, volume, offending]
    · rfl
  · rfl

/-- A critical check on the service, told in the window of Rule 4. -/
def Failing (consul : Consul) (now : Datetime) (service : Str) : Prop :=
  ∃ entry ∈ consul.checks, entry.1.failing.map ServiceName.value = some service ∧
    now.instant - ServiceFailure.detectionWindow ≤ moment entry.2 ∧ moment entry.2 ≤ now.instant

theorem exists_health_iff {now : Datetime} {service : Str} :
    (∃ event ∈ consul.checks.filterMap eventOf, Windowed ServiceFailure.detectionWindow now event ∧
      ([.circuitOpened, .healthCheckFailed].contains event.eventType &&
        decide (event.serviceName.value = service)) = true) ↔ Failing consul now service := by
  constructor
  · rintro ⟨event, held, inside, named⟩
    obtain ⟨entry, hentry, made⟩ := List.mem_filterMap.mp held
    obtain ⟨own, failing, rfl⟩ := Option.map_eq_some_iff.mp made
    rw [Windowed, healthEvent, timeOf_stamp] at inside
    simp only [healthEvent_serviceName, Bool.and_eq_true] at named
    exact ⟨entry, hentry, by rw [failing, Option.map_some, of_decide_eq_true named.2], inside⟩
  · rintro ⟨entry, hentry, named, inside⟩
    obtain ⟨own, failing, rfl⟩ := Option.map_eq_some_iff.mp named
    have made : eventOf entry = some (healthEvent entry.1 entry.2 own) := by
      rw [eventOf, failing]
      rfl
    refine ⟨_, List.mem_filterMap.mpr ⟨entry, hentry, made⟩, ?_, ?_⟩
    · rw [Windowed, healthEvent, timeOf_stamp]
      exact inside
    · simp

/-- Health makes those services due that have a critical check in the window, and no others. -/
theorem due_withHealth {store : EventStore} {now : Datetime} {service : Str} :
    ServiceFailure.Due now (withHealth store consul).events service ↔
      ServiceFailure.Due now store.events service ∨ Failing consul now service := by
  have counted : ServiceFailure.eventsOf [.dependencyFailure, .serviceError] service now
      (withHealth store consul).events =
      ServiceFailure.eventsOf [.dependencyFailure, .serviceError] service now store.events :=
    evidence_append fun event held => by rw [eventType_health held]; rfl
  have immediate : ServiceFailure.eventsOf [.circuitOpened, .healthCheckFailed] service now
      (withHealth store consul).events ≠ [] ↔
      ServiceFailure.eventsOf [.circuitOpened, .healthCheckFailed] service now store.events ≠ [] ∨
        Failing consul now service := by
    rw [ServiceFailure.eventsOf, evidence_ne_nil, withHealth, ServiceFailure.eventsOf,
      evidence_ne_nil, ← exists_health_iff]
    simp only [List.mem_append, or_and_right, exists_or]
  rw [ServiceFailure.Due, ServiceFailure.Due, counted, immediate, or_right_comm]

/-- Rule 4 raises with the health events what it raises without them, and else returns one alert
for each service that is due. -/
theorem evaluate_serviceFailure (consul : Consul) (store : EventStore) (now : Datetime) :
    (∃ raised, ServiceFailure.evaluate store now = .error raised ∧
      ServiceFailure.evaluate (withHealth store consul) now = .error raised) ∨
    ServiceFailure.RaisesPerService store now ∧
      ServiceFailure.RaisesPerService (withHealth store consul) now := by
  have dated : Readable (withHealth store consul).events ↔ Readable store.events :=
    readable_append readable_health
  by_cases fits : WindowFits ServiceFailure.detectionWindow now
  · by_cases readable : Readable store.events
    · have raises {store : EventStore} (readable : Readable store.events) :
          ServiceFailure.RaisesPerService store now := by
        obtain ⟨bodies, returned, fields⟩ := ServiceFailure.evaluate_eq store fits readable
        obtain ⟨alerts, rfl, perService⟩ := exists_onePerKey
          (ServiceFailure.Due now store.events)
          (fun service alert => alert.affectedService = some service) Prod.fst fields
          (ServiceFailure.nodup_failing _) (fun _ => ServiceFailure.mem_keys_failing) fun _ _ => rfl
        exact ⟨alerts, returned, perService⟩
      exact .inr ⟨raises readable, raises (dated.mpr readable)⟩
    · refine .inl ⟨.valueError, ?_, ?_⟩
      · rw [ServiceFailure.evaluate, recentEvents_eq, if_pos fits, if_neg readable]
        rfl
      · rw [ServiceFailure.evaluate, recentEvents_eq, if_pos fits,
          if_neg fun kept => readable (dated.mp kept)]
        rfl
  · refine .inl ⟨.overflowError, ?_, ?_⟩
    · rw [ServiceFailure.evaluate, recentEvents_of_misfit fits]
      rfl
    · rw [ServiceFailure.evaluate, recentEvents_of_misfit fits]
      rfl

end Rules

/-! ## The whole run -/

/-- Four steps of a comprehension, the last one apart. -/
theorem flatten_mapE_four {ε α β : Type} (f : α → Except ε (List β)) (a b c d : α) :
    (mapE f [a, b, c, d]).map List.flatten =
      (f a >>= fun first => f b >>= fun second => f c >>= fun third =>
        pure (first ++ (second ++ third))) >>= fun others =>
          f d >>= fun fourth => pure (others ++ fourth) := by
  simp only [mapE, bind, Except.bind]
  cases f a with
  | error raised => rfl
  | ok first =>
      cases f b with
      | error raised => rfl
      | ok second =>
          cases f c with
          | error raised => rfl
          | ok third =>
              cases f d with
              | error raised => rfl
              | ok fourth => simp [Except.map, pure, Except.pure]

section Runs

variable [UnicodeDb]

/-- The alerts of the first three rules. -/
def otherAlerts (store : EventStore) (now : Datetime) : Except Exc (List AlertBody) := do
  let logins ← FailedLogins.evaluate store now
  let refusals ← UnauthorisedAccess.evaluate store now
  let rates ← AbnormalRate.evaluate store now
  return logins ++ (refusals ++ rates)

theorem evaluateBodies_rules (store : EventStore) (now : Datetime) :
    evaluateBodies store now = do
      let others ← otherAlerts store now
      let failures ← ServiceFailure.evaluate store now
      return others ++ failures :=
  flatten_mapE_four (fun rule : DetectionRule => rule.evaluate store now) _ _ _ _

theorem otherAlerts_withHealth (store : EventStore) (consul : Consul) (now : Datetime) :
    otherAlerts (withHealth store consul) now = otherAlerts store now := by
  rw [otherAlerts, otherAlerts, evaluate_failedLogins, evaluate_unauthorisedAccess,
    evaluate_abnormalRate]

/-- What health does to an evaluation: nothing to what it raises, nothing to the alerts of the
first three rules, and to those of Rule 4 it adds the services with a critical check in the
window. -/
structure Additive (consul : Consul) (store full : EventStore) (now : Datetime) : Prop where
  raises : ∀ raised, evaluateBodies store now = .error raised ↔
    evaluateBodies full now = .error raised
  adds : ∀ alerts, evaluateBodies store now = .ok alerts → ∃ others services more,
    otherAlerts store now = .ok others ∧ alerts = others ++ services.map Prod.snd ∧
      evaluateBodies full now = .ok (others ++ more.map Prod.snd) ∧
      OnePerKey (ServiceFailure.Due now store.events)
        (fun service alert => alert.affectedService = some service) services ∧
      OnePerKey
        (fun service => ServiceFailure.Due now store.events service ∨ Failing consul now service)
        (fun service alert => alert.affectedService = some service) more

/-- Two evaluations that raise the same. -/
theorem additive_of_raises {consul : Consul} {store full : EventStore} {now : Datetime}
    {raised : Exc} (first : evaluateBodies store now = .error raised)
    (second : evaluateBodies full now = .error raised) : Additive consul store full now where
  raises := fun _ => by rw [first, second]
  adds := fun alerts returned => by
    rw [first] at returned
    cases returned

theorem additive_withHealth (consul : Consul) (store : EventStore) (now : Datetime) :
    Additive consul store (withHealth store consul) now := by
  have plain := evaluateBodies_rules store now
  have full := evaluateBodies_rules (withHealth store consul) now
  rw [otherAlerts_withHealth] at full
  cases others : otherAlerts store now with
  | error raised =>
      rw [others] at plain full
      exact additive_of_raises plain full
  | ok kept =>
      rw [others] at plain full
      rcases evaluate_serviceFailure consul store now with
        ⟨failure, first, second⟩ | ⟨⟨services, first, perService⟩, more, second, perMore⟩
      · rw [first] at plain
        rw [second] at full
        exact additive_of_raises plain full
      · rw [first] at plain
        rw [second] at full
        refine ⟨fun failure => ?_, fun alerts returned => ?_⟩
        · rw [plain, full]
          exact iff_of_false (by rintro ⟨⟩) (by rintro ⟨⟩)
        · rw [plain] at returned
          exact ⟨kept, services, more, others, (Except.ok.inj returned).symm, full, perService,
            perMore.distinct, fun service => (perMore.exactly service).trans due_withHealth,
            perMore.reports⟩

/-- **Health is additive**: where the logs can be collected, collecting them with the health of
the services returns too, whatever Consul does, and the runner reasons from the same moment; at any
moment the health events only add services with a critical check to those Rule 4 names. -/
theorem additive_of_collected [Pydantic] {lines : Except Exc (List Str)} (consul : Consul)
    (pinned : Option Str) (clock : Datetime) {store : EventStore}
    (collected : collectFrom .docker true lines consul = .ok store) :
    ∃ full, collectFrom .docker false lines consul = .ok full ∧
      resolveNow pinned .docker clock full = resolveNow pinned .docker clock store ∧
        ∀ now, Additive consul store full now := by
  refine ⟨withHealth store consul, ?_, ?_, additive_withHealth consul store⟩
  · rw [collectFrom_docker, collected]
    rfl
  · cases pinned with
    | none => rfl
    | some moment => rfl

end Runs

/-- Consul reports that the authentication service does not answer. -/
def unanswered : Consul :=
  .ok [({ checkId := some "service:auth-1", serviceName := some "auth-service",
          status := some "critical", output := some "connection refused" }, ⟨1, daybreak 2⟩)]

theorem additive_of_collected_unanswered : letI := integersOnly; letI := printsAll
    Failing unanswered (daybreak 3).time "auth-service" ∧
      ∃ full, collectFrom .docker false (.ok [(welcome "Login" login_visible).line]) unanswered =
          .ok full ∧
        resolveNow none .docker (daybreak 3).time full =
          resolveNow none .docker (daybreak 3).time ⟨[welcome "Login" login_visible]⟩ ∧
        ∀ now, Additive unanswered ⟨[welcome "Login" login_visible]⟩ full now := by
  let _ := integersOnly
  let _ := printsAll
  have clean : Collector.Clean (welcome "Login" login_visible) := by decide
  have read : streamEvents [(welcome "Login" login_visible).line] =
      .ok [welcome "Login" login_visible] :=
    streamEvents_cons (parseEventLine_line (reread_of_clean clean)) rfl
  have collected : collectFrom .docker true (.ok [(welcome "Login" login_visible).line])
      unanswered = .ok ⟨[welcome "Login" login_visible]⟩ := by
    simp only [collectFrom, bind, Except.bind, buildStore, read]
    rfl
  exact ⟨⟨_, List.mem_singleton_self _, by decide +kernel, by decide +kernel, by decide +kernel⟩,
    additive_of_collected unanswered none (daybreak 3).time collected⟩

end SentinelIR.Loader
