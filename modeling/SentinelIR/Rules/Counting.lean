/-
# Rules 1, 3 and 4 as counting

Each of these rules counts the windowed events of its subjects and reports every
subject whose count reaches a threshold. Here that is said without the loops: which
keys are due, one alert for each of them, and what the alert cites and names. A window
that would start before the first moment there is ends in an exception instead.
-/

import SentinelIR.Rules.Evidence

namespace SentinelIR.Rules

open SentinelIR.Py SentinelIR.Common SentinelIR.Alerts SentinelIR.Collector

/-! ## One alert for each key -/

/-- The alerts stand under the keys that are due, one under each, and report of their key
what they are to report. -/
structure OnePerKey {κ : Type} (due : κ → Prop) (reports : κ → AlertFields → Prop)
    (alerts : List (κ × AlertBody)) : Prop where
  distinct : (alerts.map Prod.fst).Nodup
  exactly : ∀ key, key ∈ alerts.map Prod.fst ↔ due key
  reports : ∀ entry ∈ alerts, reports entry.1 entry.2.toAlertFields

/-- A rule that reports one item after the other reports each key once when the items
have distinct keys. -/
theorem exists_onePerKey {ι κ : Type} {items : List ι} {bodies : List AlertBody}
    {report : ι → AlertFields} (due : κ → Prop) (reports : κ → AlertFields → Prop) (key : ι → κ)
    (fields : bodies.map (·.toAlertFields) = items.map report)
    (distinct : (items.map key).Nodup) (exactly : ∀ k, k ∈ items.map key ↔ due k)
    (reported : ∀ item ∈ items, reports (key item) (report item)) :
    ∃ alerts : List (κ × AlertBody), alerts.map Prod.snd = bodies ∧
      OnePerKey due reports alerts := by
  have lengths : items.length = bodies.length := by
    rw [← List.length_map (f := report), ← fields, List.length_map]
  have firsts : ((items.map key).zip bodies).map Prod.fst = items.map key :=
    List.map_fst_zip (by simp [lengths])
  refine ⟨(items.map key).zip bodies, List.map_snd_zip (by simp [lengths]), ?_, ?_, ?_⟩
  · rw [firsts]
    exact distinct
  · rw [firsts]
    exact exactly
  · intro entry hentry
    obtain ⟨n, hn, rfl⟩ := List.mem_iff_getElem.mp hentry
    have inItems : n < items.length := by
      simp only [List.length_zip, List.length_map] at hn
      omega
    have inBodies : n < bodies.length := lengths ▸ inItems
    have same : (bodies[n]).toAlertFields = report items[n] := by
      have both := congrArg (·[n]?) fields
      simpa [inItems, inBodies] using both
    rw [List.getElem_zip, List.getElem_map]
    simp only [same]
    exact reported _ (List.getElem_mem inItems)

/-- Where the items are the groups that are due, so are their keys. -/
theorem mem_keys_iff {κ : Type} {items : List (κ × List SecurityEvent)}
    (group : κ → List SecurityEvent) (due : List SecurityEvent → Prop)
    (members : ∀ {item}, item ∈ items ↔ item.2 = group item.1 ∧ due item.2) {key : κ} :
    key ∈ items.map Prod.fst ↔ due (group key) := by
  constructor
  · intro hkey
    obtain ⟨item, hitem, rfl⟩ := List.mem_map.mp hkey
    obtain ⟨own, reached⟩ := members.mp hitem
    exact own ▸ reached
  · intro reached
    exact List.mem_map.mpr ⟨(key, group key), members.mpr ⟨rfl, reached⟩, rfl⟩

/-- The first moment there is: no window ends at it. -/
def firstMoment : Datetime := ⟨1, 1, 1, 0, 0, 0, 0, by decide⟩

/-- A second of one morning. -/
def daybreak (n : Fin 60) : Clock where
  time :=
    { year := 2026, month := 9, day := 4, hour := 6, minute := 0, second := n, microsecond := 0
      valid := ⟨by decide, by decide, by decide, by decide, by decide, n.isLt, by decide⟩ }
  epoch := after_epoch

/-- An event of the morning. -/
def occurrence (n : Fin 60) (serviceName : ServiceName) (eventType : EventType) (statusCode : Int)
    (userId sourceIp : Option Str)
    (known : 100 ≤ statusCode ∧ statusCode ≤ 599 := by decide) : SecurityEvent :=
  EventBody.stamp
    ⟨{ serviceName, eventType, userId, sourceIp, statusCode
       severity := .medium
       endpoint := "/api/v1/incidents"
       httpMethod := "GET"
       message := "An event of the morning."
       correlationId := "corr-000000000001" },
      { method := get_permitted
        status := known
        endpoint := lit_incidents_visible
        message := not_blank_lit (by decide +kernel)
        correlation := lit_correlation_visible }⟩
    ⟨n, daybreak n⟩

/-! ## The one account of some events -/

/-- Some events name the account, and none of them another one. -/
def SoleUser (user : Str) (events : List SecurityEvent) : Prop :=
  (∃ event ∈ events, event.userId = some user) ∧
    ∀ event ∈ events, ∀ other, event.userId = some other → other = user

theorem mem_distinctTexts {f : SecurityEvent → Option Str} {events : List SecurityEvent}
    {text : Str} :
    text ∈ distinctTexts f events ↔ (∃ event ∈ events, f event = some text) ∧ text ≠ [] := by
  simp [distinctTexts]

theorem nodup_distinctTexts (f : SecurityEvent → Option Str) (events : List SecurityEvent) :
    (distinctTexts f events).Nodup :=
  (perm_sortedBy id _).nodup_iff.mpr (List.nodup_dedup _)

/-- The only element of a list without repetition. -/
theorem head?_of_single {α : Type} {xs : List α} (distinct : xs.Nodup) {x : α} :
    (if xs.length = 1 then xs.head? else none) = some x ↔ ∀ y, y ∈ xs ↔ y = x := by
  constructor
  · intro only
    split at only
    case isTrue single =>
        obtain ⟨y, rfl⟩ := List.length_eq_one_iff.mp single
        obtain rfl : y = x := Option.some.inj only
        exact fun z => List.mem_singleton
    case isFalse => cases only
  · intro only
    have single : xs = [x] := by
      refine List.perm_singleton.mp ((List.perm_ext_iff_of_nodup distinct ?_).mpr fun y => ?_)
      · exact List.nodup_singleton x
      · rw [only, List.mem_singleton]
    rw [single]
    rfl

/-- With no empty user ids, the account `_single_user` names is the sole one. -/
theorem singleUser_eq_some_iff {events : List SecurityEvent} {user : Str}
    (named : ∀ event ∈ events, event.userId ≠ some []) :
    AbnormalRate.singleUser events = some user ↔ SoleUser user events := by
  have visible {text : Str} : text ∈ distinctTexts (·.userId) events ↔
      ∃ event ∈ events, event.userId = some text := by
    rw [mem_distinctTexts, and_iff_left_iff_imp]
    rintro ⟨event, hevent, stated⟩ rfl
    exact named event hevent stated
  rw [AbnormalRate.singleUser, head?_of_single (nodup_distinctTexts _ _)]
  simp only [visible]
  constructor
  · intro only
    refine ⟨(only user).mpr rfl, fun event hevent other stated => ?_⟩
    exact (only other).mp ⟨event, hevent, stated⟩
  · rintro ⟨found, others⟩ text
    constructor
    · rintro ⟨event, hevent, stated⟩
      exact others event hevent text stated
    · rintro rfl
      exact found

/-! ## Rule 1 -/

namespace FailedLogins

/-- The failed logins of the window that name the subject in the field, oldest first. -/
def attempts (field : SecurityEvent → Option Str) (subject : Str) (now : Datetime)
    (events : List SecurityEvent) : List SecurityEvent :=
  evidence (fun event => isFailure event && field event = some subject) detectionWindow now events

/-- The rule returns one alert for each account and one for each address with at least
five failed logins. Each cites them; an address alert names a user exactly when all its
attempts that name one agree on it. -/
def RaisesPerSubject [UnicodeDb] (store : EventStore) (now : Datetime) : Prop :=
  ∃ accounts addresses : List (Str × AlertBody),
    evaluate store now = .ok (accounts.map Prod.snd ++ addresses.map Prod.snd) ∧
    OnePerKey (fun userId => 5 ≤ (attempts (·.userId) userId now store.events).length)
      (fun userId alert =>
        alert.relatedEvents =
          (attempts (·.userId) userId now store.events).map (·.eventId) ∧
        alert.affectedUser = some userId) accounts ∧
    OnePerKey (fun sourceIp => 5 ≤ (attempts (·.sourceIp) sourceIp now store.events).length)
      (fun sourceIp alert =>
        alert.relatedEvents =
          (attempts (·.sourceIp) sourceIp now store.events).map (·.eventId) ∧
        ∀ user, alert.affectedUser = some user ↔
          SoleUser user (attempts (·.sourceIp) sourceIp now store.events)) addresses

theorem mem_keys_overThreshold {field : SecurityEvent → Option Str} {now : Datetime}
    {events : List SecurityEvent} {subject : Str} :
    subject ∈ (overThreshold field (evidence isFailure detectionWindow now events)).map Prod.fst ↔
      5 ≤ (attempts field subject now events).length := by
  rw [attempts, ← filter_evidence]
  exact mem_keys_iff (fun text => (evidence isFailure detectionWindow now events).filter
    fun event => field event = some text) (fun events => 5 ≤ events.length) mem_overThreshold

theorem attempts_of_mem {field : SecurityEvent → Option Str} {now : Datetime}
    {events : List SecurityEvent} {item : Str × List SecurityEvent}
    (hitem : item ∈ overThreshold field (evidence isFailure detectionWindow now events)) :
    item.2 = attempts field item.1 now events := by
  rw [attempts, ← filter_evidence]
  exact (mem_overThreshold.mp hitem).1

/-- Over events with readable timestamps and no blank user id or address, the rule
returns what it is to return exactly when the window does not start before the first
moment. -/
theorem raisesPerSubject_iff [UnicodeDb] (store : EventStore) (now : Datetime)
    (readable : Readable store.events)
    (named : ∀ event ∈ store.events, (∀ userId, event.userId = some userId → ¬ Blank userId) ∧
      ∀ sourceIp, event.sourceIp = some sourceIp → ¬ Blank sourceIp) :
    RaisesPerSubject store now ↔ WindowFits detectionWindow now := by
  constructor
  · rintro ⟨accounts, addresses, returned, -, -⟩
    exact windowFits_of_returned returned
  · intro fits
    obtain ⟨bodies, returned, fields⟩ := evaluate_eq store fits readable
    obtain ⟨forUsers, forIps, rfl, users, ips⟩ := List.map_eq_append_iff.mp fields
    obtain ⟨accounts, rfl, perAccount⟩ := exists_onePerKey
      (fun userId => 5 ≤ (attempts (·.userId) userId now store.events).length)
      (fun userId alert =>
        alert.relatedEvents = (attempts (·.userId) userId now store.events).map (·.eventId) ∧
          alert.affectedUser = some userId)
      Prod.fst users (nodup_overThreshold _ _) (fun _ => mem_keys_overThreshold)
      fun item hitem => ⟨by rw [← attempts_of_mem hitem]; rfl, rfl⟩
    obtain ⟨addresses, rfl, perAddress⟩ := exists_onePerKey
      (fun sourceIp => 5 ≤ (attempts (·.sourceIp) sourceIp now store.events).length)
      (fun sourceIp alert =>
        alert.relatedEvents = (attempts (·.sourceIp) sourceIp now store.events).map (·.eventId) ∧
          ∀ user, alert.affectedUser = some user ↔
            SoleUser user (attempts (·.sourceIp) sourceIp now store.events))
      Prod.fst ips (nodup_overThreshold _ _) (fun _ => mem_keys_overThreshold)
      fun item hitem => by
        refine ⟨by rw [← attempts_of_mem hitem]; rfl, fun user => ?_⟩
        rw [← attempts_of_mem hitem]
        apply singleUser_eq_some_iff
        intro event hevent stated
        rw [attempts_of_mem hitem] at hevent
        exact (named event (mem_evidence.mp hevent).1).1 [] stated rfl
    exact ⟨accounts, addresses, returned, perAccount, perAddress⟩

/-- Five failed logins of one account from one address. -/
def fiveLogins : EventStore :=
  ⟨([1, 2, 3, 4, 5] : List (Fin 60)).map fun n =>
    occurrence n .auth .authFailed 401 (some "root") (some "203.0.113.9") unauthorised_known⟩

theorem raisesPerSubject_fiveLogins : letI : UnicodeDb := ⟨fun _ => true⟩
    RaisesPerSubject fiveLogins (daybreak 5).time ↔
      WindowFits detectionWindow (daybreak 5).time := by
  let _ : UnicodeDb := ⟨fun _ => true⟩
  apply raisesPerSubject_iff fiveLogins (daybreak 5).time (by decide +kernel)
  intro event hevent
  obtain ⟨n, -, rfl⟩ := List.mem_map.mp hevent
  exact ⟨fun userId stated => Option.some.inj stated ▸ not_blank_lit (by decide +kernel),
    fun sourceIp stated => Option.some.inj stated ▸ not_blank_lit (by decide +kernel)⟩

/-- At the first moment the rule returns nothing, not even over an empty store. -/
theorem not_raisesPerSubject : ¬ ∀ (_ : UnicodeDb) (store : EventStore) (now : Datetime),
    Readable store.events →
      (∀ event ∈ store.events, (∀ userId, event.userId = some userId → ¬ Blank userId) ∧
        ∀ sourceIp, event.sourceIp = some sourceIp → ¬ Blank sourceIp) →
          RaisesPerSubject store now := by
  intro always
  let _ : UnicodeDb := ⟨fun _ => true⟩
  obtain ⟨accounts, addresses, returned, -, -⟩ :=
    always ⟨fun _ => true⟩ EventStore.empty firstMoment (by rintro event ⟨⟩) (by rintro event ⟨⟩)
  have misfits : ¬ WindowFits detectionWindow firstMoment := by decide
  exact misfits (windowFits_of_returned returned)

end FailedLogins

/-! ## Rule 3 -/

namespace AbnormalRate

/-- The refusals by the rate limit in the window that name the source, oldest first. -/
def limited (source : Str) (now : Datetime) (events : List SecurityEvent) : List SecurityEvent :=
  evidence (fun event => event.eventType == .rateLimitExceeded && event.sourceIp = some source)
    detectionWindow now events

/-- The requests received in the window that name the source, oldest first. -/
def received (source : Str) (now : Datetime) (events : List SecurityEvent) : List SecurityEvent :=
  evidence (fun event => event.eventType == .requestReceived && event.sourceIp = some source)
    detectionWindow now events

/-- The events of both types in the window that name the source. -/
def traffic (source : Str) (now : Datetime) (events : List SecurityEvent) : List SecurityEvent :=
  evidence
    (fun event => (event.eventType == .rateLimitExceeded || event.eventType == .requestReceived) &&
      event.sourceIp = some source)
    detectionWindow now events

/-- The alert about a source names it and each signal that reached its threshold with
its count, and cites the traffic, each stored event once and in time order. -/
def ReportsSource (now : Datetime) (events : List SecurityEvent) (source : Str)
    (alert : AlertFields) : Prop :=
  alert.affectedEntity = some source ∧
    (∃ services, alert.description =
      "Abnormal request rate from " ++ source ++ ": " ++
        joinWith " and "
          ((if 3 ≤ (limited source now events).length then
              [decimal (limited source now events).length ++
                " requests refused by the gateway's rate limit"] else []) ++
            (if 30 ≤ (received source now events).length then
              [decimal (received source now events).length ++ " requests received in " ++
                decimal 60 ++ " seconds"] else [])) ++
        ", affecting " ++ joinWith ", " services ++ ".") ∧
    ∃ cited : List SecurityEvent, alert.relatedEvents = cited.map (·.eventId) ∧
      cited.Perm (traffic source now events) ∧
      cited.Pairwise fun first second => timeOf first ≤ timeOf second

/-- The rule returns one alert for each address with three refusals by the rate limit
or thirty requests in the window. -/
def RaisesPerSource (store : EventStore) (now : Datetime) : Prop :=
  ∃ alerts : List (Str × AlertBody), evaluate store now = .ok (alerts.map Prod.snd) ∧
    OnePerKey
      (fun source => source ≠ [] ∧ (3 ≤ (limited source now store.events).length ∨
        30 ≤ (received source now store.events).length))
      (ReportsSource now store.events) alerts

theorem contains_requestEventTypes (eventType : EventType) :
    requestEventTypes.contains eventType = (eventType == .requestReceived) := by
  cases eventType <;> rfl

section Source

variable {now : Datetime} {events : List SecurityEvent} {source : Str}

theorem refusalsOf_eq (visible : source ≠ []) :
    refusalsOf (evidence (fun _ => true) detectionWindow now events) source =
      limited source now events := by
  rw [refusalsOf, filter_evidence, filter_evidence, limited]
  simp only [sourceOf_eq_some_iff, ne_eq, visible, not_false_eq_true, true_and, Bool.true_and]

theorem requestsOf_eq (visible : source ≠ []) :
    requestsOf (evidence (fun _ => true) detectionWindow now events) source =
      received source now events := by
  rw [requestsOf, filter_evidence, filter_evidence, received]
  simp only [sourceOf_eq_some_iff, ne_eq, visible, not_false_eq_true, true_and, Bool.true_and,
    contains_requestEventTypes]

theorem mem_offending_iff :
    source ∈ offending (evidence (fun _ => true) detectionWindow now events) ↔
      source ≠ [] ∧ (3 ≤ (limited source now events).length ∨
        30 ≤ (received source now events).length) := by
  by_cases visible : source ≠ []
  · rw [mem_offending, refusalsOf_eq visible, requestsOf_eq visible]
    exact (and_iff_right visible).symm
  · refine iff_of_false (fun hsource => ?_) fun due => visible due.1
    have nonempty := evidenceOf_ne_nil hsource
    obtain ⟨event, hevent⟩ := List.exists_mem_of_ne_nil _ nonempty
    exact visible (sourceOf_eq_some_iff.mp (Subject.mem_evidenceOf hevent).2).1

theorem reportsSource_finding
    (due : source ∈ offending (evidence (fun _ => true) detectionWindow now events)) :
    let windowed := evidence (fun _ => true) detectionWindow now events
    ReportsSource now events source (alertFields info now (finding source
      (evidenceOf windowed source)
      (reasonsFor (refusalsOf windowed source) (requestsOf windowed source)))) := by
  intro windowed
  have visible := (mem_offending_iff.mp due).1
  refine ⟨rfl, ⟨servicesOf (evidenceOf windowed source), ?_⟩, evidenceOf windowed source, rfl, ?_,
    pairwise_sortedBy timeOf _⟩
  · rw [← refusalsOf_eq visible, ← requestsOf_eq visible]
    rfl
  · refine (Subject.perm_evidenceOf windowed source).trans (List.Perm.of_eq ?_)
    rw [filter_evidence, traffic]
    simp only [Subject.watches, sourceOf_eq_some_iff, ne_eq, visible, not_false_eq_true, true_and,
      Bool.true_and, contains_requestEventTypes]

end Source

/-- Over events with readable timestamps the rule returns what it is to return exactly
when the window does not start before the first moment. -/
theorem raisesPerSource_iff (store : EventStore) (now : Datetime)
    (readable : Readable store.events) :
    RaisesPerSource store now ↔ WindowFits detectionWindow now := by
  constructor
  · rintro ⟨alerts, returned, -⟩
    exact windowFits_of_returned returned
  · intro fits
    obtain ⟨bodies, returned, fields⟩ := evaluate_eq store fits readable
    obtain ⟨alerts, rfl, perSource⟩ := exists_onePerKey
      (fun source => source ≠ [] ∧ (3 ≤ (limited source now store.events).length ∨
        30 ≤ (received source now store.events).length))
      (ReportsSource now store.events) id fields
      (by rw [List.map_id]; exact nodup_offending _)
      (fun source => by rw [List.map_id]; exact mem_offending_iff)
      fun source due => reportsSource_finding due
    exact ⟨alerts, returned, perSource⟩

/-- Three refusals by the rate limit of one address. -/
def threeRefusals : EventStore :=
  ⟨([1, 2, 3] : List (Fin 60)).map fun n =>
    occurrence n .gateway .rateLimitExceeded 429 none (some "203.0.113.9")⟩

theorem raisesPerSource_threeRefusals : RaisesPerSource threeRefusals (daybreak 3).time ↔
    WindowFits detectionWindow (daybreak 3).time :=
  raisesPerSource_iff threeRefusals (daybreak 3).time (by decide +kernel)

/-- At the first moment the rule returns nothing, not even over an empty store. -/
theorem not_raisesPerSource : ¬ ∀ (store : EventStore) (now : Datetime),
    Readable store.events → RaisesPerSource store now := by
  intro always
  obtain ⟨alerts, returned, -⟩ := always EventStore.empty firstMoment (by rintro event ⟨⟩)
  have misfits : ¬ WindowFits detectionWindow firstMoment := by decide
  exact misfits (windowFits_of_returned returned)

end AbnormalRate

/-! ## Rule 4 -/

namespace ServiceFailure

/-- The events of the service in the window that have one of the types, oldest first. -/
def eventsOf (types : List EventType) (service : Str) (now : Datetime)
    (events : List SecurityEvent) : List SecurityEvent :=
  evidence (fun event => types.contains event.eventType && event.serviceName.value = service)
    detectionWindow now events

/-- The service opened its breaker or failed its health check in the window, or had at
least three dependency failures and server errors in it. -/
def Due (now : Datetime) (events : List SecurityEvent) (service : Str) : Prop :=
  eventsOf [.circuitOpened, .healthCheckFailed] service now events ≠ [] ∨
    3 ≤ (eventsOf [.dependencyFailure, .serviceError] service now events).length

/-- The rule returns one alert for each service that is due. -/
def RaisesPerService (store : EventStore) (now : Datetime) : Prop :=
  ∃ alerts : List (Str × AlertBody), evaluate store now = .ok (alerts.map Prod.snd) ∧
    OnePerKey (Due now store.events)
      (fun service alert => alert.affectedService = some service) alerts

/-- An alert without its description. -/
def undescribed (alert : AlertBody) : AlertFields := { alert.toAlertFields with description := [] }

section Service

variable {now : Datetime} {events : List SecurityEvent} {service : Str}

theorem signals_eq :
    ((evidence (fun _ => true) detectionWindow now events).filter isSignal).filter
        (fun event => event.serviceName.value = service) =
      eventsOf (immediateEventTypes ++ failureEventTypes) service now events := by
  have signal (event : SecurityEvent) : isSignal event =
      (immediateEventTypes ++ failureEventTypes).contains event.eventType := by
    rw [isSignal]
    cases event.eventType <;> rfl
  rw [filter_evidence, filter_evidence, eventsOf]
  simp only [Bool.true_and, signal]

theorem fires_signals : fires (eventsOf (immediateEventTypes ++ failureEventTypes) service now
    events) = true ↔ Due now events service := by
  have counted : failuresOf (eventsOf (immediateEventTypes ++ failureEventTypes) service now
      events) = eventsOf [.dependencyFailure, .serviceError] service now events := by
    rw [failuresOf, eventsOf, filter_evidence, eventsOf]
    apply List.filter_congr
    intro event _
    beta_reduce
    rw [isCounted]
    cases event.eventType <;> simp [immediateEventTypes, failureEventTypes]
  have opened {eventType : EventType} (immediate : eventType ∈ immediateEventTypes) :
      ((eventsOf (immediateEventTypes ++ failureEventTypes) service now events).any
        fun event => event.eventType == eventType) = true ↔
      ∃ event ∈ eventsOf [.circuitOpened, .healthCheckFailed] service now events,
        event.eventType = eventType := by
    rw [List.any_eq_true]
    apply exists_congr
    intro event
    rw [beq_iff_eq, and_congr_left_iff]
    rintro rfl
    have both : (immediateEventTypes ++ failureEventTypes).contains event.eventType =
        List.contains [.circuitOpened, .healthCheckFailed] event.eventType := by
      cases h : event.eventType <;> rw [h] at immediate <;>
        first | rfl | exact absurd immediate (by decide)
    rw [eventsOf, eventsOf, mem_evidence, mem_evidence, both]
  rw [fires, Bool.or_eq_true, Bool.or_eq_true, decide_eq_true_eq, counted, breakerOpened,
    healthFailed, opened (by decide), opened (by decide), Due]
  refine or_congr ?_ Iff.rfl
  constructor
  · rintro (⟨event, hevent, -⟩ | ⟨event, hevent, -⟩)
    · exact List.ne_nil_of_mem hevent
    · exact List.ne_nil_of_mem hevent
  · intro found
    obtain ⟨event, hevent⟩ := List.exists_mem_of_ne_nil _ found
    have type : event.eventType = .circuitOpened ∨ event.eventType = .healthCheckFailed := by
      have wanted := (mem_evidence.mp hevent).2.2
      simp only [Bool.and_eq_true, List.contains_eq_mem, List.mem_cons, List.not_mem_nil, or_false,
        decide_eq_true_eq] at wanted
      exact wanted.1
    exact type.imp (fun same => ⟨event, hevent, same⟩) fun same => ⟨event, hevent, same⟩

theorem mem_keys_failing :
    service ∈ (failing (evidence (fun _ => true) detectionWindow now events)).map Prod.fst ↔
      Due now events service := by
  rw [← fires_signals, ← signals_eq]
  exact mem_keys_iff (fun name =>
    ((evidence (fun _ => true) detectionWindow now events).filter isSignal).filter
      fun event => event.serviceName.value = name) (fun events => fires events = true) mem_failing

end Service

/-- Without its description an alert does not show which services recovered. -/
theorem map_undescribed {store : EventStore} {now : Datetime}
    (fits : WindowFits detectionWindow now) (readable : Readable store.events) :
    (evaluate store now).map (List.map undescribed) =
      .ok ((failing (evidence (fun _ => true) detectionWindow now store.events)).map fun item =>
        { alertFields info now (finding item.1 item.2 false) with description := [] }) := by
  obtain ⟨bodies, returned, fields⟩ := evaluate_eq store fits readable
  rw [returned]
  apply congrArg Except.ok
  have hidden := congrArg (List.map fun alert : AlertFields => { alert with description := [] })
    fields
  rw [List.map_map, List.map_map] at hidden
  exact hidden

/-- Which services fail, and on which evidence, does not depend on recoveries. -/
theorem failing_of_unrecovered {now : Datetime} {events others : List SecurityEvent}
    (same : events.filter (fun event => event.eventType != .circuitClosed) =
      others.filter fun event => event.eventType != .circuitClosed) :
    failing (evidence (fun _ => true) detectionWindow now events) =
      failing (evidence (fun _ => true) detectionWindow now others) := by
  have signals (events : List SecurityEvent) :
      (evidence (fun _ => true) detectionWindow now events).filter isSignal =
        (evidence (fun _ => true) detectionWindow now
          (events.filter fun event => event.eventType != .circuitClosed)).filter isSignal := by
    rw [filter_evidence, filter_evidence, evidence, evidence, chronological, chronological,
      ← filter_sortedBy, List.filter_filter]
    apply List.filter_congr
    intro event _
    rw [isSignal]
    cases event.eventType <;> simp [immediateEventTypes, failureEventTypes]
  rw [failing, failing, grouped, grouped, signals events, signals others, same]

/-- Over events with readable timestamps the rule returns what it is to return exactly
when the window does not start before the first moment; and stores that differ in
recoveries only give the same alerts up to the description, at any moment. -/
theorem raisesPerService_iff (store : EventStore) (now : Datetime)
    (readable : Readable store.events) :
    (RaisesPerService store now ↔ WindowFits detectionWindow now) ∧
      ∀ other : EventStore, Readable other.events →
        store.events.filter (fun event => event.eventType != .circuitClosed) =
            other.events.filter (fun event => event.eventType != .circuitClosed) →
          (evaluate store now).map (List.map undescribed) =
            (evaluate other now).map (List.map undescribed) := by
  refine ⟨⟨?_, fun fits => ?_⟩, fun other readable' same => ?_⟩
  · rintro ⟨alerts, returned, -⟩
    exact windowFits_of_returned returned
  · obtain ⟨bodies, returned, fields⟩ := evaluate_eq store fits readable
    obtain ⟨alerts, rfl, perService⟩ := exists_onePerKey (Due now store.events)
      (fun service alert => alert.affectedService = some service) Prod.fst fields
      (nodup_failing _) (fun _ => mem_keys_failing) fun _ _ => rfl
    exact ⟨alerts, returned, perService⟩
  · by_cases fits : WindowFits detectionWindow now
    · rw [map_undescribed fits readable, map_undescribed fits readable',
        failing_of_unrecovered same]
    · rw [evaluate, evaluate, recentEvents_of_misfit fits, recentEvents_of_misfit fits]

/-- A breaker that opened. -/
def openedBreaker : EventStore :=
  ⟨[occurrence 1 .incident .circuitOpened 503 none none unavailable_known]⟩

theorem raisesPerService_openedBreaker :
    (RaisesPerService openedBreaker (daybreak 3).time ↔
      WindowFits detectionWindow (daybreak 3).time) ∧
    (evaluate openedBreaker (daybreak 3).time).map (List.map undescribed) =
      (evaluate ⟨openedBreaker.events ++
        [occurrence 2 .incident .circuitClosed 200 none none]⟩ (daybreak 3).time).map
          (List.map undescribed) := by
  have counts := raisesPerService_iff openedBreaker (daybreak 3).time (by decide +kernel)
  exact ⟨counts.1, counts.2 _ (by decide +kernel) (by decide +kernel)⟩

/-- At the first moment the rule returns nothing, not even over an empty store. -/
theorem not_raisesPerService : ¬ ∀ (store : EventStore) (now : Datetime),
    Readable store.events → RaisesPerService store now := by
  intro always
  obtain ⟨alerts, returned, -⟩ := always EventStore.empty firstMoment (by rintro event ⟨⟩)
  have misfits : ¬ WindowFits detectionWindow firstMoment := by decide
  exact misfits (windowFits_of_returned returned)

end ServiceFailure

end SentinelIR.Rules
