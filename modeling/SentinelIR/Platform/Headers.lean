/-
# What a client can choose

A client writes its own `X-User-Id` and the front of its own `X-Forwarded-For`,
and the services take both at their word: a failed login, a refusal and a request
are recorded under whatever name the headers give. Histories that differ in
nothing else raise alerts about the same subjects exactly while the signals whose
name can be chosen are too few to decide a threshold.
-/

import SentinelIR.Platform.BruteForce

namespace SentinelIR.Platform

open SentinelIR.Py SentinelIR.Common SentinelIR.Collector SentinelIR.Rules SentinelIR.Services
open SentinelIR.Gateway SentinelIR.Alerts

/-- The headers a client supplies. -/
structure Headers where
  userId : Option Str
  forwardedFor : Option Str

namespace Exchange

/-- The same request with other headers. -/
def forge (headers : Headers) (exchange : Exchange) : Exchange where
  client :=
    { exchange.client with
      userIdHeader := headers.userId
      forwardedFor := headers.forwardedFor }
  sent := exchange.sent
  gateway := exchange.gateway
  outcome :=
    match exchange.outcome with
    | .silent => .silent
    | .handled recorded handling logged =>
        .handled ⟨recorded.method, recorded.path, recorded.correlation, recorded.tracked⟩ handling
          logged

end Exchange

/-- The histories differ in nothing but the headers clients supply. -/
def SameButHeaders (history forged : List Exchange) : Prop :=
  List.Forall₂ (fun exchange other => ∃ headers, other = exchange.forge headers) history forged

theorem sameButHeaders_map (headers : Headers) (history : List Exchange) :
    SameButHeaders history (history.map (Exchange.forge headers)) := by
  rw [SameButHeaders, List.forall₂_map_right_iff]
  exact List.forall₂_same.mpr fun _ _ => ⟨headers, rfl⟩

/-- Rules 1, 2 and 3 report the same subjects. -/
def SameSubjects [UnicodeDb] (now : Datetime) (stream other : EventStore) : Prop :=
  ∀ subject : Subject, subject.rule ≠ 3 →
    (subject.ReportedBy evaluateBodies stream now ↔ subject.ReportedBy evaluateBodies other now)

/-! ## Signals without their names -/

namespace Handling

/-- When services record a refusal. -/
def refusalMoments : Handling → List Micros
  | turnedAway _ => []
  | failedLogin _ _ _ stamps => [moment stamps.completion]
  | incident _ _ _ answer stamps =>
      if answer.code = 401 ∨ answer.code = 403 then [moment stamps.completion] else []
  | served _ _ answer stamps =>
      if answer.code = 401 ∨ answer.code = 403 then [moment stamps.completion] else []

/-- When services record an arrival through the gateway. -/
def arrivalMoments : Handling → List Micros
  | turnedAway _ => []
  | failedLogin _ _ _ stamps => [moment stamps.arrival]
  | incident _ _ _ _ stamps => [moment stamps.arrival]
  | served _ _ _ stamps => [moment stamps.arrival]

/-- When auth-service records a failed login. -/
def failureMoments : Handling → List Micros
  | failedLogin _ _ report _ => [moment report]
  | _ => []

end Handling

/-- What one kind of moment an exchange amounts to. -/
def Exchange.moments (exchange : Exchange) (ofHandling : Handling → List Micros) : List Micros :=
  match exchange.outcome with
  | .silent => []
  | .handled _ handling _ => ofHandling handling

/-- How many moments of one kind fall into a window. -/
def total (ofHandling : Handling → List Micros) (window : Micros) (now : Datetime)
    (history : List Exchange) : Nat :=
  (history.flatMap (Exchange.moments · ofHandling)).countP fun instant => Within window now instant

/-- The signals are the moments, all under the one name the client bears. -/
def NamedBy (name : ClientRequest → Option Str) (ofHandling : Handling → List Micros)
    (signals : Exchange → List Signal) : Prop :=
  ∀ exchange : Exchange, signals exchange =
    (name exchange.client).toList.flatMap fun called =>
      (exchange.moments ofHandling).map fun instant => (called, instant)

theorem refusals_named :
    NamedBy (fun client => some (Exchange.recordedCaller client)) Handling.refusalMoments
      Exchange.refusals := by
  intro exchange
  unfold Exchange.refusals Exchange.signals Exchange.moments
  cases exchange.outcome with
  | silent => rfl
  | handled recorded handling logged =>
      cases handling with
      | incident host lookups reports answer stamps =>
          simp only [Handling.refusals, Handling.refusalMoments, serviceRefusals]
          split <;> rfl
      | served service reports answer stamps =>
          simp only [Handling.refusals, Handling.refusalMoments, serviceRefusals]
          split <;> rfl
      | _ => rfl

theorem addresses_named :
    NamedBy (fun client => some client.recordedAddress) Handling.failureMoments
      Exchange.addresses := by
  intro exchange
  unfold Exchange.addresses Exchange.signals Exchange.moments
  cases exchange.outcome with
  | silent => rfl
  | handled recorded handling logged => cases handling <;> rfl

theorem arrivals_named :
    NamedBy Exchange.rateSource Handling.arrivalMoments Exchange.arrivals := by
  intro exchange
  unfold Exchange.arrivals Exchange.signals Exchange.moments
  cases exchange.outcome with
  | silent => cases Exchange.rateSource exchange.client <;> rfl
  | handled recorded handling logged =>
      cases handling with
      | turnedAway status => cases Exchange.rateSource exchange.client <;> rfl
      | _ =>
          simp only [Handling.arrivals, Handling.arrivalMoments, arrivals]
          cases Exchange.rateSource exchange.client <;> rfl

section Named

variable {name : ClientRequest → Option Str} {ofHandling : Handling → List Micros}
  {signals : Exchange → List Signal} {window : Micros} {now : Datetime} {called : Str}

theorem tally_called (instants : List Micros) :
    Signal.tally window now called (instants.map fun instant => (called, instant)) =
      instants.countP fun instant => Within window now instant := by
  rw [Signal.tally, List.countP_map]
  apply List.countP_congr
  intro instant _
  simp [Signal.Counts, Within]

theorem tally_other {other : Str} (apart : other ≠ called) (instants : List Micros) :
    Signal.tally window now called (instants.map fun instant => (other, instant)) = 0 :=
  Signal.tally_eq_zero fun signal hsignal => by
    obtain ⟨instant, -, rfl⟩ := List.mem_map.mp hsignal
    exact apart

theorem tallied_cons (exchange : Exchange) (history : List Exchange) :
    tallied signals window now called (exchange :: history) =
      Signal.tally window now called (signals exchange) +
        tallied signals window now called history := by
  rw [tallied, List.flatMap_cons, Signal.tally_append]
  rfl

theorem total_cons (exchange : Exchange) (history : List Exchange) :
    total ofHandling window now (exchange :: history) =
      (exchange.moments ofHandling).countP (fun instant => Within window now instant) +
        total ofHandling window now history := by
  rw [total, List.flatMap_cons, List.countP_append]
  rfl

/-- What one exchange adds to a name: its moments, if it bears the name. -/
theorem tally_named (named : NamedBy name ofHandling signals) (exchange : Exchange) :
    Signal.tally window now called (signals exchange) =
      if name exchange.client = some called then
        (exchange.moments ofHandling).countP fun instant => Within window now instant
      else 0 := by
  rw [named exchange]
  cases borne : name exchange.client with
  | none => rfl
  | some other =>
      simp only [Option.toList_some, List.flatMap_cons, List.flatMap_nil, List.append_nil,
        Option.some.injEq]
      split
      · next same => rw [same, tally_called]
      · next apart => exact tally_other apart _

/-- A name is never held more often than there are moments. -/
theorem tallied_le_total (named : NamedBy name ofHandling signals) (window : Micros)
    (now : Datetime) (called : Str) (history : List Exchange) :
    tallied signals window now called history ≤ total ofHandling window now history := by
  induction history with
  | nil => exact le_rfl
  | cons exchange history ih =>
      rw [tallied_cons, total_cons, tally_named named]
      refine add_le_add ?_ ih
      split
      · exact le_rfl
      · exact Nat.zero_le _

/-- A name every exchange bears is held at every moment. -/
theorem tallied_eq_total (named : NamedBy name ofHandling signals) {history : List Exchange}
    (every : ∀ exchange ∈ history, name exchange.client = some called) :
    tallied signals window now called history = total ofHandling window now history := by
  induction history with
  | nil => rfl
  | cons exchange history ih =>
      rw [tallied_cons, total_cons, tally_named named, if_pos (every _ List.mem_cons_self),
        ih fun other hother => every other (List.mem_cons_of_mem _ hother)]

/-- A name no exchange bears is never held. -/
theorem tallied_eq_zero (named : NamedBy name ofHandling signals) {history : List Exchange}
    (apart : ∀ exchange ∈ history, name exchange.client ≠ some called) :
    tallied signals window now called history = 0 := by
  induction history with
  | nil => rfl
  | cons exchange history ih =>
      rw [tallied_cons, tally_named named, if_neg (apart _ List.mem_cons_self),
        ih fun other hother => apart other (List.mem_cons_of_mem _ hother)]

end Named

/-! ## What headers leave alone -/

section Fixed

variable {history forged : List Exchange} (same : SameButHeaders history forged)

include same

/-- What does not read the headers is the same in both histories. -/
theorem flatMap_eq_of_same {α : Type} {f : Exchange → List α}
    (fixed : ∀ (exchange : Exchange) headers, f (exchange.forge headers) = f exchange) :
    forged.flatMap f = history.flatMap f := by
  induction same with
  | nil => rfl
  | cons hother _ ih =>
      obtain ⟨headers, rfl⟩ := hother
      rw [List.flatMap_cons, List.flatMap_cons, fixed, ih]

theorem tallied_eq_of_same {signals : Exchange → List Signal}
    (fixed : ∀ (exchange : Exchange) headers,
      signals (exchange.forge headers) = signals exchange)
    (window : Micros) (now : Datetime) (name : Str) :
    tallied signals window now name forged = tallied signals window now name history := by
  rw [tallied, tallied, flatMap_eq_of_same same fixed]

theorem total_eq_of_same (ofHandling : Handling → List Micros) (window : Micros)
    (now : Datetime) :
    total ofHandling window now forged = total ofHandling window now history := by
  have fixed (exchange : Exchange) (headers : Headers) :
      (exchange.forge headers).moments ofHandling = exchange.moments ofHandling := by
    unfold Exchange.moments Exchange.forge
    cases exchange.outcome <;> rfl
  rw [total, total, flatMap_eq_of_same same fixed]

end Fixed

section Chosen

variable {name : ClientRequest → Option Str} {ofHandling : Handling → List Micros}
  {signals : Exchange → List Signal} {window : Micros} {now : Datetime} {called : Str}
  {history : List Exchange} {headers : Headers}

/-- Headers that give every request a name move every moment to it. -/
theorem tallied_forged_eq_total (named : NamedBy name ofHandling signals)
    (borne : ∀ exchange : Exchange, name (exchange.forge headers).client = some called) :
    tallied signals window now called (history.map (Exchange.forge headers)) =
      total ofHandling window now history := by
  have every : ∀ exchange ∈ history.map (Exchange.forge headers),
      name exchange.client = some called := by
    intro exchange hexchange
    obtain ⟨original, -, rfl⟩ := List.mem_map.mp hexchange
    exact borne original
  rw [tallied_eq_total named every, total_eq_of_same (sameButHeaders_map headers history)]

/-- Headers that give no request the name move every moment away from it. -/
theorem tallied_forged_eq_zero (named : NamedBy name ofHandling signals)
    (apart : ∀ exchange : Exchange, name (exchange.forge headers).client ≠ some called) :
    tallied signals window now called (history.map (Exchange.forge headers)) = 0 := by
  apply tallied_eq_zero named
  intro exchange hexchange
  obtain ⟨original, -, rfl⟩ := List.mem_map.mp hexchange
  exact apart original

/-- The events of a forged history are a stream of it. -/
theorem streams_forged [UnicodeDb] (headers : Headers) :
    Streams ⟨(history.map (Exchange.forge headers)).flatMap Exchange.events⟩
      (history.map (Exchange.forge headers)) := List.Perm.refl _

end Chosen

section Forged

variable (exchange : Exchange) (headers : Headers)

theorem gatewayRefusals_forge :
    (exchange.forge headers).gatewayRefusals = exchange.gatewayRefusals := by
  unfold Exchange.gatewayRefusals Exchange.signals Exchange.forge
  cases exchange.outcome <;> rfl

theorem throttles_forge : (exchange.forge headers).throttles = exchange.throttles := by
  unfold Exchange.throttles Exchange.signals Exchange.forge
  cases exchange.outcome <;> rfl

theorem lookups_forge : (exchange.forge headers).lookups = exchange.lookups := by
  unfold Exchange.lookups Exchange.signals Exchange.forge
  cases exchange.outcome <;> rfl

theorem accounts_forge : (exchange.forge headers).accounts = exchange.accounts := by
  unfold Exchange.accounts Exchange.signals Exchange.forge
  cases exchange.outcome <;> rfl

end Forged

/-! ## The law and its condition -/

/-- Some header makes a service record the address. -/
def Choosable (source : Str) : Prop := source ≠ [] ∧ ∃ header, leadingEntry header = source

/-- The signals whose name a client can choose decide no threshold: there are too
few of them, or the rest decides it. -/
structure Unforgeable (now : Datetime) (history : List Exchange) : Prop where
  logins : total Handling.failureMoments FailedLogins.detectionWindow now history < 5
  callers : ∀ caller, caller ≠ [] →
    3 ≤ tallied Exchange.gatewayRefusals UnauthorisedAccess.detectionWindow now caller history ∨
      total Handling.refusalMoments UnauthorisedAccess.detectionWindow now history +
        tallied Exchange.gatewayRefusals UnauthorisedAccess.detectionWindow now caller history < 3
  sources : ∀ source, Choosable source →
    (3 ≤ tallied Exchange.throttles AbnormalRate.detectionWindow now source history ∨
      30 ≤ tallied Exchange.lookups AbnormalRate.detectionWindow now source history) ∨
      total Handling.arrivalMoments AbnormalRate.detectionWindow now history +
        tallied Exchange.lookups AbnormalRate.detectionWindow now source history < 30

theorem recordedCaller_ne_nil (client : ClientRequest) : Exchange.recordedCaller client ≠ [] := by
  unfold Exchange.recordedCaller
  split
  · exact List.cons_ne_nil _ _
  · exact List.cons_ne_nil _ _
  · decide

theorem choosable_of_rateSource {client : ClientRequest} {source : Str}
    (recorded : Exchange.rateSource client = some source) : Choosable source := by
  unfold Exchange.rateSource at recorded
  split at recorded
  · cases recorded
  · next visible =>
      obtain rfl := Option.some.inj recorded
      refine ⟨visible, ?_⟩
      unfold ClientRequest.recordedAddress
      cases client.forwardedFor with
      | none => exact ⟨_, leadingEntry_address client.peer⟩
      | some header => exact ⟨header, rfl⟩

section Law

variable [UnicodeDb] {history : List Exchange} {stream : EventStore}
  (streams : Streams stream history) (now : Datetime)

include streams

/-- Where the chosen names decide nothing, every forgery is reported alike. -/
theorem over_iff_of_unforgeable (unforgeable : Unforgeable now history)
    {forged : List Exchange} {other : EventStore} (same : SameButHeaders history forged)
    (others : Streams other forged) (subject : Subject) (early : subject.rule ≠ 3) :
    subject.Over now stream.events ↔ subject.Over now other.events := by
  cases subject with
  | service name => exact absurd rfl early
  | account userId =>
      rw [over_account_iff streams, over_account_iff others, tallied_eq_of_same same accounts_forge]
  | address sourceIp =>
      have few := unforgeable.logins
      have here := tallied_le_total addresses_named FailedLogins.detectionWindow now
        sourceIp history
      have there := tallied_le_total addresses_named FailedLogins.detectionWindow now
        sourceIp forged
      rw [total_eq_of_same same] at there
      rw [over_address_iff streams, over_address_iff others]
      omega
  | refused caller =>
      have gateway := tallied_eq_of_same same gatewayRefusals_forge
        UnauthorisedAccess.detectionWindow now caller
      rw [over_refused_iff streams, over_refused_iff others, gateway]
      by_cases anonymous : caller = []
      · have none (exchanges : List Exchange) :
            tallied Exchange.refusals UnauthorisedAccess.detectionWindow now caller exchanges = 0 :=
          tallied_eq_zero refusals_named fun exchange _ named =>
            recordedCaller_ne_nil exchange.client ((Option.some.inj named).trans anonymous)
        rw [none, none]
      · have here := tallied_le_total refusals_named UnauthorisedAccess.detectionWindow now caller
          history
        have there := tallied_le_total refusals_named UnauthorisedAccess.detectionWindow now caller
          forged
        rw [total_eq_of_same same] at there
        have decided := unforgeable.callers caller anonymous
        omega
  | source source =>
      have throttles := tallied_eq_of_same same throttles_forge AbnormalRate.detectionWindow now
        source
      have lookups := tallied_eq_of_same same lookups_forge AbnormalRate.detectionWindow now source
      rw [over_source_iff streams, over_source_iff others, throttles, lookups]
      by_cases choosable : Choosable source
      · have here := tallied_le_total arrivals_named AbnormalRate.detectionWindow now source
          history
        have there := tallied_le_total arrivals_named AbnormalRate.detectionWindow now source
          forged
        rw [total_eq_of_same same] at there
        have decided := unforgeable.sources source choosable
        omega
      · have none (exchanges : List Exchange) :
            tallied Exchange.arrivals AbnormalRate.detectionWindow now source exchanges = 0 :=
          tallied_eq_zero arrivals_named fun exchange _ named =>
            choosable (choosable_of_rateSource named)
        rw [none, none]

/-- What forging every request alike reports is what the history reports. -/
theorem over_forged_iff
    (law : ∀ (forged : List Exchange) (other : EventStore), SameButHeaders history forged →
      Streams other forged → SameSubjects now stream other)
    (fits : WindowFits UnauthorisedAccess.detectionWindow now) (headers : Headers)
    {subject : Subject} (early : subject.rule ≠ 3) :
    subject.Over now stream.events ↔
      subject.Over now ((history.map (Exchange.forge headers)).flatMap Exchange.events) := by
  have same := law _ _ (sameButHeaders_map headers history) (streams_forged headers) subject early
  rw [reported_iff (readable_of_streams streams),
    reported_iff (readable_of_streams (streams_forged headers))] at same
  exact ⟨fun hover => (same.mp ⟨fits, hover⟩).2, fun hover => (same.mpr ⟨fits, hover⟩).2⟩

section Forgeries

variable (law : ∀ (forged : List Exchange) (other : EventStore), SameButHeaders history forged →
    Streams other forged → SameSubjects now stream other)
  (fits : WindowFits UnauthorisedAccess.detectionWindow now)

include law fits

/-- Two forgeries of every request are reported alike. -/
theorem over_forged_alike (first second : Headers) {subject : Subject} (early : subject.rule ≠ 3) :
    subject.Over now ((history.map (Exchange.forge first)).flatMap Exchange.events) ↔
      subject.Over now ((history.map (Exchange.forge second)).flatMap Exchange.events) :=
  (over_forged_iff streams now law fits first early).symm.trans
    (over_forged_iff streams now law fits second early)

/-- Every login from `a`, or every login from nowhere. -/
theorem logins_of_law :
    total Handling.failureMoments FailedLogins.detectionWindow now history < 5 := by
  have moved := over_forged_alike streams now law fits ⟨none, some "a"⟩ ⟨none, some []⟩
    (show (Subject.address "a").rule ≠ 3 from show (0 : Fin 4) ≠ 3 by decide)
  have called (exchange : Exchange) :
      some (exchange.forge ⟨none, some "a"⟩).client.recordedAddress = some (lit "a") :=
    show some (leadingEntry "a") = some (lit "a") by decide
  have apart (exchange : Exchange) :
      some (exchange.forge ⟨none, some []⟩).client.recordedAddress ≠ some (lit "a") :=
    show some (leadingEntry []) ≠ some (lit "a") by decide
  rw [over_address_iff (streams_forged _), over_address_iff (streams_forged _),
    tallied_forged_eq_total addresses_named called,
    tallied_forged_eq_zero addresses_named apart] at moved
  omega

/-- Every refusal under the caller's name, or every refusal under another one. -/
theorem callers_of_law {caller : Str} (visible : caller ≠ []) :
    3 ≤ tallied Exchange.gatewayRefusals UnauthorisedAccess.detectionWindow now caller history ∨
      total Handling.refusalMoments UnauthorisedAccess.detectionWindow now history +
        tallied Exchange.gatewayRefusals UnauthorisedAccess.detectionWindow now caller history <
          3 := by
  have moved := over_forged_alike streams now law fits ⟨some caller, none⟩
    ⟨some (codePoint 'x' :: caller), none⟩
    (show (Subject.refused caller).rule ≠ 3 from show (1 : Fin 4) ≠ 3 by decide)
  have called (exchange : Exchange) :
      some (Exchange.recordedCaller (exchange.forge ⟨some caller, none⟩).client) = some caller := by
    obtain ⟨c, rest, rfl⟩ := List.exists_cons_of_ne_nil visible
    rfl
  have apart (exchange : Exchange) :
      some (Exchange.recordedCaller
        (exchange.forge ⟨some (codePoint 'x' :: caller), none⟩).client) ≠ some caller := by
    change some (codePoint 'x' :: caller) ≠ some caller
    exact fun same => List.cons_ne_self _ _ (Option.some.inj same)
  rw [over_refused_iff (streams_forged _), over_refused_iff (streams_forged _),
    tallied_forged_eq_total refusals_named called, tallied_forged_eq_zero refusals_named apart,
    tallied_eq_of_same (sameButHeaders_map _ history) gatewayRefusals_forge,
    tallied_eq_of_same (sameButHeaders_map _ history) gatewayRefusals_forge] at moved
  omega

/-- Every request from the source, or every request from nowhere. -/
theorem sources_of_law {source : Str} (choosable : Choosable source) :
    (3 ≤ tallied Exchange.throttles AbnormalRate.detectionWindow now source history ∨
      30 ≤ tallied Exchange.lookups AbnormalRate.detectionWindow now source history) ∨
      total Handling.arrivalMoments AbnormalRate.detectionWindow now history +
        tallied Exchange.lookups AbnormalRate.detectionWindow now source history < 30 := by
  obtain ⟨visible, header, hheader⟩ := choosable
  have moved := over_forged_alike streams now law fits ⟨none, some header⟩ ⟨none, some []⟩
    (show (Subject.source source).rule ≠ 3 from show (2 : Fin 4) ≠ 3 by decide)
  have called (exchange : Exchange) :
      Exchange.rateSource (exchange.forge ⟨none, some header⟩).client = some source := by
    change (if leadingEntry header = [] then none else some (leadingEntry header)) = _
    rw [hheader, if_neg visible]
  have apart (exchange : Exchange) :
      Exchange.rateSource (exchange.forge ⟨none, some []⟩).client ≠ some source := by
    change (if leadingEntry [] = [] then none else some (leadingEntry [])) ≠ some source
    rw [if_pos (by decide)]
    exact Option.some_ne_none source |>.symm
  rw [over_source_iff (streams_forged _), over_source_iff (streams_forged _),
    tallied_forged_eq_total arrivals_named called, tallied_forged_eq_zero arrivals_named apart,
    tallied_eq_of_same (sameButHeaders_map _ history) throttles_forge,
    tallied_eq_of_same (sameButHeaders_map _ history) throttles_forge,
    tallied_eq_of_same (sameButHeaders_map _ history) lookups_forge,
    tallied_eq_of_same (sameButHeaders_map _ history) lookups_forge] at moved
  omega

/-- Where every forgery is reported alike, the chosen names decide nothing: the
same requests can be forged all to a name and all away from it. -/
theorem unforgeable_of_law : Unforgeable now history where
  logins := logins_of_law streams now law fits
  callers _ visible := callers_of_law streams now law fits visible
  sources _ choosable := sources_of_law streams now law fits choosable

end Forgeries

/-- Histories that differ only in the headers of clients raise alerts about the
same subjects exactly while the chosen names decide no threshold. -/
theorem sameSubjects_iff_unforgeable :
    (∀ (forged : List Exchange) (other : EventStore), SameButHeaders history forged →
      Streams other forged → SameSubjects now stream other) ↔
    (WindowFits UnauthorisedAccess.detectionWindow now → Unforgeable now history) := by
  constructor
  · exact fun law fits => unforgeable_of_law streams now law fits
  · intro unforgeable forged other same others subject early
    rw [reported_iff (readable_of_streams streams), reported_iff (readable_of_streams others)]
    exact and_congr_right fun fits =>
      over_iff_of_unforgeable streams now (unforgeable fits) same others subject early

end Law

/-! ## Five logins, forged away -/

/-- Five wrong passwords from one address. -/
def fiveLogins : List Exchange :=
  [wrongPassword 0, wrongPassword 1, wrongPassword 2, wrongPassword 3, wrongPassword 4].map
    LoginAttempt.exchange

/-- A header that puts a made-up address in front. -/
def madeUp : Headers := ⟨none, some "10.9.9.9"⟩

theorem decided_fiveLogins :
    5 ≤ tallied Exchange.addresses FailedLogins.detectionWindow (tick 30).clock.time "203.0.113.9"
        fiveLogins ∧
      ¬ 5 ≤ tallied Exchange.addresses FailedLogins.detectionWindow (tick 30).clock.time
        "203.0.113.9" (fiveLogins.map (Exchange.forge madeUp)) := by
  decide +kernel

theorem fits_fiveLogins : WindowFits UnauthorisedAccess.detectionWindow (tick 30).clock.time := by
  decide +kernel

/-- An attacker moves its failed logins to another address. -/
theorem fiveLogins_moved : letI : UnicodeDb := ⟨fun _ => true⟩
    ¬ ∀ (history forged : List Exchange) (stream other : EventStore) (now : Datetime),
      SameButHeaders history forged → Streams stream history → Streams other forged →
        SameSubjects now stream other := by
  let _ : UnicodeDb := ⟨fun _ => true⟩
  intro law
  have streams : Streams ⟨fiveLogins.flatMap Exchange.events⟩ fiveLogins := List.Perm.refl _
  have others : Streams ⟨(fiveLogins.map (Exchange.forge madeUp)).flatMap Exchange.events⟩
      (fiveLogins.map (Exchange.forge madeUp)) := List.Perm.refl _
  have same := law _ _ _ _ (tick 30).clock.time (sameButHeaders_map madeUp fiveLogins) streams
    others (.address "203.0.113.9") (show (0 : Fin 4) ≠ 3 by decide)
  rw [reported_iff (readable_of_streams streams), reported_iff (readable_of_streams others),
    over_address_iff streams, over_address_iff others] at same
  exact decided_fiveLogins.2 (same.mp ⟨fits_fiveLogins, decided_fiveLogins.1⟩).2

/-- The five logins again: not every forgery of them is reported alike. -/
theorem sameSubjects_iff_unforgeable_fiveLogins : letI : UnicodeDb := ⟨fun _ => true⟩
    ¬ ∀ (forged : List Exchange) (other : EventStore), SameButHeaders fiveLogins forged →
      Streams other forged →
        SameSubjects (tick 30).clock.time ⟨fiveLogins.flatMap Exchange.events⟩ other := by
  let _ : UnicodeDb := ⟨fun _ => true⟩
  intro law
  have streams : Streams ⟨fiveLogins.flatMap Exchange.events⟩ fiveLogins := List.Perm.refl _
  have unforgeable := (sameSubjects_iff_unforgeable streams _).mp law fits_fiveLogins
  exact absurd unforgeable.logins (by decide +kernel)

end SentinelIR.Platform
