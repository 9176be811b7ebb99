/-
# Who an access alert is about

A refused request is held against up to two names: the one its service records,
by the headers it was sent, and the one the gateway does. The gateway's is the
consumer of the token, which is the same for every user, so three users refused
once each make one alert; and a refusal both emitters report is evidence twice.
An alert speaks about one principal and counts its requests once exactly while
the names keep apart.
-/

import SentinelIR.Platform.BruteForce

namespace SentinelIR.Platform

open SentinelIR.Py SentinelIR.Common SentinelIR.Collector SentinelIR.Rules SentinelIR.Services
open SentinelIR.Gateway SentinelIR.Alerts

/-- Under whose authority a request was made. -/
inductive Principal
  | user (name : Str)
  | anonymous (address : Str)
  deriving DecidableEq

/-- The user of the verified token, or nobody at an address. -/
def Exchange.principal (exchange : Exchange) : Principal :=
  match exchange.client.token with
  | some user => .user user
  | none => .anonymous exchange.client.peer.text

section Alerts

variable [UnicodeDb]

/-- The evidence about a caller holds an event of the exchange. -/
def RestsOn (now : Datetime) (caller : Str) (exchange : Exchange) : Prop :=
  ∃ event ∈ exchange.events, Windowed UnauthorisedAccess.detectionWindow now event ∧
    (Subject.refused caller).watches event = true

instance (now : Datetime) (caller : Str) (exchange : Exchange) :
    Decidable (RestsOn now caller exchange) := List.decidableBEx _ _

/-- Every alert rests on three requests of one principal that no other alert
rests on. -/
def AlertsApart (stream : EventStore) (now : Datetime) (history : List Exchange) : Prop :=
  ∀ caller, (Subject.refused caller).ReportedBy UnauthorisedAccess.evaluate stream now →
    3 ≤ history.countP (fun exchange => RestsOn now caller exchange) ∧
      (∃ principal, ∀ exchange ∈ history, RestsOn now caller exchange →
        exchange.principal = principal) ∧
      ∀ other, other ≠ caller →
        (Subject.refused other).ReportedBy UnauthorisedAccess.evaluate stream now →
          ∀ exchange ∈ history, RestsOn now caller exchange → ¬ RestsOn now other exchange

end Alerts

/-! ## The names a request is held against -/

/-- The name a service holds a request against: the `X-User-Id` header, without one the
first entry of the `X-Forwarded-For` header, and without that header the client's own
address. -/
inductive NamedByService (client : ClientRequest) : Str → Prop
  | userId {userId : Str} (sent : client.userIdHeader = some userId) (visible : userId ≠ []) :
      NamedByService client userId
  | forwarded {entries : Str} (unnamed : client.userIdHeader.getD [] = [])
      (sent : client.forwardedFor = some entries) (visible : leadingEntry entries ≠ []) :
      NamedByService client (leadingEntry entries)
  | unattributed {entries : Str} (unnamed : client.userIdHeader.getD [] = [])
      (sent : client.forwardedFor = some entries) (blank : leadingEntry entries = []) :
      NamedByService client "unattributed"
  | peer (unnamed : client.userIdHeader.getD [] = []) (direct : client.forwardedFor = none) :
      NamedByService client client.peer.text

/-- The name the gateway holds it against: the one consumer of every token, and without
a token the client's own address. -/
inductive NamedByGateway (client : ClientRequest) : Str → Prop
  | token {user : Str} (verified : client.token = some user) : NamedByGateway client consumerName
  | peer (anonymous : client.token = none) : NamedByGateway client client.peer.text

theorem namedByService_iff {client : ClientRequest} {name : Str} :
    NamedByService client name ↔ Exchange.recordedCaller client = name := by
  have forwarded {entries : Str} (sent : client.forwardedFor = some entries) :
      client.recordedAddress = leadingEntry entries := by
    rw [ClientRequest.recordedAddress, sent]
  have direct (none : client.forwardedFor = none) : client.recordedAddress = client.peer.text := by
    rw [ClientRequest.recordedAddress, none]
  constructor
  · rintro (⟨sent, visible⟩ | ⟨unnamed, sent, visible⟩ | ⟨unnamed, sent, blank⟩ |
      ⟨unnamed, none⟩)
    · obtain ⟨c, rest, rfl⟩ := List.exists_cons_of_ne_nil visible
      rw [Exchange.recordedCaller, sent]
    · rw [Exchange.recordedCaller_of_unnamed unnamed, forwarded sent, if_neg visible]
    · rw [Exchange.recordedCaller_of_unnamed unnamed, forwarded sent, if_pos blank]
    · rw [Exchange.recordedCaller_of_unnamed unnamed, direct none, if_neg client.peer.visible]
  · rintro rfl
    by_cases unnamed : client.userIdHeader.getD [] = []
    · rw [Exchange.recordedCaller_of_unnamed unnamed]
      cases sent : client.forwardedFor with
      | none =>
          rw [direct sent, if_neg client.peer.visible]
          exact .peer unnamed sent
      | some entries =>
          rw [forwarded sent]
          by_cases blank : leadingEntry entries = []
          · rw [if_pos blank]
            exact .unattributed unnamed sent blank
          · rw [if_neg blank]
            exact .forwarded unnamed sent blank
    · cases sent : client.userIdHeader with
      | none => exact absurd (by rw [sent]; rfl) unnamed
      | some userId =>
          rw [sent, Option.getD_some] at unnamed
          obtain ⟨c, rest, rfl⟩ := List.exists_cons_of_ne_nil unnamed
          have caller : Exchange.recordedCaller client = c :: rest := by
            rw [Exchange.recordedCaller, sent]
          rw [caller]
          exact .userId sent unnamed

theorem namedByGateway_iff {client : ClientRequest} {name : Str} :
    NamedByGateway client name ↔ Exchange.gatewayCaller client = name := by
  unfold Exchange.gatewayCaller ClientRequest.consumer
  constructor
  · rintro (⟨verified⟩ | ⟨anonymous⟩)
    · rw [verified]
      rfl
    · rw [anonymous]
      rfl
  · rintro rfl
    cases held : client.token with
    | none => exact .peer held
    | some user => exact .token held

instance (client : ClientRequest) (name : Str) : Decidable (NamedByService client name) :=
  decidable_of_iff _ namedByService_iff.symm

instance (client : ClientRequest) (name : Str) : Decidable (NamedByGateway client name) :=
  decidable_of_iff _ namedByGateway_iff.symm

/-- A refusal among the signals falls into the window. -/
def Refused (now : Datetime) (signals : List Signal) : Prop :=
  ∃ signal ∈ signals, Within UnauthorisedAccess.detectionWindow now signal.2

instance (now : Datetime) (signals : List Signal) : Decidable (Refused now signals) :=
  List.decidableBEx _ _

/-- A service refused the request inside the window, and holds it against the name. -/
def ChargedByService (now : Datetime) (name : Str) (exchange : Exchange) : Prop :=
  Refused now exchange.refusals ∧ NamedByService exchange.client name

/-- The gateway answered with a refusal inside the window, and holds it against the name. -/
def ChargedByGateway (now : Datetime) (name : Str) (exchange : Exchange) : Prop :=
  Refused now exchange.gatewayRefusals ∧ NamedByGateway exchange.client name

instance (now : Datetime) (name : Str) (exchange : Exchange) :
    Decidable (ChargedByService now name exchange) := inferInstanceAs (Decidable (_ ∧ _))

instance (now : Datetime) (name : Str) (exchange : Exchange) :
    Decidable (ChargedByGateway now name exchange) := inferInstanceAs (Decidable (_ ∧ _))

/-- The exchange is held against the name inside the window. -/
def Charged (now : Datetime) (name : Str) (exchange : Exchange) : Prop :=
  ChargedByService now name exchange ∨ ChargedByGateway now name exchange

instance (now : Datetime) (name : Str) (exchange : Exchange) :
    Decidable (Charged now name exchange) := inferInstanceAs (Decidable (_ ∨ _))

/-- How often requests are held against a name inside the window. -/
def chargesOf (now : Datetime) (name : Str) (history : List Exchange) : Nat :=
  history.countP (fun exchange => ChargedByService now name exchange) +
    history.countP fun exchange => ChargedByGateway now name exchange

/-- A name charged three times is charged by three requests, all of one
principal, and none of them charges a second such name. -/
def NamesApart (now : Datetime) (history : List Exchange) : Prop :=
  ∀ name, 3 ≤ chargesOf now name history →
    3 ≤ history.countP (fun exchange => Charged now name exchange) ∧
      (∃ principal, ∀ exchange ∈ history, Charged now name exchange →
        exchange.principal = principal) ∧
      ∀ other, other ≠ name → 3 ≤ chargesOf now other history →
        ∀ exchange ∈ history, Charged now name exchange → ¬ Charged now other exchange

/-! ### The signals behind the names -/

/-- Every exchange leaves at most one signal, under the one name its client bears. -/
def OnceNamed (caller : ClientRequest → Str) (signals : Exchange → List Signal) : Prop :=
  ∀ exchange, signals exchange = [] ∨
    ∃ instant, signals exchange = [(caller exchange.client, instant)]

theorem onceNamed_refusals : OnceNamed Exchange.recordedCaller Exchange.refusals := by
  have once (client : ClientRequest) (answer : Nat) (stamps : Stamps) :
      serviceRefusals client answer stamps = [] ∨
        ∃ instant, serviceRefusals client answer stamps =
          [(Exchange.recordedCaller client, instant)] := by
    unfold serviceRefusals
    split
    · exact .inr ⟨_, rfl⟩
    · exact .inl rfl
  intro exchange
  unfold Exchange.refusals Exchange.signals
  cases exchange.outcome with
  | silent => exact .inl rfl
  | handled recorded handling logged =>
      cases handling with
      | turnedAway status => exact .inl rfl
      | failedLogin username reason report stamps => exact once exchange.client 401 stamps
      | incident host lookups reports answer stamps => exact once exchange.client answer.code stamps
      | served service reports answer stamps => exact once exchange.client answer.code stamps

theorem onceNamed_gatewayRefusals :
    OnceNamed Exchange.gatewayCaller Exchange.gatewayRefusals := by
  intro exchange
  unfold Exchange.gatewayRefusals Exchange.signals
  cases exchange.outcome with
  | silent => exact .inl rfl
  | handled recorded handling logged =>
      dsimp only
      split
      · exact .inr ⟨_, rfl⟩
      · exact .inl rfl

section OnceNamed

variable {caller : ClientRequest → Str} {signals : Exchange → List Signal} {now : Datetime}
  {name : Str}

/-- A signal of the exchange counts for a name exactly when it is in time and the client
bears the name. -/
theorem exists_counts_iff (once : OnceNamed caller signals) (exchange : Exchange) :
    (∃ signal ∈ signals exchange,
        Signal.Counts UnauthorisedAccess.detectionWindow now name signal) ↔
      Refused now (signals exchange) ∧ caller exchange.client = name := by
  unfold Refused
  rcases once exchange with none | ⟨instant, one⟩
  · simp [none]
  · simp only [one, List.mem_singleton, exists_eq_left, Signal.Counts, Within]
    exact and_comm

/-- A history holds a name as often as it has exchanges that do. -/
theorem tallied_eq_countP (once : OnceNamed caller signals) {charged : Exchange → Prop}
    [DecidablePred charged]
    (charges : ∀ exchange,
      charged exchange ↔ Refused now (signals exchange) ∧ caller exchange.client = name)
    (history : List Exchange) :
    tallied signals UnauthorisedAccess.detectionWindow now name history =
      history.countP fun exchange => charged exchange := by
  have single (exchange : Exchange) :
      Signal.tally UnauthorisedAccess.detectionWindow now name (signals exchange) =
        if charged exchange then 1 else 0 := by
    have counts : (∃ signal ∈ signals exchange,
        Signal.Counts UnauthorisedAccess.detectionWindow now name signal) ↔ charged exchange :=
      (exists_counts_iff once exchange).trans (charges exchange).symm
    rcases once exchange with none | ⟨instant, one⟩
    · rw [none] at counts ⊢
      rw [if_neg fun held => by simpa using counts.mpr held]
      rfl
    · rw [one] at counts ⊢
      simp only [List.mem_singleton, exists_eq_left] at counts
      simp only [Signal.tally, List.countP_singleton, decide_eq_true_eq, counts]
  induction history with
  | nil => rfl
  | cons exchange history ih =>
      rw [tallied, List.flatMap_cons, Signal.tally_append, single, List.countP_cons,
        ← tallied, ih, Nat.add_comm]
      simp only [decide_eq_true_eq]

end OnceNamed

theorem chargedByService_iff {now : Datetime} {name : Str} {exchange : Exchange} :
    ChargedByService now name exchange ↔
      Refused now exchange.refusals ∧ Exchange.recordedCaller exchange.client = name :=
  and_congr_right fun _ => namedByService_iff

theorem chargedByGateway_iff {now : Datetime} {name : Str} {exchange : Exchange} :
    ChargedByGateway now name exchange ↔
      Refused now exchange.gatewayRefusals ∧ Exchange.gatewayCaller exchange.client = name :=
  and_congr_right fun _ => namedByGateway_iff

/-- The charges are what the rule's threshold counts. -/
theorem chargesOf_eq (now : Datetime) (name : Str) (history : List Exchange) :
    chargesOf now name history =
      tallied Exchange.refusals UnauthorisedAccess.detectionWindow now name history +
        tallied Exchange.gatewayRefusals UnauthorisedAccess.detectionWindow now name history := by
  rw [chargesOf, tallied_eq_countP onceNamed_refusals fun _ => chargedByService_iff,
    tallied_eq_countP onceNamed_gatewayRefusals fun _ => chargedByGateway_iff]

theorem charged_iff {now : Datetime} {name : Str} {exchange : Exchange} :
    Charged now name exchange ↔
      ∃ signal ∈ exchange.refusals ++ exchange.gatewayRefusals,
        Signal.Counts UnauthorisedAccess.detectionWindow now name signal := by
  rw [Charged, chargedByService_iff, chargedByGateway_iff, ← exists_counts_iff onceNamed_refusals,
    ← exists_counts_iff onceNamed_gatewayRefusals]
  simp only [List.mem_append, or_and_right, exists_or]

/-! ### Tokens of several users -/

/-- Two users whose tokens the gateway passed on a refusal of are pooled under the
consumer, once it is charged three times. -/
theorem not_namesApart_of_tokens {now : Datetime} {history : List Exchange}
    (many : 3 ≤ chargesOf now consumerName history) {first second : Exchange}
    (hfirst : first ∈ history) (hsecond : second ∈ history)
    (refused : Refused now first.gatewayRefusals) (refused' : Refused now second.gatewayRefusals)
    {user other : Str} (token : first.client.token = some user)
    (token' : second.client.token = some other) (apart : user ≠ other) :
    ¬ NamesApart now history := by
  intro namesApart
  obtain ⟨-, ⟨principal, same⟩, -⟩ := namesApart consumerName many
  have one := same first hfirst (.inr ⟨refused, .token token⟩)
  have two := same second hsecond (.inr ⟨refused', .token token'⟩)
  have users : Principal.user user = Principal.user other := by
    rw [Exchange.principal, token] at one
    rw [Exchange.principal, token'] at two
    exact one.trans two.symm
  exact apart (Principal.user.inj users)

section Charged

variable [UnicodeDb]

/-- Evidence of an exchange is a charge. -/
theorem restsOn_iff_charged (now : Datetime) (caller : Str) (exchange : Exchange) :
    RestsOn now caller exchange ↔ Charged now caller exchange := by
  have watched (event : SecurityEvent) :
      (Windowed UnauthorisedAccess.detectionWindow now event ∧
        (Subject.refused caller).watches event = true) ↔
      ∃ signal, Signal.ofRefusal event = some signal ∧
        Signal.Counts UnauthorisedAccess.detectionWindow now caller signal := by
    unfold Subject.watches Signal.ofRefusal
    cases refusal : UnauthorisedAccess.isRefusal event <;>
      simp [refusal, Signal.Counts, Windowed, and_comm]
  rw [charged_iff, ← exchange.filterMap_ofRefusal]
  unfold RestsOn
  constructor
  · rintro ⟨event, hevent, counted⟩
    obtain ⟨signal, hsignal, counts⟩ := (watched event).mp counted
    exact ⟨signal, List.mem_filterMap.mpr ⟨event, hevent, hsignal⟩, counts⟩
  · rintro ⟨signal, hsignal, counts⟩
    obtain ⟨event, hevent, hsignal⟩ := List.mem_filterMap.mp hsignal
    exact ⟨event, hevent, (watched event).mpr ⟨signal, hsignal, counts⟩⟩

variable {stream : EventStore} {history : List Exchange}

/-- A caller is reported exactly when it is charged three times. -/
theorem reported_iff_charges (streams : Streams stream history) (now : Datetime) (caller : Str) :
    (Subject.refused caller).ReportedBy UnauthorisedAccess.evaluate stream now ↔
      WindowFits UnauthorisedAccess.detectionWindow now ∧ 3 ≤ chargesOf now caller history := by
  rw [reported_refused_iff (readable_of_streams streams), over_refused_iff streams, chargesOf_eq]

/-- The alerts of the rule keep requests and principals apart exactly while the
names they are held against do. -/
theorem alertsApart_iff (streams : Streams stream history) (now : Datetime) :
    AlertsApart stream now history ↔
      (WindowFits UnauthorisedAccess.detectionWindow now → NamesApart now history) := by
  have reported := reported_iff_charges streams now
  have rests := restsOn_iff_charged now
  simp only [AlertsApart, NamesApart, reported, rests]
  constructor
  · intro apart fits name charged
    obtain ⟨distinct, principal, others⟩ := apart name ⟨fits, charged⟩
    exact ⟨distinct, principal, fun other hother hcharged => others other hother ⟨fits, hcharged⟩⟩
  · rintro apart caller ⟨fits, charged⟩
    obtain ⟨distinct, principal, others⟩ := apart fits caller charged
    exact ⟨distinct, principal, fun other hother hreported => others other hother hreported.2⟩

end Charged

/-! ## Three users, one alert -/

/-- An analyst is refused the user administration. -/
def refusedAnalyst (n : Fin 60) (user : Str) (peer : Address) : Exchange where
  client :=
    { method := "GET"
      path := "/api/v1/auth/users"
      peer := peer
      token := some user
      userIdHeader := none
      forwardedFor := none
      correlationId := "corr-000000000001" }
  sent := (tick n).clock.time
  gateway := kong
  outcome :=
    .handled
      { method := get_permitted
        path := not_blank_lit (by decide +kernel)
        correlation := lit_correlation_visible
        tracked := show lit "/api/v1/auth/users" ∉ untrackedPaths by decide }
      (.served .auth [] (.status 403 (by decide)) ⟨tick n, tick n, tick n⟩)
      (tick n)

/-- Three analysts at three addresses, each refused once. -/
def threeAnalysts : List Exchange :=
  [refusedAnalyst 1 "ada" attacker,
    refusedAnalyst 2 "grace" (address "203.0.113.10" (by decide +kernel) (by decide +kernel)),
    refusedAnalyst 3 "mary" (address "203.0.113.11" (by decide +kernel) (by decide +kernel))]

theorem pooled_threeAnalysts :
    3 ≤ chargesOf (tick 10).clock.time consumerName threeAnalysts ∧
      ∀ exchange ∈ threeAnalysts, Refused (tick 10).clock.time exchange.gatewayRefusals ∧
        Charged (tick 10).clock.time consumerName exchange := by
  decide +kernel

theorem not_namesApart_threeAnalysts : ¬ NamesApart (tick 10).clock.time threeAnalysts := by
  obtain ⟨charged, every⟩ := pooled_threeAnalysts
  have second : refusedAnalyst 2 "grace"
      (address "203.0.113.10" (by decide +kernel) (by decide +kernel)) ∈ threeAnalysts :=
    List.mem_cons_of_mem _ List.mem_cons_self
  have users : lit "ada" ≠ lit "grace" := by decide
  exact not_namesApart_of_tokens charged List.mem_cons_self second
    (every _ List.mem_cons_self).1 (every _ second).1 rfl rfl users

/-- Three users' refusals are pooled into one alert. -/
theorem threeAnalysts_pooled : letI : UnicodeDb := ⟨fun _ => true⟩
    ¬ ∀ (stream : EventStore) (history : List Exchange) (now : Datetime),
      Streams stream history → AlertsApart stream now history := by
  let _ : UnicodeDb := ⟨fun _ => true⟩
  intro apart
  have streams : Streams ⟨threeAnalysts.flatMap Exchange.events⟩ threeAnalysts := List.Perm.refl _
  have reported := (reported_iff_charges streams (tick 10).clock.time consumerName).mpr
    ⟨fits_tick, pooled_threeAnalysts.1⟩
  obtain ⟨-, ⟨principal, same⟩, -⟩ := apart _ _ _ streams consumerName reported
  have one (exchange : Exchange) (hexchange : exchange ∈ threeAnalysts) :
      exchange.principal = principal :=
    same exchange hexchange
      ((restsOn_iff_charged _ _ _).mpr (pooled_threeAnalysts.2 exchange hexchange).2)
  have equal : Principal.user "ada" = Principal.user "grace" :=
    (one _ List.mem_cons_self).trans
      (one _ (List.mem_cons_of_mem _ List.mem_cons_self)).symm
  exact absurd equal (by decide)

/-- The three analysts again: their alerts are not kept apart. -/
theorem alertsApart_iff_threeAnalysts : letI : UnicodeDb := ⟨fun _ => true⟩
    ¬ AlertsApart ⟨threeAnalysts.flatMap Exchange.events⟩ (tick 10).clock.time threeAnalysts := by
  let _ : UnicodeDb := ⟨fun _ => true⟩
  intro apart
  have streams : Streams ⟨threeAnalysts.flatMap Exchange.events⟩ threeAnalysts := List.Perm.refl _
  exact not_namesApart_threeAnalysts ((alertsApart_iff streams _).mp apart fits_tick)

end SentinelIR.Platform
