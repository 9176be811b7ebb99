/-
# What Rule 4 counts

Rule 4 is to count failed requests. It counts events, and a request can leave several:
asset-service reports every attempt it fails, incident-service the call that failed
after all attempts and its own server error, and all of these carry the request's
correlation id. The count is that of requests where each leaves at most one event for
a service.
-/

import SentinelIR.Rules.ServiceFailure
import SentinelIR.Services.IncidentRouter

namespace SentinelIR.Services.FailureCounts

open SentinelIR.Py SentinelIR.Common SentinelIR.Alerts SentinelIR.Collector SentinelIR.Services
  SentinelIR.Services.IncidentRouter SecurityEventMiddleware
  SentinelIR.Rules SentinelIR.Rules.ServiceFailure

/-! ## The counted events of a request -/

/-- The event is one Rule 4 counts. -/
def isFailure (body : EventBody) : Bool := failureEventTypes.contains body.eventType

/-- The counted events among some events. -/
def counted (bodies : List EventBody) : List EventBody := bodies.filter isFailure

theorem counted_append (first second : List EventBody) :
    counted (first ++ second) = counted first ++ counted second := List.filter_append ..

theorem counted_emit {fields : EventFields}
    (quiet : failureEventTypes.contains fields.eventType = false) :
    counted (Traced.emit fields).emitted = [] := by
  apply List.filter_eq_nil_iff.mpr
  intro event hevent fails
  rw [isFailure, Traced.eventType_of_mem_emit hevent, quiet] at fails
  cases fails

section Middleware

variable {ρ : Type} {statusOf : ρ → Nat} {serviceName : ServiceName} {request : Request}
  {correlationId : Str} {next : Traced ρ}

/-- The rest of the application fails: with an exception, or with a server error. -/
def FailsWith (statusOf : ρ → Nat) (next : Traced ρ) : Prop :=
  ∀ response, next.result = .ok response → 500 ≤ statusOf response

/-- At most one event of the service under the id. -/
def AtMostOne (serviceName : ServiceName) (correlationId : Str) (bodies : List EventBody) : Prop :=
  bodies.length ≤ 1 ∧ ∀ event ∈ bodies, event.serviceName = serviceName ∧
    event.correlationId = correlationId

theorem atMostOne_nil : AtMostOne serviceName correlationId [] :=
  ⟨Nat.zero_le 1, by rintro event ⟨⟩⟩

theorem atMostOne_emit (fields : EventFields) (mine : fields.serviceName = serviceName)
    (stamped : fields.correlationId = correlationId) :
    AtMostOne serviceName correlationId (counted (Traced.emit fields).emitted) := by
  by_cases valid : fields.normalised.Valid
  · rw [Traced.emit_of_normalised valid]
    refine ⟨List.length_filter_le .., fun event hevent => ?_⟩
    obtain rfl := List.mem_singleton.mp (List.mem_of_mem_filter hevent)
    exact ⟨mine, stamped⟩
  · rw [Traced.emit_of_invalid valid]
    exact atMostOne_nil

theorem emitted_bind_sublist {α : Type} (first : Traced Unit) (second : Unit → Traced α) :
    (Traced.bind first second).emitted.Sublist (first.emitted ++ (second ()).emitted) := by
  rw [Traced.bind]
  split
  · exact .refl _
  · exact List.sublist_append_left ..

/-- What follows the application, up to events that are not counted. -/
theorem counted_bind_sublist {α : Type} (first : Traced Unit) {second : Unit → Traced α}
    {bodies : List EventBody} (later : (counted (second ()).emitted).Sublist bodies) :
    (counted (Traced.bind first second).emitted).Sublist (counted first.emitted ++ bodies) := by
  apply ((emitted_bind_sublist first second).filter _).trans
  rw [List.filter_append]
  exact List.Sublist.append_left later _

/-- The middleware adds at most one counted event, and none to a request that is
served. -/
theorem counted_dispatchWith (statusOf : ρ → Nat) (serviceName : ServiceName) (request : Request)
    (correlationId : Str) (next : Traced ρ) :
    ∃ own, (counted (dispatchWith statusOf serviceName request correlationId next).emitted).Sublist
        (counted next.emitted ++ own) ∧ AtMostOne serviceName correlationId own ∧
          (own ≠ [] → FailsWith statusOf next) := by
  have quiet (fields : EventFields) (foreign : failureEventTypes.contains fields.eventType = false)
      {bodies : List EventBody} {α : Type} {second : Unit → Traced α}
      (later : (counted (second ()).emitted).Sublist bodies) :
      (counted (Traced.bind (Traced.emit fields) second).emitted).Sublist bodies := by
    have step := counted_bind_sublist (Traced.emit fields) later
    rwa [counted_emit foreign, List.nil_append] at step
  rw [dispatchWith]
  split
  · refine ⟨[], ?_, atMostOne_nil, fun own => absurd rfl own⟩
    rw [List.append_nil]
  cases hnext : next.result with
  | error raised =>
      refine ⟨counted (Traced.emit (unhandled serviceName request correlationId)).emitted, ?_,
        atMostOne_emit _ rfl rfl, fun _ response answered => ?_⟩
      · refine quiet _ rfl (counted_bind_sublist _ ?_)
        have closed : (counted (Traced.raise raised : Traced ρ).emitted).Sublist [] := .refl _
        exact (counted_bind_sublist _ closed).trans (by rw [List.append_nil])
      · rw [hnext] at answered
        cases answered
  | ok response =>
      by_cases failing : 500 ≤ statusOf response
      · refine ⟨counted (Traced.emit (answeredError serviceName request correlationId
            (statusOf response))).emitted, ?_, atMostOne_emit _ rfl rfl, fun _ other answered => ?_⟩
        · refine quiet _ rfl (counted_bind_sublist _ ?_)
          dsimp only
          rw [if_pos failing]
          have closed : (counted (Traced.bind (Traced.emit (completed serviceName request
              correlationId (statusOf response))) fun _ => Traced.pure response).emitted).Sublist
                [] := quiet _ rfl (.refl _)
          exact (counted_bind_sublist _ closed).trans (by rw [List.append_nil])
        · obtain rfl := Except.ok.inj (hnext.symm.trans answered)
          exact failing
      · refine ⟨[], quiet _ rfl (counted_bind_sublist _ ?_), atMostOne_nil,
          fun own => absurd rfl own⟩
        dsimp only
        rw [if_neg failing]
        exact quiet _ rfl (.refl _)

end Middleware

theorem AtMostOne.sublist {serviceName : ServiceName} {correlationId : Str}
    {bodies others : List EventBody} (single : AtMostOne serviceName correlationId others)
    (within : bodies.Sublist others) : AtMostOne serviceName correlationId bodies :=
  ⟨within.length_le.trans single.1, fun event hevent => single.2 event (within.subset hevent)⟩

/-- Of several requests only one leaves an event. -/
theorem atMostOne_flatMap {serviceName : ServiceName} {correlationId : Str} {indices : List Nat}
    {left : Nat → List EventBody} (distinct : indices.Nodup)
    (single : ∀ n ∈ indices, AtMostOne serviceName correlationId (left n))
    (alone : ∀ m ∈ indices, ∀ n ∈ indices, left m ≠ [] → left n ≠ [] → m = n) :
    AtMostOne serviceName correlationId (indices.flatMap left) := by
  induction indices with
  | nil => exact atMostOne_nil
  | cons first rest ih =>
      obtain ⟨absent, distinct⟩ := List.nodup_cons.mp distinct
      rw [List.flatMap_cons]
      by_cases empty : left first = []
      · rw [empty, List.nil_append]
        exact ih distinct (fun n hn => single n (List.mem_cons_of_mem first hn))
          fun m hm n hn => alone m (List.mem_cons_of_mem first hm) n (List.mem_cons_of_mem first hn)
      · have others : rest.flatMap left = [] := by
          apply List.flatMap_eq_nil_iff.mpr
          intro n hn
          by_contra more
          have same := alone first List.mem_cons_self n (List.mem_cons_of_mem first hn) empty more
          exact absent (same ▸ hn)
        rw [others, List.append_nil]
        exact single first List.mem_cons_self

/-! ## The two services -/

/-- A route that writes none of the counted events itself. -/
def Calm (handling : Handling) : Prop :=
  ∀ fields, .event fields ∈ handling.emissions →
    failureEventTypes.contains fields.eventType = false

theorem counted_write {context : Str} {emissions : List Emission}
    (calm : ∀ fields, .event fields ∈ emissions →
      failureEventTypes.contains fields.eventType = false) :
    counted (write context emissions).1.emitted = [] := by
  induction emissions with
  | nil => rfl
  | cons emission rest ih =>
      have later := ih fun fields hfields => calm fields (List.mem_cons_of_mem emission hfields)
      cases emission with
      | log level message => exact later
      | event fields =>
          have quiet := calm fields List.mem_cons_self
          rw [write]
          split
          · rfl
          · next body built =>
              have same : body.eventType = fields.eventType := by
                rw [buildEvent] at built
                split at built
                · obtain rfl := Except.ok.inj built
                  rfl
                · cases built
              rw [counted, List.filter_cons, isFailure, same, quiet]
              exact later

theorem counted_application {context : Str} {request : Request} {handling : Handling}
    (calm : Calm handling) : counted (application context request handling).1.emitted = [] := by
  have written : counted (write context handling.emissions).1.emitted = [] := counted_write calm
  unfold application
  dsimp only
  split <;> exact written

/-- The counted events of a request whose route is calm. -/
theorem counted_serve (serviceName : ServiceName) (describe : Exc → Str) (request : Request)
    (header : Option Str) (minted : Str) {handling : Handling} (calm : Calm handling) :
    AtMostOne serviceName (boundId header minted)
        (counted (serve serviceName describe request header minted handling).events) ∧
      (counted (serve serviceName describe request header minted handling).events ≠ [] →
        FailsWith (·.status) (application (boundId header minted) request handling).1) := by
  obtain ⟨own, within, single, fails⟩ := counted_dispatchWith (·.status) serviceName request
    (boundId header minted) (application (boundId header minted) request handling).1
  rw [counted_application calm, List.nil_append, ← serve_events serviceName describe] at within
  refine ⟨single.sublist within, fun some => fails ?_⟩
  rintro rfl
  exact some (List.sublist_nil.mp within)

/-- One attempt of the client to look an asset up: what the route of asset-service does
if the request reaches it, and whether the answer gets back. -/
structure Attempt where
  peer : Option Str
  minted : Str
  reached : Option {handling : Handling // Calm handling}
  lost : Option Str
  body : Option Json

namespace Attempt

variable (attempt : Attempt) (describe : Exc → Str) (assetId : Int) (correlationId : Str)

/-- The request asset-service receives. -/
def request : Request where
  method := "GET"
  path := "/api/v1/assets/" ++ decimalInt assetId
  peer := attempt.peer

/-- What asset-service makes of the attempt. The client passes its id on. -/
def served : Option Served :=
  attempt.reached.map fun handling =>
    serve .asset describe (attempt.request assetId) (some correlationId) attempt.minted handling

/-- What the attempt is to the client. -/
def response : Response Json :=
  match attempt.lost with
  | some reason => .failed reason
  | none =>
      match attempt.served describe assetId correlationId with
      | some served => .answered served.response.status attempt.body
      | none => .failed "All connection attempts failed"

/-- The events the attempt leaves in asset-service. -/
def events : List EventBody :=
  match attempt.served describe assetId correlationId with
  | some served => served.events
  | none => []

/-- The route of asset-service fails the attempt. -/
def Failing : Prop :=
  ∃ handling, attempt.reached = some handling ∧
    FailsWith (·.status) (application correlationId (attempt.request assetId) handling.1).1

end Attempt

/-- What the lookup of a request meets, attempt by attempt. -/
structure Lookups where
  wasOpen : Bool
  start : Micros
  stop : Micros
  attempts : Nat → Attempt

/-- The lookup as the client sees it. -/
def Lookups.seen (lookups : Lookups) (describe : Exc → Str) (assetId : Int) (correlationId : Str) :
    Lookup where
  wasOpen := lookups.wasOpen
  start := lookups.start
  stop := lookups.stop
  responses n := (lookups.attempts n).response describe assetId correlationId

/-- The asset a request names. -/
def assetOf (request : CreateRequest) : Int :=
  match request.body with
  | .ok payload => payload.assetId
  | .error _ => 0

/-- A client request to incident-service. A creation finds the breaker and the table as
the other requests left them. -/
inductive ClientRequest
  | create (breaker : Breaker) (rows : Incidents) (request : CreateRequest) (lookups : Lookups)
      (commit : RowCommit Int)
  | other (request : Request) (header : Option Str) (minted : Str) (handling : Handling)
      (calm : Calm handling)

namespace ClientRequest

/-- The id bound to the request. -/
def correlationId : ClientRequest → Str
  | create _ _ request _ _ => request.correlationId
  | other _ header minted _ _ => boundId header minted

/-- The events of asset-service for a creation: those of each attempt the client makes. -/
def assetEvents (around : Surroundings) (breaker : Breaker) (request : CreateRequest)
    (lookups : Lookups) : List EventBody :=
  if visible : ¬ Blank request.correlationId then
    match request.body with
    | .ok payload =>
        let got := fetch around breaker payload.assetId
          (lookups.seen around.describe payload.assetId request.correlationId) ⟨_, visible⟩
        (List.range got.attempts).flatMap fun n =>
          (lookups.attempts n).events around.describe payload.assetId request.correlationId
    | .error _ => []
  else []

/-- The events a request leaves in both services. -/
def events [UnicodeDb] (around : Surroundings) : ClientRequest → List EventBody
  | create breaker rows request lookups commit =>
      assetEvents around breaker request lookups ++
        (post around breaker rows request
          (lookups.seen around.describe (assetOf request) request.correlationId)
          commit).served.events
  | other request header minted handling _ =>
      (serve .incident around.describe request header minted handling).events

/-- A request leaves at most one counted event for each service: asset-service fails at
most one of the attempts, and a creation whose lookup degrades is stored and read back. -/
def Single (around : Surroundings) : ClientRequest → Prop
  | create breaker rows request lookups commit =>
      let seen := lookups.seen around.describe (assetOf request) request.correlationId
      (∀ m < around.client.maxAttempts, ∀ n < around.client.maxAttempts,
        (lookups.attempts m).Failing (assetOf request) request.correlationId →
          (lookups.attempts n).Failing (assetOf request) request.correlationId → m = n) ∧
      (breaker.Blocks around.client.breaker lookups.start ∨
          (∀ n < around.client.maxAttempts, (seen.responses n).Transient) →
        ∃ id, commit = .taken id true ∧ id ∉ rows.keys)
  | other _ _ _ _ _ => True

end ClientRequest

/-! ## One request -/

theorem counted_attempt {attempt : Attempt} {describe : Exc → Str} {assetId : Int}
    {correlationId : Str} (visible : ¬ Blank correlationId) :
    AtMostOne .asset correlationId (counted (attempt.events describe assetId correlationId)) ∧
      (counted (attempt.events describe assetId correlationId) ≠ [] →
        attempt.Failing assetId correlationId) := by
  have bound (minted : Str) : boundId (some correlationId) minted = correlationId := by
    cases correlationId with
    | nil => exact absurd (show Blank [] from rfl) visible
    | cons c rest => rfl
  unfold Attempt.events Attempt.served
  cases reached : attempt.reached with
  | none => exact ⟨atMostOne_nil, fun some => absurd rfl some⟩
  | some handling =>
      obtain ⟨single, fails⟩ := counted_serve .asset describe (attempt.request assetId)
        (some correlationId) attempt.minted handling.2
      rw [bound] at single fails
      exact ⟨single, fun some => ⟨handling, reached, fails some⟩⟩

/-- A call makes no more attempts than it may. -/
theorem attempts_le {client : ResilientClient} {breaker : Breaker} {wasOpen : Bool}
    {call : Call Json} : (client.get breaker wasOpen call).attempts ≤ client.maxAttempts := by
  by_cases blocks : breaker.Blocks client.breaker call.start
  · rw [(ResilientClient.get_of_blocks wasOpen blocks).2.1]
    exact Nat.zero_le _
  · obtain ⟨last, tried, allowed, -⟩ := ResilientClient.exists_last client call
    rw [(ResilientClient.get_of_free wasOpen call blocks).1, tried]
    exact allowed

theorem counted_assetEvents {around : Surroundings} (breaker : Breaker) {request : CreateRequest}
    {lookups : Lookups}
    (once : ∀ m < around.client.maxAttempts, ∀ n < around.client.maxAttempts,
      (lookups.attempts m).Failing (assetOf request) request.correlationId →
        (lookups.attempts n).Failing (assetOf request) request.correlationId → m = n) :
    AtMostOne .asset request.correlationId
      (counted (ClientRequest.assetEvents around breaker request lookups)) := by
  unfold ClientRequest.assetEvents
  split
  case isFalse => exact atMostOne_nil
  case isTrue visible =>
      cases taken : request.body with
      | error refusal => exact atMostOne_nil
      | ok payload =>
          have same : assetOf request = payload.assetId := by rw [assetOf, taken]
          rw [same] at once
          dsimp only
          rw [counted, List.filter_flatMap]
          refine atMostOne_flatMap List.nodup_range (fun n _ => (counted_attempt visible).1) ?_
          intro m hm n hn left right
          refine once m ?_ n ?_ ((counted_attempt visible).2 left)
            ((counted_attempt visible).2 right)
          · exact (List.mem_range.mp hm).trans_le attempts_le
          · exact (List.mem_range.mp hn).trans_le attempts_le

/-- The lookup degrades: the breaker blocks it, or every attempt fails. -/
def Degrades (client : ResilientClient) (breaker : Breaker) (lookup : Lookup) : Prop :=
  breaker.Blocks client.breaker lookup.start ∨
    ∀ n < client.maxAttempts, (lookup.responses n).Transient

section Client

variable {client : ResilientClient} {breaker : Breaker} {wasOpen : Bool} {call : Call Json}

/-- Of the events of a call, the counted ones are its failures. -/
theorem counted_get : counted (client.get breaker wasOpen call).events =
    ResilientClient.failures (client.get breaker wasOpen call).events := by
  apply List.filter_congr
  intro event hevent
  rcases ResilientClient.event_cases wasOpen hevent with ⟨change, rfl⟩ | ⟨reason, rfl⟩
  · cases change <;> rfl
  · rfl

/-- A call reports at most one failure, and none when it is settled. -/
theorem failures_get :
    (ResilientClient.failures (client.get breaker wasOpen call).events).length ≤ 1 ∧
      (ResilientClient.failures (client.get breaker wasOpen call).events ≠ [] →
        breaker.Blocks client.breaker call.start ∨ client.Exhausts call) := by
  by_cases blocks : breaker.Blocks client.breaker call.start
  · refine ⟨?_, fun _ => .inl blocks⟩
    rw [(ResilientClient.get_of_blocks wasOpen blocks).2.2]
    apply (List.length_filter_le ..).trans
    split
    · exact Nat.zero_le 1
    · exact le_rfl
  by_cases exhausts : client.Exhausts call
  · refine ⟨?_, fun _ => .inr exhausts⟩
    by_cases below : breaker.state = .closed ∧ breaker.failCounter + 1 < client.breaker.failMax
    · obtain ⟨-, -, reason, same⟩ :=
        ResilientClient.get_of_counted wasOpen below.1 exhausts below.2
      rw [same]
      exact le_rfl
    · have opens := Breaker.opens_of_not_below below
      obtain ⟨-, -, reason, same⟩ := ResilientClient.get_of_opening wasOpen blocks exhausts opens
      rw [same]
      split
      · exact Nat.zero_le 1
      · exact le_rfl
  · have none := (ResilientClient.get_of_settled wasOpen blocks exhausts).2.2
    rw [none]
    exact ⟨Nat.zero_le 1, fun some => absurd rfl some⟩

end Client

/-- A creation with a usable asset and a fresh key returns its incident. -/
theorem create_of_fresh [UnicodeDb] {rows : Incidents} {payload : IncidentCreate}
    {asset : AssetSummary} {id : Int} (fresh : id ∉ rows.keys) (correlationId : CorrelationId) :
    ∃ incident, (IncidentService.create rows payload (.ok asset)
      (.taken id true) correlationId).1.result = .ok incident := by
  refine ⟨{ IncidentService.draft payload asset with id }, ?_⟩
  simp only [IncidentService.create, IncidentRepository.create, if_neg fresh, refreshed_true]
  rw [Traced.emit_of_valid (IncidentService.createdFields_valid _ correlationId.2)]
  rfl

/-- The counted events of a lookup are at most one, of incident-service. -/
theorem counted_fetch {around : Surroundings} {breaker : Breaker} {assetId : Int}
    {lookup : Lookup} {correlationId : CorrelationId} :
    AtMostOne .incident correlationId
      (counted (fetch around breaker assetId lookup correlationId).events) := by
  rw [fetch, counted_get]
  refine ⟨failures_get.1, fun event hevent => ?_⟩
  rcases ResilientClient.event_cases lookup.wasOpen (List.mem_of_mem_filter hevent) with
    ⟨change, rfl⟩ | ⟨reason, rfl⟩
  · cases change <;> exact ⟨around.named, rfl⟩
  · exact ⟨around.named, rfl⟩

/-- The route of a creation: its counted events are those of the lookup, and it does
not fail when the incident is stored. -/
theorem counted_route [UnicodeDb] (around : Surroundings) (breaker : Breaker) (rows : Incidents)
    (request : CreateRequest) (lookup : Lookup) (commit : RowCommit Int) (payload : IncidentCreate)
    (visible : ¬ Blank request.correlationId) :
    let route := (application request.correlationId request.toRequest
      (createIncident around breaker rows payload lookup commit ⟨_, visible⟩).1).1
    counted route.emitted =
        counted (fetch around breaker payload.assetId lookup ⟨_, visible⟩).events ∧
      ((∃ incident, (created around breaker rows request lookup commit payload
          visible).1.result = .ok incident) → ¬ FailsWith (·.status) route) := by
  intro route
  have raises {raised : Exc} {after : Incidents}
      (failed : created around breaker rows request lookup commit payload visible =
        (⟨.error raised, []⟩, after)) :
      counted route.emitted =
          counted (fetch around breaker payload.assetId lookup ⟨_, visible⟩).events ∧
        ((∃ incident, (created around breaker rows request lookup commit payload
            visible).1.result = .ok incident) → ¬ FailsWith (·.status) route) := by
    have handled : route = _ := (application_of_create around breaker rows request lookup commit
      visible (by rintro event ⟨⟩) failed).2
    refine ⟨by rw [handled, List.append_nil], ?_⟩
    rintro ⟨incident, returned⟩
    rw [failed] at returned
    cases returned
  rcases create_cases rows payload (AssetGateway.fetchAsset payload.assetId
      (fetch around breaker payload.assetId lookup ⟨_, visible⟩).result) commit
    ⟨_, visible⟩ with ⟨raised, failed⟩ | ⟨asset, id, -, -, -, failed⟩ | ⟨incident, -, stored⟩
  · exact raises failed
  · exact raises failed
  · have handled : route = _ := (application_of_create around breaker rows request lookup commit
      visible (List.forall_mem_singleton.mpr rfl) stored).2
    constructor
    · rw [handled, counted_append]
      exact List.append_nil _
    · intro _ fails
      have failed := fails _ (by rw [handled]; rfl)
      exact absurd (show 500 ≤ 201 from failed) (by decide)

/-- A creation leaves at most one counted event in incident-service when a degraded
lookup ends in a stored incident. -/
theorem counted_post [UnicodeDb] {around : Surroundings} (breaker : Breaker) (rows : Incidents)
    (request : CreateRequest) (lookup : Lookup) (commit : RowCommit Int)
    (stores : Degrades around.client breaker lookup →
      ∃ id, commit = .taken id true ∧ id ∉ rows.keys) :
    AtMostOne .incident request.correlationId
      (counted (post around breaker rows request lookup commit).served.events) := by
  by_cases visible : ¬ Blank request.correlationId
  · cases taken : request.body with
    | error refusal =>
        rw [post, dif_pos visible, taken]
        refine (counted_serve .incident around.describe request.toRequest request.correlationHeader
          request.minted ?_).1
        rintro fields ⟨⟩
    | ok payload =>
        let got := fetch around breaker payload.assetId lookup ⟨_, visible⟩
        let route := (application request.correlationId request.toRequest
          (createIncident around breaker rows payload lookup commit ⟨_, visible⟩).1).1
        obtain ⟨own, within, single, fails⟩ := counted_dispatchWith (·.status) .incident
          request.toRequest request.correlationId route
        rw [post_of_taken around breaker rows request lookup commit visible taken]
        dsimp only
        rw [serve_events]
        have parts := counted_route around breaker rows request lookup commit payload visible
        rw [show counted route.emitted = counted got.events from parts.1] at within
        by_cases degrades : breaker.Blocks around.client.breaker lookup.start ∨
            around.client.Exhausts (lookupCall payload.assetId ⟨_, visible⟩ lookup)
        · obtain ⟨id, rfl, fresh⟩ := stores (degrades.imp_right ResilientClient.exhausts_iff.mp)
          have fetched : got.result = .ok .fallback :=
            ResilientClient.get_of_degraded lookup.wasOpen rfl degrades
          have none : own = [] := by
            by_contra some
            refine parts.2 ?_ (fails some)
            rw [created, show (fetch around breaker payload.assetId lookup ⟨_, visible⟩).result =
              .ok .fallback from fetched]
            exact create_of_fresh fresh ⟨_, visible⟩
          rw [none, List.append_nil] at within
          exact counted_fetch.sublist within
        · have none : counted got.events = [] := by
            by_contra some
            have reported : ResilientClient.failures (around.client.get breaker lookup.wasOpen
                (lookupCall payload.assetId ⟨_, visible⟩ lookup)).events ≠ [] := by
              rw [← counted_get]
              exact some
            exact degrades (failures_get.2 reported)
          rw [none, List.nil_append] at within
          exact single.sublist within
  · have refused : ¬ request.toRequest.Accepted request.correlationId := fun accepted =>
      visible (request.accepted_iff.mp accepted)
    rw [post, dif_neg visible]
    dsimp only
    rw [serve_events]
    change AtMostOne _ _ (counted (dispatchWith _ _ _ request.correlationId _).emitted)
    rw [dispatchWith_of_refused request.tracked refused]
    exact atMostOne_nil

/-! ## The run -/

/-- What has to differ between two counted events: the service or the id. -/
def key (body : EventBody) : Str × Str := (body.serviceName.value, body.correlationId)

theorem nodup_key {serviceName : ServiceName} {correlationId : Str} {bodies : List EventBody}
    (single : AtMostOne serviceName correlationId bodies) : (bodies.map key).Nodup := by
  match bodies, single with
  | [], _ => exact List.nodup_nil
  | [event], _ => exact List.nodup_singleton _
  | _ :: _ :: _, ⟨few, _⟩ => exact absurd few (by simp)

/-- One request leaves no two counted events of a service. -/
theorem counted_events [UnicodeDb] {around : Surroundings} {request : ClientRequest}
    (single : request.Single around) :
    ((counted (request.events around)).map key).Nodup ∧
      ∀ event ∈ counted (request.events around), event.correlationId = request.correlationId := by
  cases request with
  | other request header minted handling calm =>
      have single := (counted_serve .incident around.describe request header minted calm).1
      exact ⟨nodup_key single, fun event hevent => (single.2 event hevent).2⟩
  | create breaker rows request lookups commit =>
      have asset := counted_assetEvents breaker single.1
      have incident := counted_post breaker rows request
        (lookups.seen around.describe (assetOf request) request.correlationId) commit single.2
      rw [ClientRequest.events, counted_append, List.map_append]
      constructor
      · refine List.nodup_append.mpr ⟨nodup_key asset, nodup_key incident, ?_⟩
        intro first hfirst second hsecond
        obtain ⟨left, hleft, rfl⟩ := List.mem_map.mp hfirst
        obtain ⟨right, hright, rfl⟩ := List.mem_map.mp hsecond
        intro same
        have services := congrArg Prod.fst same
        rw [key, key, (asset.2 left hleft).1, (incident.2 right hright).1] at services
        exact absurd (show ServiceName.asset.value = ServiceName.incident.value from services)
          (by decide)
      · intro event hevent
        rcases List.mem_append.mp hevent with left | right
        · exact (asset.2 event left).2
        · exact (incident.2 event right).2

/-- A run leaves no two counted events of a service under one id. -/
theorem nodup_run [UnicodeDb] {around : Surroundings} {requests : List ClientRequest}
    (single : ∀ request ∈ requests, request.Single around)
    (distinct : (requests.map ClientRequest.correlationId).Nodup) :
    ((counted (requests.flatMap (·.events around))).map key).Nodup := by
  rw [counted, List.filter_flatMap, List.map_flatMap, List.nodup_flatMap]
  refine ⟨fun request hrequest => (counted_events (single request hrequest)).1, ?_⟩
  have apart := List.pairwise_map.mp distinct
  refine apart.imp_of_mem fun {first second} hfirst hsecond other => ?_
  intro left hleft hright
  obtain ⟨event, hevent, rfl⟩ := List.mem_map.mp hleft
  obtain ⟨event', hevent', same⟩ := List.mem_map.mp hright
  apply other
  have ids := congrArg Prod.snd same
  rw [← (counted_events (single first hfirst)).2 event hevent,
    ← (counted_events (single second hsecond)).2 event' hevent']
  exact ids.symm

/-! ## The rule -/

/-- Where the rule fires on its count alone, the counted events it cites carry at least
the threshold of distinct correlation ids: of every service that fires, and so of every
alert it raises. -/
structure CountsRequests (store : EventStore) (now : Datetime) : Prop where
  counts : ∀ item ∈ failing (evidence (fun _ => true) detectionWindow now store.events),
    breakerOpened item.2 = false → healthFailed item.2 = false →
      failureThreshold ≤ ((failuresOf item.2).map (·.correlationId)).dedup.length
  cites : ∀ alerts, evaluate store now = .ok alerts → ∀ alert ∈ alerts,
    ∃ item ∈ failing (evidence (fun _ => true) detectionWindow now store.events),
      alert.affectedService = some item.1 ∧ alert.relatedEvents = item.2.map (·.eventId)

/-- An alert is about a service that fires, and cites its events. -/
theorem exists_failing_of_alert {store : EventStore} {now : Datetime} {alerts : List AlertBody}
    (raised : evaluate store now = .ok alerts) {alert : AlertBody} (halert : alert ∈ alerts) :
    ∃ item ∈ failing (evidence (fun _ => true) detectionWindow now store.events),
      alert.affectedService = some item.1 ∧ alert.relatedEvents = item.2.map (·.eventId) := by
  obtain ⟨windowed, recent, -⟩ := bind_eq_ok raised
  obtain ⟨fits, readable, -⟩ := recentEvents_eq_ok recent
  obtain ⟨bodies, hbodies, fields⟩ := evaluate_eq store fits readable
  obtain rfl := Except.ok.inj (raised.symm.trans hbodies)
  have member : alert.toAlertFields ∈ alerts.map (·.toAlertFields) := List.mem_map_of_mem halert
  rw [fields] at member
  obtain ⟨item, hitem, same⟩ := List.mem_map.mp member
  exact ⟨item, hitem, by rw [← same]; rfl, by rw [← same]; rfl⟩

/-- The counted events of a run that the rule cites for one service carry distinct
ids. -/
theorem nodup_failuresOf {bodies : List EventBody} {events : List SecurityEvent} {now : Datetime}
    (distinct : ((counted bodies).map key).Nodup)
    (stream : (events.map (·.toEventBody)).Subperm bodies) {service : Str} :
    ((failuresOf (((evidence (fun _ => true) detectionWindow now events).filter isSignal).filter
      fun event => event.serviceName.value = service)).map (·.correlationId)).Nodup := by
  let cited := failuresOf (((evidence (fun _ => true) detectionWindow now events).filter
    isSignal).filter fun event => event.serviceName.value = service)
  have within : cited.Subperm events := by
    have sub : cited.Sublist (chronological events) :=
      List.filter_sublist.trans (List.filter_sublist.trans
        (List.filter_sublist.trans List.filter_sublist))
    exact sub.subperm.trans (perm_sortedBy timeOf events).subperm
  have known : counted (cited.map (·.toEventBody)) = cited.map (·.toEventBody) := by
    apply List.filter_eq_self.mpr
    intro body hbody
    obtain ⟨event, hevent, rfl⟩ := List.mem_map.mp hbody
    exact (List.mem_filter.mp hevent).2
  have part : (cited.map (·.toEventBody)).Subperm (counted bodies) := by
    rw [← known]
    obtain ⟨ordered, same, sub⟩ := within
    have mapped : (cited.map (·.toEventBody)).Subperm (events.map (·.toEventBody)) :=
      ⟨ordered.map _, same.map _, sub.map _⟩
    exact (mapped.trans stream).filter _
  obtain ⟨ordered, same, sub⟩ := part
  have keys : ((cited.map (·.toEventBody)).map key).Nodup :=
    (same.map key).nodup_iff.mp ((sub.map key).nodup distinct)
  have paired : (cited.map (·.toEventBody)).map key =
      (cited.map (·.correlationId)).map fun id => (service, id) := by
    rw [List.map_map, List.map_map]
    apply List.map_congr_left
    intro event hevent
    have mine := (List.mem_filter.mp (List.mem_of_mem_filter hevent)).2
    exact Prod.ext (of_decide_eq_true mine) rfl
  rw [paired] at keys
  exact keys.of_map

/-- In a run where each request leaves at most one counted event for each service and
carries an id of its own, Rule 4 counts requests, at every moment and for any part of
the run that has been collected. -/
theorem counts_requests [UnicodeDb] (around : Surroundings) (requests : List ClientRequest)
    (single : ∀ request ∈ requests, request.Single around)
    (distinct : (requests.map ClientRequest.correlationId).Nodup) (events : List SecurityEvent)
    (stream : (events.map (·.toEventBody)).Subperm (requests.flatMap (·.events around)))
    (now : Datetime) : CountsRequests ⟨events⟩ now := by
  refine ⟨fun item hitem closed healthy => ?_, fun _ raised _ => exists_failing_of_alert raised⟩
  obtain ⟨cited, fired⟩ := mem_failing.mp hitem
  have ids : ((failuresOf item.2).map (·.correlationId)).Nodup := by
    rw [cited]
    exact nodup_failuresOf (nodup_run single distinct) stream
  rw [ids.dedup, List.length_map]
  rw [fires, closed, healthy] at fired
  simpa using fired

/-! ## Requests and attempts -/

/-- The services with the client's default thresholds. -/
def defaultSurroundings : Surroundings := ⟨ResilientClient.defaults, rfl, fun _ => [], fun _ => []⟩

/-- A moment at which the events of a short run are stamped and the rule is evaluated. -/
def moment : Clock := ⟨⟨2026, 1, 1, 0, 0, 0, 0, newYear_valid⟩, after_epoch⟩

/-- The events of a run, as they are collected. -/
def collect (bodies : List EventBody) : List SecurityEvent :=
  bodies.mapIdx fun n body => body.stamp ⟨n, moment⟩

theorem map_collect (bodies : List EventBody) :
    (collect bodies).map (·.toEventBody) = bodies := by
  apply List.ext_getElem (by simp [collect])
  intro n _ _
  simp [collect]

/-- An attempt that meets a closed port. -/
def refusedAttempt : Attempt where
  peer := none
  minted := []
  reached := none
  lost := none
  body := none

/-- A creation under an id of its own while asset-service is down. -/
def degradedCreation (correlationId : Str) : ClientRequest :=
  .create .fresh Dict.empty { raiseAgainstSeven with correlationHeader := some correlationId }
    ⟨false, 0, 0, fun _ => refusedAttempt⟩ (.taken 1 true)

/-- The route of asset-service crashes. -/
def crashingAttempt : Attempt where
  peer := some "172.18.0.4"
  minted := []
  reached := some ⟨⟨[], .unhandled .database⟩, by rintro fields ⟨⟩⟩
  lost := none
  body := none

/-- A creation each of whose attempts asset-service fails. -/
def failedCreation : ClientRequest :=
  .create .fresh Dict.empty raiseAgainstSeven ⟨false, 0, 0, fun _ => crashingAttempt⟩
    (.taken 1 true)

theorem single_degradedCreation (correlationId : Str) :
    (degradedCreation correlationId).Single defaultSurroundings := by
  refine ⟨?_, fun _ => ⟨1, rfl, List.not_mem_nil⟩⟩
  rintro m - n - ⟨handling, reached, -⟩
  cases reached

/-- Three requests that degrade are three failed requests. -/
theorem counts_requests_degraded : letI : UnicodeDb := ⟨fun _ => true⟩
    CountsRequests ⟨collect (([lit "corr-1", lit "corr-2", lit "corr-3"].map
      degradedCreation).flatMap (·.events defaultSurroundings))⟩ moment.time := by
  let _ : UnicodeDb := ⟨fun _ => true⟩
  refine counts_requests defaultSurroundings
    ([lit "corr-1", lit "corr-2", lit "corr-3"].map degradedCreation) ?_ (by decide +kernel) _
    ?_ moment.time
  · intro request hrequest
    obtain ⟨correlationId, -, rfl⟩ := List.mem_map.mp hrequest
    exact single_degradedCreation correlationId
  · rw [map_collect]

/-- The run of the one creation, as it is collected. -/
def failedRun [UnicodeDb] : List SecurityEvent :=
  collect ([failedCreation].flatMap (·.events defaultSurroundings))

theorem failedRun_reported : letI : UnicodeDb := ⟨fun _ => true⟩
    ∃ item ∈ failing (evidence (fun _ => true) detectionWindow moment.time failedRun),
      breakerOpened item.2 = false ∧ healthFailed item.2 = false ∧
        ¬ failureThreshold ≤ ((failuresOf item.2).map (·.correlationId)).dedup.length := by
  decide +kernel

theorem subperm_failedRun [UnicodeDb] : (failedRun.map (·.toEventBody)).Subperm
    ([failedCreation].flatMap (·.events defaultSurroundings)) := by
  rw [failedRun, map_collect]

theorem not_counts_failedRun : letI : UnicodeDb := ⟨fun _ => true⟩
    ¬ CountsRequests ⟨failedRun⟩ moment.time := by
  intro counts
  obtain ⟨item, hitem, closed, healthy, few⟩ := failedRun_reported
  exact few (counts.counts item hitem closed healthy)

/-- One request whose attempts asset-service fails is reported as three. -/
theorem attempts_counted : letI : UnicodeDb := ⟨fun _ => true⟩
    ¬ ∀ (around : Surroundings) (requests : List ClientRequest) (events : List SecurityEvent),
      (events.map (·.toEventBody)).Subperm (requests.flatMap (·.events around)) →
        ∀ now, CountsRequests ⟨events⟩ now := fun always =>
  not_counts_failedRun (always defaultSurroundings [failedCreation] (@failedRun ⟨fun _ => true⟩)
    (@subperm_failedRun ⟨fun _ => true⟩) moment.time)

end SentinelIR.Services.FailureCounts
