/-
# Raising an incident

`POST /api/v1/incidents` from the request to the response. The handler looks the
asset up through the client, stores the incident and reports it; the error handlers
turn what it raises into a response, and the middleware reports both ends. A client
error of asset-service is an exception that no handler claims. Where the stored row
cannot be read back the request fails as well, and the incident stays.
-/

import SentinelIR.Common.ClientOutcomes
import SentinelIR.Common.Service
import SentinelIR.Services.AssetGateway

namespace SentinelIR.Services.IncidentRouter

open SentinelIR.Py SentinelIR.Common SecurityEventMiddleware

/-! ## The route -/

/-- A request to raise an incident: the headers the middleware reads, and the body
or, where the framework refuses it, how the framework ends the request. -/
structure CreateRequest where
  userIdHeader : Option Str := none
  forwardedFor : Option Str := none
  peer : Option Str
  correlationHeader : Option Str := none
  minted : Str
  body : Except Ending IncidentCreate

namespace CreateRequest

/-- The request as the middleware sees it. -/
def toRequest (request : CreateRequest) : Request where
  method := "POST"
  path := incidentsEndpoint
  userIdHeader := request.userIdHeader
  forwardedFor := request.forwardedFor
  peer := request.peer

/-- The id bound to the request. -/
def correlationId (request : CreateRequest) : Str :=
  boundId request.correlationHeader request.minted

theorem tracked (request : CreateRequest) : request.toRequest.path ∉ untrackedPaths :=
  show lit "/api/v1/incidents" ∉ untrackedPaths by decide

theorem accepted_iff (request : CreateRequest) :
    request.toRequest.Accepted request.correlationId ↔ ¬ Blank request.correlationId := by
  refine ⟨fun accepted => accepted.correlation, fun visible => ⟨?_, ?_, visible⟩⟩
  · exact show upper (lit "POST") ∈ permittedMethods by decide +kernel
  · exact IncidentService.not_blank_incidentsEndpoint

end CreateRequest

/-- What the asset lookup of a request meets: the state the breaker was read in, when
it is called, when the attempts are done and what each of them ends with. -/
structure Lookup where
  wasOpen : Bool
  start : Micros
  stop : Micros
  responses : Nat → Response Json

/-- The call `fetch_asset` makes. -/
def lookupCall (assetId : Int) (correlationId : CorrelationId) (lookup : Lookup) :
    Call Json where
  path := "/api/v1/assets/" ++ decimalInt assetId
  correlationId := correlationId
  fallback := true
  ambient := correlationId
  start := lookup.start
  stop := lookup.stop
  responses := lookup.responses
  path_visible := not_blank_append_left (not_blank_lit (by decide +kernel))
  correlation_visible := correlationId.2
  ambient_visible := correlationId.2

/-- How the route ends on what the service returned or raised. -/
def ending (render : Incident → Str) : Except Exc Incident → Ending
  | .ok incident =>
      .response { status := 201, headers := Dict.empty, body := .rendered (render incident) }
  | .error (.sentinel error) => .typed error
  | .error raised => .unhandled raised

/-- What a request leaves: the response and the lines, the breaker and the table. -/
structure Posted where
  served : Served
  breaker : Breaker
  rows : Incidents

/-- What lies around the route: the client `_client_for` holds, and how an incident and
an exception are rendered. -/
structure Surroundings where
  client : ResilientClient
  named : client.serviceName = .incident
  render : Incident → Str
  describe : Exc → Str

section Route

variable (around : Surroundings) (breaker : Breaker) (rows : Incidents)

/-- What `fetch_asset` gets from the client. -/
def fetch (assetId : Int) (lookup : Lookup) (correlationId : CorrelationId) :
    ResilientClient.Got Json :=
  around.client.get breaker lookup.wasOpen (lookupCall assetId correlationId lookup)

variable [UnicodeDb]

/-- `create_incident`: the events of the handler and its end, the breaker and the
table it leaves. -/
def createIncident (payload : IncidentCreate) (lookup : Lookup) (commit : RowCommit Int)
    (correlationId : CorrelationId) : Handling × Breaker × Incidents :=
  let got := fetch around breaker payload.assetId lookup correlationId
  let outcome := IncidentService.create rows payload
    (AssetGateway.fetchAsset payload.assetId got.result) commit correlationId
  ({ emissions := (got.events ++ outcome.1.emitted).map fun event => .event event.toEventFields
     ending := ending around.render outcome.1.result },
    got.breaker, outcome.2)

/-- One request through the whole service. The route is called when the middleware
could report the arrival and the framework took the body. -/
def post (request : CreateRequest) (lookup : Lookup) (commit : RowCommit Int) : Posted :=
  let served := serve .incident around.describe request.toRequest request.correlationHeader
    request.minted
  if visible : ¬ Blank request.correlationId then
    match request.body with
    | .ok payload =>
        let (handling, after, table) :=
          createIncident around breaker rows payload lookup commit ⟨_, visible⟩
        ⟨served handling, after, table⟩
    | .error refusal => ⟨served ⟨[], refusal⟩, breaker, rows⟩
  else ⟨served ⟨[], .unhandled .validation⟩, breaker, rows⟩

end Route

/-! ## The two ways to end -/

/-- The events of a type among some events. -/
def ofType (eventType : EventType) (events : List EventBody) : List EventBody :=
  events.filter fun event => event.eventType == eventType

/-- asset-service answers the lookup of the request with a client error: the breaker
lets the call through, and after failures that are retried an attempt gets a 4xx. -/
structure Mistaken (client : ResilientClient) (breaker : Breaker) (request : CreateRequest)
    (lookup : Lookup) : Prop where
  visible : ¬ Blank request.correlationId
  taken : ∃ payload, request.body = .ok payload
  free : ¬ breaker.Blocks client.breaker lookup.start
  answer : ∃ n < client.maxAttempts, (∀ m < n, (lookup.responses m).Transient) ∧
    ∃ status body, lookup.responses n = .answered status body ∧ 400 ≤ status ∧ status ≤ 499

/-- The lookup of a request ends with a summary: the call degrades, or the first attempt
that is no transient failure gets an answer with the name of the asset. -/
def Summarised (client : ResilientClient) (breaker : Breaker) (lookup : Lookup) : Prop :=
  breaker.Blocks client.breaker lookup.start ∨
    (∀ n < client.maxAttempts, (lookup.responses n).Transient) ∨
      ∃ n < client.maxAttempts, (∀ m < n, (lookup.responses m).Transient) ∧
        ∃ status value name, lookup.responses n = .answered status (some value) ∧
          (200 ≤ status ∧ status ≤ 299) ∧ AssetGateway.Names value name

/-- The database stores the row of the request and does not read it back. -/
structure Unread (client : ResilientClient) (breaker : Breaker) (rows : Incidents)
    (request : CreateRequest) (lookup : Lookup) (commit : RowCommit Int) : Prop where
  visible : ¬ Blank request.correlationId
  taken : ∃ payload, request.body = .ok payload
  summarised : Summarised client breaker lookup
  stored : ∃ id, commit = .taken id false ∧ id ∉ rows.keys

/-- One incident is stored and reported, and the client is told so. -/
structure Raised (rows : Incidents) (posted : Posted) (incident : Incident) : Prop where
  fresh : incident.id ∉ rows.keys
  stored : posted.rows = rows.set incident.id incident
  reported : ∃ event, ofType .incidentCreated posted.served.events = [event] ∧
    event.affectedEntity = some ("incident-" ++ decimalInt incident.id)
  created : posted.served.response.status = 201

/-- Nothing is stored or reported as created, and a client error of asset-service is
one of this service as well. -/
structure Declined (rows : Incidents) (posted : Posted) (mistaken : Prop) : Prop where
  stored : posted.rows = rows
  reported : ofType .incidentCreated posted.served.events = []
  mistake : mistaken → (400 ≤ posted.served.response.status ∧
    posted.served.response.status ≤ 499) ∧ ofType .serviceError posted.served.events = []

/-! ## The handler -/

section Handler

variable [UnicodeDb] (rows : Incidents) (payload : IncidentCreate)
  (fetched : Except Exc AssetSummary) (commit : RowCommit Int)

/-- `create` raises and changes nothing, or stores a row that is not read back and reports
nothing, or stores one new row and reports it. -/
theorem create_cases (correlationId : CorrelationId) :
    (∃ raised, IncidentService.create rows payload fetched commit correlationId =
        (⟨.error raised, []⟩, rows)) ∨
      (∃ asset id, fetched = .ok asset ∧ commit = .taken id false ∧ id ∉ rows.keys ∧
        IncidentService.create rows payload fetched commit correlationId =
          (⟨.error .database, []⟩, rows.set id { IncidentService.draft payload asset with id })) ∨
      ∃ incident : Incident, incident.id ∉ rows.keys ∧
        IncidentService.create rows payload fetched commit correlationId =
          (⟨.ok incident, [⟨_, IncidentService.createdFields_valid incident correlationId.2⟩]⟩,
            rows.set incident.id incident) := by
  cases fetched with
  | error raised => exact .inl ⟨raised, rfl⟩
  | ok asset =>
      cases commit with
      | refused => exact .inl ⟨.database, rfl⟩
      | taken id refreshes =>
          by_cases used : id ∈ rows.keys
          · left
            refine ⟨.database, ?_⟩
            simp only [IncidentService.create, IncidentRepository.create, if_pos used]
            rfl
          · right
            cases refreshes with
            | false =>
                left
                refine ⟨asset, id, rfl, rfl, used, ?_⟩
                simp only [IncidentService.create, IncidentRepository.create, if_neg used,
                  refreshed_false]
                rfl
            | true =>
                right
                refine ⟨{ IncidentService.draft payload asset with id }, used, ?_⟩
                simp only [IncidentService.create, IncidentRepository.create, if_neg used,
                  refreshed_true]
                rw [Traced.emit_of_valid (IncidentService.createdFields_valid _ correlationId.2)]
                rfl

end Handler

/-- Where not every attempt fails, there is a first one that does not. -/
theorem exists_first_calm {responses : Nat → Response Json} {attempts : Nat}
    (some : ¬ ∀ n < attempts, (responses n).Transient) :
    ∃ n < attempts, ¬ (responses n).Transient ∧ ∀ m < n, (responses m).Transient := by
  obtain ⟨last, calm⟩ := not_forall.mp some
  have found : ∃ n, n < attempts ∧ ¬ (responses n).Transient := ⟨last, Classical.not_imp.mp calm⟩
  refine ⟨Nat.find found, (Nat.find_spec found).1, (Nat.find_spec found).2, fun m hm => ?_⟩
  by_contra earlier
  exact Nat.find_min found hm ⟨hm.trans (Nat.find_spec found).1, earlier⟩

/-- A lookup ends with a summary exactly when it degrades or gets an answer with a name. -/
theorem exists_asset_iff {around : Surroundings} {breaker : Breaker} {assetId : Int}
    {lookup : Lookup} {correlationId : CorrelationId} :
    (∃ asset, AssetGateway.fetchAsset assetId
        (fetch around breaker assetId lookup correlationId).result = .ok asset) ↔
      Summarised around.client breaker lookup := by
  let call := lookupCall assetId correlationId lookup
  have degraded (degrades : breaker.Blocks around.client.breaker lookup.start ∨
      around.client.Exhausts call) :
      (fetch around breaker assetId lookup correlationId).result = .ok .fallback :=
    ResilientClient.get_of_degraded lookup.wasOpen rfl degrades
  have ended (n : Nat) (free : ¬ breaker.Blocks around.client.breaker lookup.start)
      (allowed : n < around.client.maxAttempts)
      (before : ∀ m < n, (lookup.responses m).Transient)
      (calm : ¬ (lookup.responses n).Transient) :
      (fetch around breaker assetId lookup correlationId).result =
        (attempt around.client.dependency (lookup.responses n)).map .body :=
    ResilientClient.get_of_last lookup.wasOpen free allowed before calm
  constructor
  · rintro ⟨asset, fetched⟩
    by_cases blocks : breaker.Blocks around.client.breaker lookup.start
    · exact .inl blocks
    by_cases all : ∀ n < around.client.maxAttempts, (lookup.responses n).Transient
    · exact .inr (.inl all)
    obtain ⟨n, allowed, calm, before⟩ := exists_first_calm all
    rw [ended n blocks allowed before calm] at fetched
    cases attempted : attempt around.client.dependency (lookup.responses n) with
    | error raised =>
        rw [attempted] at fetched
        cases fetched
    | ok value =>
        rw [attempted] at fetched
        obtain ⟨status, answered, success⟩ := ResilientClient.attempt_eq_ok_iff.mp attempted
        exact .inr (.inr ⟨n, allowed, before, status, value, asset.name, answered, success,
          (AssetGateway.summary_eq_ok_iff.mp fetched).2⟩)
  · by_cases blocks : breaker.Blocks around.client.breaker lookup.start
    · exact fun _ => ⟨_, by rw [degraded (.inl blocks), AssetGateway.fetchAsset]⟩
    rintro (blocked | all | ⟨n, allowed, before, status, value, name, answered, success, names⟩)
    · exact absurd blocked blocks
    · exact ⟨_, by
        rw [degraded (.inr (ResilientClient.exhausts_iff.mpr all)), AssetGateway.fetchAsset]⟩
    · have attempted : attempt around.client.dependency (lookup.responses n) = .ok value :=
        ResilientClient.attempt_eq_ok_iff.mpr ⟨status, answered, success⟩
      have calm : ¬ (lookup.responses n).Transient := by
        rw [← fails_attempt_iff, attempted]
        exact id
      refine ⟨{ assetId := assetId, name := name }, ?_⟩
      rw [ended n blocks allowed before calm, attempted]
      exact AssetGateway.summary_eq_ok_iff.mpr ⟨rfl, names⟩

/-- The events a client leaves carry the ids of its call, and none reports an incident
or a failure of the caller. -/
theorem get_event {β : Type} {client : ResilientClient} {breaker : Breaker} {wasOpen : Bool}
    {call : Call β} {event : EventBody}
    (left : event ∈ (client.get breaker wasOpen call).events) :
    (event.correlationId = call.correlationId ∨ event.correlationId = call.ambient) ∧
      event.eventType ≠ .incidentCreated := by
  rcases ResilientClient.event_cases wasOpen left with ⟨change, rfl⟩ | ⟨reason, rfl⟩
  · cases change <;> exact ⟨.inr rfl, nofun⟩
  · exact ⟨.inl rfl, nofun⟩

theorem ofType_get {β : Type} (client : ResilientClient) (breaker : Breaker) (wasOpen : Bool)
    (call : Call β) : ofType .incidentCreated (client.get breaker wasOpen call).events = [] :=
  List.filter_eq_nil_iff.mpr fun _ left same => (get_event left).2 (eq_of_beq same)

/-- A route that leaves no `INCIDENT_CREATED` leaves a request without one. -/
theorem silent_of_application {around : Surroundings} {request : CreateRequest}
    {handling : Handling} (silent : ofType .incidentCreated (application request.correlationId
      request.toRequest handling).1.emitted = []) :
    ofType .incidentCreated (serve .incident around.describe request.toRequest
      request.correlationHeader request.minted handling).events = [] := by
  rw [ofType, List.filter_eq_nil_iff] at silent ⊢
  rw [serve_events]
  intro event hevent same
  rcases mem_dispatchWith hevent with inner | own
  · exact silent event inner same
  · rw [eq_of_beq same] at own
    exact absurd own (by decide)

/-! ## When a request ends as it is to -/

section Ends

variable [UnicodeDb] (around : Surroundings) (breaker : Breaker) (rows : Incidents)
  (request : CreateRequest) (lookup : Lookup) (commit : RowCommit Int)

/-- A request whose body is taken leaves what its route leaves. -/
theorem post_of_taken {payload : IncidentCreate} (visible : ¬ Blank request.correlationId)
    (taken : request.body = .ok payload) :
    post around breaker rows request lookup commit =
      let handled := createIncident around breaker rows payload lookup commit ⟨_, visible⟩
      ⟨serve .incident around.describe request.toRequest request.correlationHeader request.minted
        handled.1, handled.2.1, handled.2.2⟩ := by
  rw [post, dif_pos visible, taken]

/-- What the service raises or returns for a request whose body is taken. -/
def created (payload : IncidentCreate) (visible : ¬ Blank request.correlationId) :
    Outcome Incident :=
  IncidentService.create rows payload
    (AssetGateway.fetchAsset payload.assetId
      (fetch around breaker payload.assetId lookup ⟨_, visible⟩).result) commit
    request.correlationId

/-- What the route comes to before the middleware, by what the service does: the
events of the client, those of the service, and the handled end. -/
theorem application_of_create {payload : IncidentCreate} (visible : ¬ Blank request.correlationId)
    {result : Except Exc Incident} {emitted : List EventBody} {after : Incidents}
    (stamped : ∀ event ∈ emitted, event.correlationId = request.correlationId)
    (outcome : created around breaker rows request lookup commit payload visible =
      (⟨result, emitted⟩, after)) :
    (createIncident around breaker rows payload lookup commit ⟨_, visible⟩).2.2 = after ∧
      (application request.correlationId request.toRequest
          (createIncident around breaker rows payload lookup commit ⟨_, visible⟩).1).1 =
        ⟨(handleTyped request.correlationId request.toRequest.path
            (ending around.render result)).1,
          (fetch around breaker payload.assetId lookup ⟨_, visible⟩).events ++ emitted⟩ := by
  have all : ∀ event ∈
      (fetch around breaker payload.assetId lookup ⟨_, visible⟩).events ++ emitted,
        event.correlationId = request.correlationId := by
    intro event hevent
    rcases List.mem_append.mp hevent with left | reported
    · exact (get_event left).1.elim id id
    · exact stamped event reported
  unfold created at outcome
  unfold createIncident
  dsimp only
  rw [outcome]
  refine ⟨rfl, ?_⟩
  rw [application, write_events all]

/-- What a mistaken lookup comes to: the exception leaves the service. -/
theorem post_of_mistaken (mistaken : Mistaken around.client breaker request lookup) :
    (post around breaker rows request lookup commit).served.response.status = 500 := by
  obtain ⟨visible, ⟨payload, taken⟩, free, n, allowed, before, status, body, answered, mistake⟩ :=
    mistaken
  have result : (fetch around breaker payload.assetId lookup ⟨_, visible⟩).result =
      .error (.httpStatus status) :=
    ResilientClient.get_of_clientError lookup.wasOpen free allowed before answered mistake
  have outcome : created around breaker rows request lookup commit payload visible =
      (⟨.error (.httpStatus status), []⟩, rows) := by
    rw [created, result]
    rfl
  have handled := (application_of_create around breaker rows request lookup commit visible
    (by rintro event ⟨⟩) outcome).2
  rw [post_of_taken around breaker rows request lookup commit visible taken]
  exact serve_of_failed (by
    change (application request.correlationId _ _).1.result = _
    rw [handled]
    rfl)

/-- An incident that is stored and not read back stays, and the request fails. -/
theorem post_of_unread (unread : Unread around.client breaker rows request lookup commit) :
    (post around breaker rows request lookup commit).rows ≠ rows ∧
      (post around breaker rows request lookup commit).served.response.status = 500 := by
  obtain ⟨visible, ⟨payload, taken⟩, summarised, id, rfl, fresh⟩ := unread
  obtain ⟨asset, fetched⟩ := exists_asset_iff.mpr summarised
  let row : Incident := { IncidentService.draft payload asset with id }
  have outcome : created around breaker rows request lookup (.taken id false) payload visible =
      (⟨.error .database, []⟩, rows.set id row) := by
    rw [created, fetched]
    simp only [IncidentService.create, IncidentRepository.create, if_neg fresh, refreshed_false]
    rfl
  obtain ⟨after, handled⟩ := application_of_create around breaker rows request lookup
    (.taken id false) visible (by rintro event ⟨⟩) outcome
  rw [post_of_taken around breaker rows request lookup (.taken id false) visible taken]
  constructor
  · dsimp only
    rw [after]
    intro same
    have held : rows.get? id = some row := by
      rw [← same, Dict.get?_set]
      exact if_pos rfl
    exact fresh (Dict.get?_isSome_iff.mp (by rw [held]; rfl))
  · exact serve_of_failed (by
      change (application request.correlationId _ _).1.result = _
      rw [handled]
      rfl)

/-- A request the middleware or the framework refuses leaves nothing. -/
theorem declined_of_untaken (proper : ¬ Mistaken around.client breaker request lookup)
    (untaken : ∀ payload, ¬ Blank request.correlationId → request.body ≠ .ok payload) :
    Declined rows (post around breaker rows request lookup commit)
      (Mistaken around.client breaker request lookup) := by
  by_cases visible : ¬ Blank request.correlationId
  · cases taken : request.body with
    | ok payload => exact absurd taken (untaken payload visible)
    | error refusal =>
        rw [post, dif_pos visible, taken]
        exact ⟨rfl, silent_of_application rfl, fun mistaken => absurd mistaken proper⟩
  · rw [post, dif_neg visible]
    refine ⟨rfl, ?_, fun mistaken => absurd mistaken proper⟩
    have refused : ¬ request.toRequest.Accepted request.correlationId := fun accepted =>
      visible (request.accepted_iff.mp accepted)
    change ofType _ (serve ..).events = []
    rw [serve_events]
    change ofType _ (dispatchWith _ _ _ request.correlationId _).emitted = []
    rw [dispatchWith_of_refused request.tracked refused]
    rfl

/-- A request whose service raised leaves nothing. -/
theorem declined_of_raised {payload : IncidentCreate} (visible : ¬ Blank request.correlationId)
    (proper : ¬ Mistaken around.client breaker request lookup)
    (taken : request.body = .ok payload) {raised : Exc}
    (failed : created around breaker rows request lookup commit payload visible =
      (⟨.error raised, []⟩, rows)) :
    Declined rows (post around breaker rows request lookup commit)
      (Mistaken around.client breaker request lookup) := by
  obtain ⟨same, handled⟩ := application_of_create around breaker rows request lookup commit
    visible (by rintro event ⟨⟩) failed
  rw [post_of_taken around breaker rows request lookup commit visible taken]
  refine ⟨same, silent_of_application ?_, fun mistaken => absurd mistaken proper⟩
  rw [handled, List.append_nil]
  exact ofType_get ..

/-- A request whose service stored an incident is answered with it. -/
theorem raised_of_stored {payload : IncidentCreate} (visible : ¬ Blank request.correlationId)
    (taken : request.body = .ok payload) {incident : Incident} (fresh : incident.id ∉ rows.keys)
    (stored : created around breaker rows request lookup commit payload visible =
      (⟨.ok incident, [⟨_, IncidentService.createdFields_valid incident visible⟩]⟩,
        rows.set incident.id incident)) :
    Raised rows (post around breaker rows request lookup commit) incident := by
  obtain ⟨after, handled⟩ := application_of_create around breaker rows request lookup commit
    visible (List.forall_mem_singleton.mpr rfl) stored
  rw [post_of_taken around breaker rows request lookup commit visible taken]
  have accepted := request.accepted_iff.mpr visible
  have answered : (application request.correlationId request.toRequest
      (createIncident around breaker rows payload lookup commit ⟨_, visible⟩).1).1.result =
        .ok { status := 201, headers := Dict.empty,
              body := .rendered (around.render incident) } := by
    rw [handled]
    rfl
  have transparent := transparent_of_accepted (·.status) .incident
    (application request.correlationId request.toRequest
      (createIncident around breaker rows payload lookup commit ⟨_, visible⟩).1).1
    request.tracked accepted fun response returned => by
      obtain rfl := Except.ok.inj (answered.symm.trans returned)
      exact show (100 : Nat) ≤ 201 ∧ (201 : Nat) ≤ 599 by decide
  refine ⟨fresh, after, ⟨⟨_, IncidentService.createdFields_valid incident visible⟩, ?_, rfl⟩,
    serve_of_answered (transparent.result.trans answered)⟩
  dsimp only
  rw [serve_events]
  apply (filter_of_transparent transparent (by decide)).trans
  have silent : ofType .incidentCreated
      (fetch around breaker payload.assetId lookup ⟨_, visible⟩).events = [] :=
    ofType_get ..
  rw [handled, List.filter_append, ← ofType, silent]
  rfl

/-- A request ends in one of the two ways exactly when asset-service does not answer
its lookup with a client error, and a row that is stored is read back. -/
theorem ends_iff (around : Surroundings) (breaker : Breaker) (rows : Incidents)
    (request : CreateRequest) (lookup : Lookup) (commit : RowCommit Int) :
    ((∃ incident, Raised rows (post around breaker rows request lookup commit) incident) ∨
        Declined rows (post around breaker rows request lookup commit)
          (Mistaken around.client breaker request lookup)) ↔
      ¬ Mistaken around.client breaker request lookup ∧
        ¬ Unread around.client breaker rows request lookup commit := by
  constructor
  · intro ends
    constructor
    · intro mistaken
      have failed := post_of_mistaken around breaker rows request lookup commit mistaken
      rcases ends with ⟨incident, raised⟩ | declined
      · have created := raised.created
        omega
      · have answered := (declined.mistake mistaken).1
        omega
    · intro unread
      obtain ⟨changed, failed⟩ := post_of_unread around breaker rows request lookup commit unread
      rcases ends with ⟨incident, raised⟩ | declined
      · have created := raised.created
        omega
      · exact changed declined.stored
  · rintro ⟨proper, read⟩
    by_cases untaken : ∀ payload, ¬ Blank request.correlationId → request.body ≠ .ok payload
    · exact .inr (declined_of_untaken around breaker rows request lookup commit proper untaken)
    · obtain ⟨payload, untaken⟩ := not_forall.mp untaken
      obtain ⟨visible, taken⟩ := Classical.not_imp.mp untaken
      have taken := not_not.mp taken
      rcases create_cases rows payload (AssetGateway.fetchAsset payload.assetId
          (fetch around breaker payload.assetId lookup ⟨_, visible⟩).result) commit
        ⟨_, visible⟩ with ⟨raised, failed⟩ | ⟨asset, id, fetched, held, fresh, -⟩ |
          ⟨incident, fresh, stored⟩
      · exact .inr
          (declined_of_raised around breaker rows request lookup commit visible
            proper taken failed)
      · exact absurd ⟨visible, ⟨payload, taken⟩, exists_asset_iff.mp ⟨asset, fetched⟩,
          id, held, fresh⟩ read
      · exact .inl ⟨incident,
          raised_of_stored around breaker rows request lookup commit visible taken fresh stored⟩

end Ends

/-! ## An asset that does not exist -/

theorem seven_title :
    1 ≤ (lit "Repeated failures").length ∧ (lit "Repeated failures").length ≤ 200 := by decide

theorem seven_description :
    1 ≤ (lit "Five failed logins.").length ∧ (lit "Five failed logins.").length ≤ 2000 := by decide

theorem seven_reportedBy : 1 ≤ (lit "analyst").length ∧ (lit "analyst").length ≤ 64 := by decide

theorem seven_pos : (0 : Int) < 7 := by decide

/-- An analyst raises an incident against asset 7. -/
def raiseAgainstSeven : CreateRequest where
  peer := some "172.18.0.1"
  minted := "corr-000000000001"
  body := .ok
    { title := "Repeated failures", description := "Five failed logins.", severity := .high,
      reportedBy := "analyst", assetId := 7, title_length := seven_title,
      description_length := seven_description, reportedBy_length := seven_reportedBy,
      assetId_pos := seven_pos }

/-- asset-service has no such asset. -/
def noSuchAsset : Lookup where
  wasOpen := false
  start := 0
  stop := 0
  responses := fun _ => .answered 404 none

theorem mistaken_noSuchAsset :
    Mistaken ResilientClient.defaults .fresh raiseAgainstSeven noSuchAsset where
  visible := not_blank_lit (by decide +kernel)
  taken := ⟨_, rfl⟩
  free := id
  answer := ⟨0, by decide, by simp, 404, none, rfl, by decide⟩

/-- The client gets a server error for its own mistake. -/
theorem noSuchAsset_fails : letI : UnicodeDb := ⟨fun _ => true⟩
    ¬ ∀ (around : Surroundings) (breaker : Breaker) (rows : Incidents) (request : CreateRequest)
      (lookup : Lookup) (commit : RowCommit Int),
      (∃ incident, Raised rows (post around breaker rows request lookup commit) incident) ∨
        Declined rows (post around breaker rows request lookup commit)
          (Mistaken around.client breaker request lookup) := by
  let _ : UnicodeDb := ⟨fun _ => true⟩
  intro always
  let around : Surroundings := ⟨ResilientClient.defaults, rfl, fun _ => [], fun _ => []⟩
  have answered := post_of_mistaken around .fresh Dict.empty raiseAgainstSeven noSuchAsset
    (.taken 1 true) mistaken_noSuchAsset
  rcases always around .fresh Dict.empty raiseAgainstSeven noSuchAsset (.taken 1 true) with
    ⟨incident, raised⟩ | declined
  · have created := raised.created
    omega
  · have refused := (declined.mistake mistaken_noSuchAsset).1
    omega

end SentinelIR.Services.IncidentRouter
