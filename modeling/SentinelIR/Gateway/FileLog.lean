/-
# The lines of the gateway

The log plugin of the gateway writes a line for every request: one expression per key,
and a key whose expression returns nil is left out. A refused request is to be read as
one event, and the line of any other request is to be skipped. The expressions copy the
method, the path and the correlation id of the client, whatever these are.
-/

import SentinelIR.Collector.RoundTrip
import SentinelIR.Gateway.Kong

namespace SentinelIR.Gateway.FileLog

open SentinelIR.Py SentinelIR.Common SentinelIR.Collector

/-! ## The plugin -/

/-- A text of a request, decoded from its bytes. -/
abbrev Text := {text : Str // Encodable text}

/-- What the expressions read of a request and its answer: among them the dates and
the random numbers of the sandbox. -/
structure Logged where
  status : Nat
  method : Text
  path : Text
  /-- The `X-Correlation-ID` header in the log phase. -/
  correlationHeader : Option Text
  /-- The username of the authenticated consumer. -/
  consumer : Option Text
  forwardedIp : Text
  /-- `os.date("!%Y-%m-%dT%H:%M:%SZ")`. -/
  date : Text
  firstDraw : Fin 0x1000000
  secondDraw : Fin 0x1000000
  correlationDraw : Fin 0x80000001

namespace Logged

variable (logged : Logged)

/-- `s == 401 or s == 403 or s == 429`. -/
def Refused : Prop := logged.status = 401 ∨ logged.status = 403 ∨ logged.status = 429

instance : Decidable logged.Refused := inferInstanceAs (Decidable (_ ∨ _))

/-- The status is written as a number of three digits. -/
theorem Refused.written {logged : Logged} (refused : logged.Refused) :
    (decimal (logged.status : Int).natAbs).length ≤ 4300 := by
  have small : (logged.status : Int).natAbs < 1000 := by
    rcases refused with status | status | status <;> omega
  exact le_trans (length_decimal_le small) (by decide)

/-- `eventType`. -/
def eventType : EventType :=
  if logged.status = 429 then .rateLimitExceeded else .unauthorisedAccess

/-- `message`. -/
def message : Str :=
  if logged.status = 429 then "Request refused: rate limit exceeded."
  else "Request to " ++ logged.path ++ " refused: caller is not authorised."

/-- `affectedEntity`. -/
def affectedEntity : Str := if logged.status = 429 then "rate-limit" else logged.path

/-- `correlationId`. -/
def correlationId : Str :=
  match logged.correlationHeader with
  | some header => header
  | none => "corr-gateway-" ++ hexPad 8 logged.correlationDraw

/-- `eventId`. -/
def eventId : Str :=
  eventIdTag ++ (hexPad 6 logged.firstDraw ++ hexPad 6 logged.secondDraw)

/-- `custom_fields_by_lua`. Only the consumer is written whatever the answer. -/
def customFieldsByLua : List (Str × Option Value) :=
  let refused (value : Value) : Option Value := if logged.Refused then some value else none
  [("_prune", none), ("eventId", refused (.str logged.eventId)),
    ("timestamp", refused (.str logged.date)), ("serviceName", refused (.str "api-gateway")),
    ("eventType", refused (.str logged.eventType.value)), ("severity", refused (.str "MEDIUM")),
    ("endpoint", refused (.str logged.path)), ("httpMethod", refused (.str logged.method)),
    ("statusCode", if known : logged.Refused then some (.int logged.status known.written) else none),
    ("message", refused (.str logged.message)),
    ("correlationId", refused (.str logged.correlationId)),
    ("userId", logged.consumer.map fun name => .str name.1),
    ("sourceIp", refused (.str logged.forwardedIp)),
    ("affectedEntity", refused (.str logged.affectedEntity))]

/-- The keys and values of the line: those that are not nil. -/
def members : List (Str × Value) :=
  logged.customFieldsByLua.filterMap fun field => field.2.map (field.1, ·)

end Logged

/-! ## The encoder -/

/-- A value the plugin writes: a text or a number. -/
def Plain : Str × Value → Prop
  | (key, .str text) => Encodable key ∧ Encodable text
  | (key, .int _ _) => Encodable key
  | _ => False

/-- The encoder of the gateway, which walks an object in an order of its own: its text
is JSON for the object. -/
structure Encoder where
  encode : List (Str × Value) → Str
  loads_encode : ∀ members, (∀ member ∈ members, Plain member) →
    (members.map Prod.fst).Nodup →
      ∃ order, order.Perm (members.map fun member => (member.1, member.2.decoded)) ∧
        loads (strip (encode members)) = .ok (.obj order)

/-- Python's own encoder is one. -/
def pythonEncoder : Encoder where
  encode members := (Value.dict members).dumps
  loads_encode members plain _ := by
    refine ⟨_, .rfl, ?_⟩
    have read := loads_dumps (.dict members)
    rw [strip_dumps_dict, read, Value.decoded, decodedMembers_eq]
    refine congrArg (fun order => Except.ok (Json.obj order)) (List.map_congr_left ?_)
    rintro ⟨key, value⟩ hmember
    have encodable : Encodable key := by
      have known := plain _ hmember
      cases value with
      | str text => exact known.1
      | int n written => exact known
      | _ => exact known.elim
    exact Prod.ext (fuse_of_unpaired (unpaired_of_encodable encodable)) rfl

/-- The line of a request. -/
def Encoder.line (encoder : Encoder) (logged : Logged) : Str := encoder.encode logged.members

/-! ## Requests the schema can describe -/

namespace Logged

/-- The fields of the event on the line of a refused request. -/
def fields (logged : Logged) : EventFields where
  serviceName := .gateway
  eventType := logged.eventType
  severity := .medium
  userId := logged.consumer.map (·.1)
  sourceIp := some logged.forwardedIp
  endpoint := logged.path
  httpMethod := logged.method
  statusCode := logged.status
  message := logged.message
  correlationId := logged.correlationId
  affectedEntity := some logged.affectedEntity

theorem eventId_valid (logged : Logged) : ValidId eventIdTag logged.eventId := by
  refine ⟨List.take_left, ?_, ?_⟩
  · rw [eventId, List.drop_left, List.length_append, length_hexPad, length_hexPad]
  · intro c hc
    rw [eventId, List.drop_left] at hc
    exact (List.mem_append.mp hc).elim mem_hexPad mem_hexPad

/-- A request the schema can describe, should it be refused: its method is a permitted
one, and neither its path nor a correlation id of its own is blank. -/
structure Describable (logged : Logged) : Prop where
  method : logged.Refused → logged.method.1 ∈ permittedMethods
  path : logged.Refused → ¬ Blank logged.path.1
  correlation : logged.Refused → ∀ header, logged.correlationHeader = some header →
    ¬ Blank header.1

theorem message_visible (logged : Logged) : ¬ Blank logged.message := by
  unfold message
  split
  · exact not_blank_lit (by decide +kernel)
  · exact not_blank_append_right (not_blank_lit (by decide +kernel))

/-- A generated correlation id is visible. -/
theorem correlation_visible (logged : Logged) :
    ¬ Blank logged.correlationId ↔
      ∀ header, logged.correlationHeader = some header → ¬ Blank header.1 := by
  unfold correlationId
  cases logged.correlationHeader with
  | none =>
      apply iff_of_true (not_blank_append_left (not_blank_lit (by decide +kernel)))
      rintro header ⟨⟩
  | some header =>
      constructor
      · rintro visible other ⟨⟩
        exact visible
      · intro visible
        exact visible header rfl

end Logged

/-! ## What the reader finds -/

namespace Logged

variable {logged : Logged}

/-- The keys of the plugin, in the order of its configuration. -/
def keys : List Str := ["_prune", "eventId", "timestamp", "serviceName",
  "eventType", "severity", "endpoint", "httpMethod", "statusCode", "message", "correlationId",
  "userId", "sourceIp", "affectedEntity"]

theorem map_customFieldsByLua (logged : Logged) :
    logged.customFieldsByLua.map Prod.fst = keys := rfl

theorem mem_members {key : Str} {value : Value} :
    (key, value) ∈ logged.members ↔ (key, some value) ∈ logged.customFieldsByLua := by
  rw [members, List.mem_filterMap]
  constructor
  · rintro ⟨⟨name, given⟩, hfield, kept⟩
    obtain ⟨held, rfl, same⟩ := Option.map_eq_some_iff.mp kept
    obtain ⟨rfl, rfl⟩ := Prod.mk.inj same
    exact hfield
  · intro hfield
    exact ⟨_, hfield, rfl⟩

theorem keys_nodup : keys.Nodup := by decide

/-- Every key but the first is one of the schema's. -/
theorem keys_subset : keys.tail ⊆ aliasToField := by
  intro key
  revert key
  decide

/-- The keys of a line are distinct. -/
theorem members_nodup (logged : Logged) : (logged.members.map Prod.fst).Nodup := by
  have within (fields : List (Str × Option Value)) :
      ((fields.filterMap fun field => field.2.map (field.1, ·)).map Prod.fst).Sublist
        (fields.map Prod.fst) := by
    induction fields with
    | nil => exact .slnil
    | cons field rest ih =>
        obtain ⟨key, given⟩ := field
        cases given with
        | none => exact ih.cons key
        | some value => exact ih.cons_cons key
  exact (within logged.customFieldsByLua).nodup keys_nodup

/-- A key whose expression returned nil is not on the line. -/
theorem not_mem_of_nil {key : Str} (nil : (key, none) ∈ logged.customFieldsByLua) :
    key ∉ logged.members.map Prod.fst := by
  intro hkey
  obtain ⟨⟨name, value⟩, hmember, rfl⟩ := List.mem_map.mp hkey
  have same := List.inj_on_of_nodup_map (logged.map_customFieldsByLua ▸ keys_nodup) nil
    (mem_members.mp hmember) rfl
  cases same

/-- The keys on a line are keys of the schema. -/
theorem mem_aliasToField {key : Str} (held : key ∈ logged.members.map Prod.fst) :
    key ∈ aliasToField := by
  have unpruned : key ≠ lit "_prune" := by
    rintro rfl
    exact not_mem_of_nil (List.mem_of_getElem? (i := 0) rfl) held
  have named : key ∈ keys := by
    obtain ⟨member, hmember, rfl⟩ := List.mem_map.mp held
    exact List.mem_map_of_mem (f := Prod.fst) (mem_members.mp hmember)
  rcases List.mem_cons.mp named with pruned | other
  · exact absurd pruned unpruned
  · exact keys_subset other

/-- What the expressions return for a refused request. -/
theorem customFieldsByLua_of_refused (logged : Logged) (refused : logged.Refused) :
    logged.customFieldsByLua =
      ([("_prune", none), ("eventId", some (.str logged.eventId)),
        ("timestamp", some (.str logged.date)), ("serviceName", some (.str "api-gateway")),
        ("eventType", some (.str logged.eventType.value)), ("severity", some (.str "MEDIUM")),
        ("endpoint", some (.str logged.path)), ("httpMethod", some (.str logged.method)),
        ("statusCode", some (.int logged.status refused.written)),
        ("message", some (.str logged.message)),
        ("correlationId", some (.str logged.correlationId)),
        ("userId", logged.consumer.map fun name => .str name.1),
        ("sourceIp", some (.str logged.forwardedIp)),
        ("affectedEntity", some (.str logged.affectedEntity))] :
          List (Str × Option Value)) := by
  simp only [customFieldsByLua, if_pos refused, dif_pos refused]
theorem encodable_eventType (eventType : EventType) : Encodable eventType.value := by
  cases eventType <;> decide

/-- The texts of a line are decoded from bytes, or the plugin's own. -/
theorem plain_members (logged : Logged) : ∀ member ∈ logged.members, Plain member := by
  rintro ⟨key, value⟩ hmember
  have refused {name text : Str} (hname : Encodable name) (htext : Encodable text) :
      ∀ given, (if logged.Refused then some (Value.str text) else none) = some given →
        Plain (name, given) := by
    intro given kept
    split at kept
    · obtain rfl := Option.some.inj kept
      exact ⟨hname, htext⟩
    · cases kept
  have literal (text : String) (known : Encodable (lit text)) : Encodable (lit text) := known
  have correlation : Encodable logged.correlationId := by
    unfold correlationId
    split
    · next header _ => exact header.2
    · exact encodable_append.mpr ⟨by decide, encodable_hexPad 8 _⟩
  have entity : Encodable logged.affectedEntity := by
    unfold affectedEntity
    split
    · decide
    · exact logged.path.2
  have message : Encodable logged.message := by
    unfold message
    split
    · decide
    · exact encodable_append.mpr
        ⟨encodable_append.mpr ⟨by decide, logged.path.2⟩, by decide⟩
  have all : ∀ field ∈ logged.customFieldsByLua, ∀ given, field.2 = some given →
      Plain (field.1, given) := by
    unfold customFieldsByLua
    simp only [List.forall_mem_cons]
    refine ⟨nofun, refused (by decide) ?_, refused (by decide) logged.date.2,
      refused (by decide) (by decide), refused (by decide) (encodable_eventType _),
      refused (by decide) (by decide), refused (by decide) logged.path.2,
      refused (by decide) logged.method.2, ?_, refused (by decide) message,
      refused (by decide) correlation, ?_, refused (by decide) logged.forwardedIp.2,
      refused (by decide) entity, nofun⟩
    · exact encodable_append.mpr ⟨by decide, encodable_append.mpr
        ⟨encodable_hexPad 6 _, encodable_hexPad 6 _⟩⟩
    · intro given kept
      split at kept
      · obtain rfl := Option.some.inj kept
        exact show Encodable (lit "statusCode") by decide
      · cases kept
    · intro given kept
      obtain ⟨consumer, -, rfl⟩ := Option.map_eq_some_iff.mp kept
      exact ⟨by decide, consumer.2⟩
  exact all _ (mem_members.mp hmember) value rfl

end Logged

section Reading

variable {logged : Logged}

/-- What the reader decodes from a line: each key that is not nil, with its value. -/
theorem exists_decoded (encoder : Encoder) (logged : Logged) :
    ∃ order, loads (strip (encoder.line logged)) = .ok (.obj order) ∧
      (∀ key, key ∈ order.map Prod.fst ↔ key ∈ logged.members.map Prod.fst) ∧
        ∀ key value, (key, some value) ∈ logged.customFieldsByLua →
          (objectOf order).get? key = some value.decoded := by
  obtain ⟨order, perm, read⟩ :=
    encoder.loads_encode logged.members logged.plain_members logged.members_nodup
  have same : (logged.members.map fun member => (member.1, member.2.decoded)).map Prod.fst =
      logged.members.map Prod.fst := List.map_map ..
  have sameKeys := perm.map Prod.fst
  rw [same] at sameKeys
  refine ⟨order, read, fun key => sameKeys.mem_iff, fun key value held => ?_⟩
  refine get?_objectOf (sameKeys.nodup_iff.mpr logged.members_nodup) (perm.mem_iff.mpr ?_)
  exact List.mem_map_of_mem (f := fun member : Str × Value => (member.1, member.2.decoded))
    (Logged.mem_members.mpr held)

variable [Pydantic]

/-- The line of a request that is not refused has no event marker. -/
theorem parse_of_permitted (encoder : Encoder) (permitted : ¬ logged.Refused) :
    parseEventLine (encoder.line logged) = .ok none := by
  obtain ⟨order, read, sameKeys, -⟩ := exists_decoded encoder logged
  refine parseEventLine_skip (.inr ⟨_, read, fun marked => ?_⟩)
  have nil : (lit "eventType", none) ∈ logged.customFieldsByLua := by
    apply List.mem_of_getElem? (i := 4)
    simp only [Logged.customFieldsByLua, if_neg permitted]
    rfl
  exact Logged.not_mem_of_nil nil ((sameKeys _).mp marked)

/-- The line of a refused request is an event exactly as its fields are. -/
theorem parse_of_refused (encoder : Encoder) (refused : logged.Refused) :
    parseEventLine (encoder.line logged) =
      match buildEvent logged.fields with
      | .error _ => .error (.malformedEvent (strip (encoder.line logged)))
      | .ok body => .ok (some
          { body with
            eventId := logged.eventId
            timestamp := logged.date
            eventId_valid := logged.eventId_valid }) := by
  obtain ⟨order, read, sameKeys, found⟩ := exists_decoded encoder logged
  have written := logged.customFieldsByLua_of_refused refused
  have field (i : Nat) {key : Str} {value : Value}
      (held : logged.customFieldsByLua[i]? = some (key, some value)) :
      (objectOf order).get? key = some value.decoded :=
    found key value (List.mem_of_getElem? held)
  have decoded (i : Nat) {key given : Str}
      (held : logged.customFieldsByLua[i]? = some (key, some (.str given))) :
      (objectOf order).get? key = some (.str given) := by
    have plain := logged.plain_members _ (Logged.mem_members.mpr (List.mem_of_getElem? held))
    rw [field i held, Value.decoded, fuse_of_unpaired (unpaired_of_encodable plain.2)]
  have text (i : Nat) {key given : Str}
      (held : logged.customFieldsByLua[i]? = some (key, some (.str given))) :
      ((objectOf order).get? key).bind textOf = some given := by
    rw [decoded i held]
    rfl
  have optionalText (i : Nat) {key given : Str}
      (held : logged.customFieldsByLua[i]? = some (key, some (.str given))) :
      optionalTextOf ((objectOf order).get? key) = some (some given) := by
    rw [decoded i held]
    rfl
  have keyOf (i : Nat) {key : Str} {value : Value}
      (held : logged.customFieldsByLua[i]? = some (key, some value)) :
      key ∈ (objectOf order).keys :=
    Dict.get?_isSome_iff.mp (by rw [field i held]; rfl)
  have marked : lit "eventType" ∈ (objectOf order).keys := keyOf 4 (by rw [written]; rfl)
  have known : (objectOf order).keys ⊆ aliasToField := by
    intro key hkey
    exact Logged.mem_aliasToField ((sameKeys key).mp (mem_keys_objectOf.mp hkey))
  have nonempty : strip (encoder.line logged) ≠ [] := by
    intro empty
    rw [empty] at read
    cases read
  have consumer : optionalTextOf ((objectOf order).get? "userId") =
      some (logged.consumer.map (·.1)) := by
    cases given : logged.consumer with
    | none =>
        have nil : (lit "userId", none) ∈ logged.customFieldsByLua := by
          apply List.mem_of_getElem? (i := 11)
          rw [written, given]
          rfl
        have absent : ¬ ((objectOf order).get? "userId").isSome = true := fun held =>
          Logged.not_mem_of_nil nil
            ((sameKeys _).mp (mem_keys_objectOf.mp (Dict.get?_isSome_iff.mp held)))
        rw [Option.not_isSome_iff_eq_none.mp absent]
        rfl
    | some name => exact optionalText 11 (by rw [written, given]; rfl)
  have validated := modelValidate_of_fields logged.fields logged.eventId_valid
    (text 1 (by rw [written]; rfl)) (text 2 (by rw [written]; rfl)) ?_ ?_ ?_ consumer
    (optionalText 12 (by rw [written]; rfl)) (text 6 (by rw [written]; rfl))
    (text 7 (by rw [written]; rfl)) ?_ (text 9 (by rw [written]; rfl))
    (text 10 (by rw [written]; rfl)) (optionalText 13 (by rw [written]; rfl))
  · rw [parseEventLine, if_neg nonempty, read]
    dsimp only
    rw [if_pos marked, if_pos known, validated]
    cases buildEvent logged.fields <;> rfl
  · rw [decoded 3 (by rw [written]; rfl)]
    exact (find_serviceName .gateway).1
  · rw [decoded 4 (by rw [written]; rfl)]
    exact (find_eventType logged.eventType).1
  · rw [decoded 5 (by rw [written]; rfl)]
    exact (find_severity .medium).1
  · rw [field 8 (by rw [written]; rfl)]
    exact Pydantic.toInt_int _

/-! ## Requests the reader collects -/

/-- The line of a refused request is read as one event with its status, path and
method, and the line of any other request is skipped. -/
structure Collected (encoder : Encoder) (logged : Logged) : Prop where
  read : logged.Refused → ∃ event, parseEventLine (encoder.line logged) = .ok (some event) ∧
    event.statusCode = logged.status ∧ event.endpoint = logged.path ∧
      event.httpMethod = logged.method
  skipped : ¬ logged.Refused → parseEventLine (encoder.line logged) = .ok none

theorem collected_iff_describable (encoder : Encoder) (logged : Logged) :
    Collected encoder logged ↔ logged.Describable := by
  by_cases refused : logged.Refused
  · have parsed := parse_of_refused encoder refused
    constructor
    · rintro ⟨read, -⟩
      obtain ⟨event, read, -, -, method⟩ := read refused
      rw [read] at parsed
      by_cases valid : logged.fields.normalised.Valid
      · rw [buildEvent_eq_ok valid] at parsed
        obtain rfl := Option.some.inj (Except.ok.inj parsed)
        have same : upper logged.method.1 = logged.method.1 := method
        have permitted : upper logged.method.1 ∈ permittedMethods := valid.method
        refine ⟨fun _ => ?_, fun _ => valid.endpoint, fun _ => ?_⟩
        · rwa [same] at permitted
        · exact logged.correlation_visible.mp valid.correlation
      · rw [buildEvent, dif_neg valid] at parsed
        cases parsed
    · rintro ⟨method, path, correlation⟩
      have valid : logged.fields.Valid :=
        { method := method refused
          status := show 100 ≤ (logged.status : Int) ∧ (logged.status : Int) ≤ 599 by
            rcases refused with status | status | status <;> omega
          endpoint := path refused
          message := logged.message_visible
          correlation := logged.correlation_visible.mpr (correlation refused) }
      have built : buildEvent logged.fields = .ok ⟨logged.fields, valid⟩ :=
        buildEvent_toEventFields ⟨logged.fields, valid⟩
      rw [built] at parsed
      exact ⟨fun _ => ⟨_, parsed, rfl, rfl, rfl⟩, fun permitted => absurd refused permitted⟩
  · refine iff_of_true ⟨fun other => absurd other refused, fun _ => ?_⟩ ⟨?_, ?_, ?_⟩
    · exact parse_of_permitted encoder refused
    · exact fun other => absurd other refused
    · exact fun other => absurd other refused
    · exact fun other => absurd other refused

/-- The lines of some requests are collected, and read to their end, exactly when the
schema can describe every refused one. -/
theorem collected_iff (encoder : Encoder) (requests : List Logged) :
    ((∀ logged ∈ requests, Collected encoder logged) ∧
        ∃ events, streamEvents (requests.map encoder.line) = .ok events) ↔
      ∀ logged ∈ requests, logged.Describable := by
  constructor
  · rintro ⟨collected, -⟩ logged hlogged
    exact (collected_iff_describable encoder logged).mp (collected logged hlogged)
  · intro describable
    have collected : ∀ logged ∈ requests, Collected encoder logged := fun logged hlogged =>
      (collected_iff_describable encoder logged).mpr (describable logged hlogged)
    refine ⟨collected, ?_⟩
    have parsed : ∀ line ∈ requests.map encoder.line, ∃ event, parseEventLine line = .ok event := by
      intro line hline
      obtain ⟨logged, hlogged, rfl⟩ := List.mem_map.mp hline
      by_cases refused : logged.Refused
      · obtain ⟨event, read, -⟩ := (collected logged hlogged).read refused
        exact ⟨_, read⟩
      · exact ⟨_, (collected logged hlogged).skipped refused⟩
    obtain ⟨events, mapped⟩ := exists_mapE_eq_ok parsed
    exact ⟨_, by rw [streamEvents, mapped]; rfl⟩

end Reading

/-- The fields are those of the gateway's answer to the request. -/
theorem customFields_eq {request : ClientRequest} {logged : Logged}
    (method : logged.method.1 = request.method) (path : logged.path.1 = request.path)
    (peer : logged.forwardedIp.1 = request.peer.text)
    (consumer : logged.consumer.map (·.1) = request.consumer)
    (correlation : logged.correlationId = request.correlationId) :
    customFields request logged.status = if logged.Refused then some logged.fields else none := by
  unfold customFields throttledFields refusedFields
  rw [← method, ← path, ← peer, ← consumer, ← correlation]
  by_cases throttled : logged.status = 429
  · have refused : logged.Refused := .inr (.inr throttled)
    rw [if_pos throttled, if_pos refused, Logged.fields, Logged.eventType, Logged.message,
      Logged.affectedEntity, if_pos throttled, if_pos throttled, if_pos throttled, throttled]
    rfl
  · rw [if_neg throttled, Logged.fields, Logged.eventType, Logged.message,
      Logged.affectedEntity, if_neg throttled, if_neg throttled, if_neg throttled]
    by_cases unauthorised : logged.status = 401 ∨ logged.status = 403
    · have refused : logged.Refused := unauthorised.imp_right .inl
      rw [if_pos unauthorised, if_pos refused]
    · have permitted : ¬ logged.Refused := by
        rintro (status | status | status)
        · exact unauthorised (.inl status)
        · exact unauthorised (.inr status)
        · exact throttled status
      rw [if_neg unauthorised, if_neg permitted]

/-! ## A method outside the schema -/

/-- A WebDAV client without a token. -/
def propfind : Logged where
  status := 401
  method := ⟨"PROPFIND", by decide⟩
  path := ⟨"/api/v1/incidents", by decide⟩
  correlationHeader := none
  consumer := none
  forwardedIp := ⟨"203.0.113.5", by decide⟩
  date := ⟨"2026-01-01T00:00:00Z", by decide⟩
  firstDraw := ⟨1, by decide⟩
  secondDraw := ⟨2, by decide⟩
  correlationDraw := ⟨3, by decide⟩

/-- Its refusal is a line outside the schema. -/
theorem propfind_uncollected : letI := integersOnly
    ¬ ∀ (encoder : Encoder) (requests : List Logged),
      (∀ logged ∈ requests, Collected encoder logged) ∧
        ∃ events, streamEvents (requests.map encoder.line) = .ok events := by
  let _ : Pydantic := integersOnly
  intro always
  have collected := (always pythonEncoder [propfind]).1 propfind (List.mem_singleton_self _)
  have describable := (collected_iff_describable pythonEncoder propfind).mp collected
  have permitted : lit "PROPFIND" ∈ permittedMethods := describable.method (.inl rfl)
  exact absurd permitted (by decide)

end SentinelIR.Gateway.FileLog
