/-
# The event stream is read back as it was written

Events, application lines, blank lines and noise, one after the other on one
output: reading the output line by line yields the events and nothing else. The
one text that does not come back is one in which a high surrogate stands directly
before a low one, and the one line that is noise to `json.loads` but not to the
reader is one it would have to strip first.
-/

import SentinelIR.Collector.Reader

namespace SentinelIR.Collector

open SentinelIR.Py SentinelIR.Common

/-! ## Splitting a text into lines -/

/-- A separator of `str.splitlines`. -/
def isLineBreak (c : CodePoint) : Bool :=
  (10 ≤ c.val && c.val ≤ 13) || (28 ≤ c.val && c.val ≤ 30) || c.val == 0x85 || c.val == 0x2028 ||
    c.val == 0x2029

/-- `str.splitlines` from within a line. A line feed right after a carriage return
ends no line of its own. -/
def splitlinesFrom (carriage : Bool) (current : Str) : Str → List Str
  | [] => if current = [] then [] else [current]
  | c :: rest =>
      if carriage = true ∧ c = codePoint '\n' then splitlinesFrom false [] rest
      else if isLineBreak c then current :: splitlinesFrom (c = codePoint '\r') [] rest
      else splitlinesFrom false (current ++ [c]) rest

/-- `text.splitlines()`. -/
def splitlines (text : Str) : List Str := splitlinesFrom false [] text

/-- `text.split("\n")`. -/
def splitNewline (text : Str) : List Str := text.splitOn (codePoint '\n')

/-- A line without separators is one line. -/
theorem splitlinesFrom_line {line current : Str} (whole : ∀ c ∈ line, isLineBreak c = false)
    (more : Str) :
    splitlinesFrom false current (line ++ codePoint '\n' :: more) =
      (current ++ line) :: splitlinesFrom false [] more := by
  induction line generalizing current with
  | nil =>
      rw [List.nil_append, splitlinesFrom, if_neg (by decide), if_pos (by decide), List.append_nil]
      rfl
  | cons c line ih =>
      rw [List.cons_append, splitlinesFrom, if_neg (by rintro ⟨⟨⟩, -⟩),
        if_neg (by simp [whole c List.mem_cons_self]),
        ih fun d hd => whole d (List.mem_cons_of_mem c hd), List.append_assoc]
      rfl

/-- However a blank line is split, its pieces are blank. -/
theorem splitlinesFrom_blank {line current : Str} (carriage : Bool)
    (spaces : ∀ c ∈ line, isSpace c = true) (held : ∀ c ∈ current, isSpace c = true) (more : Str) :
    ∃ pieces, (∀ piece ∈ pieces, Blank piece) ∧
      splitlinesFrom carriage current (line ++ codePoint '\n' :: more) =
        pieces ++ splitlinesFrom false [] more := by
  induction line generalizing carriage current with
  | nil =>
      rw [List.nil_append, splitlinesFrom]
      split
      case isTrue => exact ⟨[], by rintro piece ⟨⟩, rfl⟩
      case isFalse =>
          refine ⟨[current], ?_, by rw [if_pos (by decide)]; rfl⟩
          intro piece hpiece
          rw [List.mem_singleton.mp hpiece]
          exact blank_iff.mpr held
  | cons c line ih =>
      have later : ∀ d ∈ line, isSpace d = true := fun d hd => spaces d (List.mem_cons_of_mem c hd)
      have none : ∀ d ∈ ([] : Str), isSpace d = true := by rintro d ⟨⟩
      rw [List.cons_append, splitlinesFrom]
      split
      case isTrue => exact ih false later none
      case isFalse =>
          split
          case isTrue =>
              obtain ⟨pieces, blank, same⟩ := ih (c = codePoint '\r') later none
              refine ⟨current :: pieces, ?_, by rw [same]; rfl⟩
              intro piece hpiece
              rcases List.mem_cons.mp hpiece with rfl | rest
              · exact blank_iff.mpr held
              · exact blank piece rest
          case isFalse =>
              apply ih false later
              intro d hd
              rcases List.mem_append.mp hd with before | last
              · exact held d before
              · rw [List.mem_singleton.mp last]
                exact spaces c List.mem_cons_self

/-- A line without a line feed is one line. -/
theorem splitNewline_line {line : Str} (whole : codePoint '\n' ∉ line) (more : Str) :
    splitNewline (line ++ codePoint '\n' :: more) = line :: splitNewline more :=
  List.splitOn_append_cons_self_of_not_mem whole more

/-! ## One event -/

/-- The texts of an event that are free in the schema. -/
def texts (event : SecurityEvent) : List Str :=
  [event.timestamp, event.endpoint, event.message, event.correlationId] ++ event.userId.toList ++
    event.sourceIp.toList ++ event.affectedEntity.toList

/-- No free text holds a surrogate pair in two code points. -/
def Clean (event : SecurityEvent) : Prop := ∀ text ∈ texts event, Unpaired text

instance (event : SecurityEvent) : Decidable (Clean event) := List.decidableBAll _ _

/-- The event that comes back: every free text as it is read. -/
structure Reread (event back : SecurityEvent) : Prop where
  eventId : back.eventId = event.eventId
  timestamp : back.timestamp = fuse event.timestamp
  serviceName : back.serviceName = event.serviceName
  eventType : back.eventType = event.eventType
  severity : back.severity = event.severity
  userId : back.userId = event.userId.map fuse
  sourceIp : back.sourceIp = event.sourceIp.map fuse
  endpoint : back.endpoint = fuse event.endpoint
  httpMethod : back.httpMethod = event.httpMethod
  statusCode : back.statusCode = event.statusCode
  message : back.message = fuse event.message
  correlationId : back.correlationId = fuse event.correlationId
  affectedEntity : back.affectedEntity = event.affectedEntity.map fuse

theorem map_fuse_of_unpaired {text : Option Str} (unpaired : ∀ t ∈ text.toList, Unpaired t) :
    text.map fuse = text := by
  cases text with
  | none => rfl
  | some t => rw [Option.map_some, fuse_of_unpaired (unpaired t (by simp))]

/-- A clean event comes back as it was. -/
theorem reread_of_clean {event : SecurityEvent} (clean : Clean event) : Reread event event where
  eventId := rfl
  timestamp := (fuse_of_unpaired (clean _ (by simp [texts]))).symm
  serviceName := rfl
  eventType := rfl
  severity := rfl
  userId := (map_fuse_of_unpaired fun t ht => clean t (by simp [texts, ht])).symm
  sourceIp := (map_fuse_of_unpaired fun t ht => clean t (by simp [texts, ht])).symm
  endpoint := (fuse_of_unpaired (clean _ (by simp [texts]))).symm
  httpMethod := rfl
  statusCode := rfl
  message := (fuse_of_unpaired (clean _ (by simp [texts]))).symm
  correlationId := (fuse_of_unpaired (clean _ (by simp [texts]))).symm
  affectedEntity := (map_fuse_of_unpaired fun t ht => clean t (by simp [texts, ht])).symm

theorem ascii_eventId (event : SecurityEvent) : Ascii event.eventId := by
  obtain ⟨tag, -, hex⟩ := event.eventId_valid
  intro c hc
  rw [← List.take_append_drop eventIdTag.length event.eventId, List.mem_append] at hc
  rcases hc with front | back
  · have ascii : Ascii eventIdTag := by decide
    exact ascii c (tag ▸ front)
  · have digit := hex c back
    simp only [isLowerHex, Bool.or_eq_true, Bool.and_eq_true, decide_eq_true_eq] at digit
    omega

theorem ascii_permitted {method : Str} (permitted : method ∈ permittedMethods) : Ascii method := by
  revert method
  decide

theorem ascii_aliases {key : Str} (hkey : key ∈ aliasToField) : Ascii key := by
  revert key
  decide

theorem fuse_of_ascii {s : Str} (ascii : Ascii s) : fuse s = s :=
  (fuse_eq_iff ascii).mpr rfl

theorem decodedMembers_eq (members : List (Str × Value)) :
    decodedMembers members = members.map fun member => (fuse member.1, member.2.decoded) := by
  induction members with
  | nil => rfl
  | cons member rest ih =>
      obtain ⟨key, value⟩ := member
      rw [decodedMembers, ih]
      rfl

/-- Distinct keys are all kept, each with its value. -/
theorem get?_objectOf {members : List (Str × Json)} (distinct : (members.map Prod.fst).Nodup)
    {key : Str} {value : Json} (held : (key, value) ∈ members) :
    (objectOf members).get? key = some value := by
  induction members using List.reverseRecOn with
  | nil => cases held
  | append_singleton front last ih =>
      have step : objectOf (front ++ [last]) = (objectOf front).set last.1 last.2 := by
        simp [objectOf]
      rw [List.map_append, List.nodup_append] at distinct
      rw [step, Dict.get?_set]
      rcases List.mem_append.mp held with before | same
      · have other : key ≠ last.1 := by
          rintro rfl
          exact distinct.2.2 _ (List.mem_map_of_mem before) _ (List.mem_singleton_self _) rfl
        rw [if_neg other]
        exact ih distinct.1 before
      · obtain rfl := List.mem_singleton.mp same
        exact if_pos rfl

/-- What the reader finds on an event line. -/
def found (event : SecurityEvent) : List (Str × Json) :=
  event.toJsonDict.map fun member => (member.1, member.2.decoded)

theorem keys_toJsonDict (event : SecurityEvent) :
    event.toJsonDict.map Prod.fst = aliasToField := rfl

theorem decodedMembers_toJsonDict (event : SecurityEvent) :
    decodedMembers event.toJsonDict = found event := by
  rw [decodedMembers_eq, found]
  apply List.map_congr_left
  intro member hmember
  have known : member.1 ∈ aliasToField := by
    rw [← keys_toJsonDict event]
    exact List.mem_map_of_mem hmember
  rw [fuse_of_ascii (ascii_aliases known)]

theorem get?_found {event : SecurityEvent} {key : Str} {value : Value}
    (held : (key, value) ∈ event.toJsonDict) :
    (objectOf (found event)).get? key = some value.decoded := by
  have distinct : ((found event).map Prod.fst).Nodup := by
    rw [found, List.map_map]
    exact (show aliasToField.Nodup by decide)
  exact get?_objectOf distinct
    (List.mem_map_of_mem (f := fun m : Str × Value => (m.1, m.2.decoded)) held)

theorem memberOf_value {α : Type} [DecidableEq α] {value : α → Str} {all : List α} {member : α}
    (found : all.find? (fun other => value other = value member) = some member)
    (ascii : Ascii (value member)) :
    memberOf value all (Value.str (value member)).decoded = some member := by
  rw [Value.decoded, fuse_of_ascii ascii]
  exact found

theorem optionalTextOf_found (text : Option Str) :
    optionalTextOf (some (optionalValue text).decoded) = some (text.map fuse) := by
  cases text with
  | none => rfl
  | some t => rfl

theorem find_serviceName (service : ServiceName) :
    ServiceName.all.find? (fun other => other.value = service.value) = some service ∧
      Ascii service.value := by
  cases service <;> decide

theorem find_eventType (eventType : EventType) :
    EventType.all.find? (fun other => other.value = eventType.value) = some eventType ∧
      Ascii eventType.value := by
  cases eventType <;> decide

theorem find_severity (severity : Severity) :
    Severity.all.find? (fun other => other.value = severity.value) = some severity ∧
      Ascii severity.value := by
  cases severity <;> decide

/-- The dictionary is validated as the fields it holds are. -/
theorem modelValidate_of_fields [Pydantic] {obj : Dict Str Json} (fields : EventFields)
    {eventId timestamp : Str} (named : ValidId eventIdTag eventId)
    (hEventId : (obj.get? "eventId").bind textOf = some eventId)
    (hTimestamp : (obj.get? "timestamp").bind textOf = some timestamp)
    (serviceName : (obj.get? "serviceName").bind (memberOf ServiceName.value ServiceName.all) =
      some fields.serviceName)
    (eventType : (obj.get? "eventType").bind (memberOf EventType.value EventType.all) =
      some fields.eventType)
    (severity : (obj.get? "severity").bind (memberOf Severity.value Severity.all) =
      some fields.severity)
    (userId : optionalTextOf (obj.get? "userId") = some fields.userId)
    (sourceIp : optionalTextOf (obj.get? "sourceIp") = some fields.sourceIp)
    (endpoint : (obj.get? "endpoint").bind textOf = some fields.endpoint)
    (httpMethod : (obj.get? "httpMethod").bind textOf = some fields.httpMethod)
    (statusCode : (obj.get? "statusCode").bind Pydantic.toInt = some fields.statusCode)
    (message : (obj.get? "message").bind textOf = some fields.message)
    (correlationId : (obj.get? "correlationId").bind textOf = some fields.correlationId)
    (affectedEntity : optionalTextOf (obj.get? "affectedEntity") = some fields.affectedEntity) :
    modelValidate obj =
      match buildEvent fields with
      | .error _ => none
      | .ok body => some { body with eventId, timestamp, eventId_valid := named } := by
  unfold modelValidate
  rw [hEventId, hTimestamp, serviceName, eventType, severity, userId, sourceIp, endpoint,
    httpMethod, statusCode, message, correlationId, affectedEntity]
  simp only [Option.bind_eq_bind, Option.bind_some]
  exact dif_pos named

/-- A dictionary with the fields of an event is validated to the event. -/
theorem modelValidate_eq_some [Pydantic] {obj : Dict Str Json} {event : SecurityEvent}
    (eventId : (obj.get? "eventId").bind textOf = some event.eventId)
    (timestamp : (obj.get? "timestamp").bind textOf = some event.timestamp)
    (serviceName : (obj.get? "serviceName").bind (memberOf ServiceName.value ServiceName.all) =
      some event.serviceName)
    (eventType : (obj.get? "eventType").bind (memberOf EventType.value EventType.all) =
      some event.eventType)
    (severity : (obj.get? "severity").bind (memberOf Severity.value Severity.all) =
      some event.severity)
    (userId : optionalTextOf (obj.get? "userId") = some event.userId)
    (sourceIp : optionalTextOf (obj.get? "sourceIp") = some event.sourceIp)
    (endpoint : (obj.get? "endpoint").bind textOf = some event.endpoint)
    (httpMethod : (obj.get? "httpMethod").bind textOf = some event.httpMethod)
    (statusCode : (obj.get? "statusCode").bind Pydantic.toInt = some event.statusCode)
    (message : (obj.get? "message").bind textOf = some event.message)
    (correlationId : (obj.get? "correlationId").bind textOf = some event.correlationId)
    (affectedEntity : optionalTextOf (obj.get? "affectedEntity") = some event.affectedEntity) :
    modelValidate obj = some event := by
  rw [modelValidate_of_fields event.toEventFields event.eventId_valid eventId timestamp serviceName
    eventType severity userId sourceIp endpoint httpMethod statusCode message correlationId
    affectedEntity, buildEvent_toEventFields event.toEventBody]

/-- An event line is validated to the event that comes back. -/
theorem modelValidate_found [Pydantic] {event back : SecurityEvent} (reread : Reread event back) :
    modelValidate (objectOf (found event)) = some back := by
  have field (i : Nat) {key : Str} {value : Value}
      (held : event.toJsonDict[i]? = some (key, value)) :
      (objectOf (found event)).get? key = some value.decoded :=
    get?_found (List.mem_of_getElem? held)
  have text {key : Str} {given : Str} (i : Nat)
      (held : event.toJsonDict[i]? = some (key, .str given)) :
      ((objectOf (found event)).get? key).bind textOf = some (fuse given) := by
    rw [field i held]
    rfl
  have optionalText {key : Str} {given : Option Str} (i : Nat)
      (held : event.toJsonDict[i]? = some (key, optionalValue given)) :
      optionalTextOf ((objectOf (found event)).get? key) = some (given.map fuse) := by
    rw [field i held, optionalTextOf_found]
  refine modelValidate_eq_some (text 0 rfl |>.trans ?_) (text 1 rfl |>.trans ?_) ?_ ?_ ?_
    (optionalText 5 rfl |>.trans ?_) (optionalText 6 rfl |>.trans ?_) (text 7 rfl |>.trans ?_)
    (text 8 rfl |>.trans ?_) ?_ (text 10 rfl |>.trans ?_) (text 11 rfl |>.trans ?_)
    (optionalText 12 rfl |>.trans ?_)
  · rw [fuse_of_ascii (ascii_eventId event), reread.eventId]
  · rw [reread.timestamp]
  · have member := find_serviceName event.serviceName
    rw [field 2 rfl, Option.bind_some, memberOf_value member.1 member.2, reread.serviceName]
  · have member := find_eventType event.eventType
    rw [field 3 rfl, Option.bind_some, memberOf_value member.1 member.2, reread.eventType]
  · have member := find_severity event.severity
    rw [field 4 rfl, Option.bind_some, memberOf_value member.1 member.2, reread.severity]
  · rw [reread.userId]
  · rw [reread.sourceIp]
  · rw [reread.endpoint]
  · rw [fuse_of_ascii (ascii_permitted event.valid.method), reread.httpMethod]
  · rw [field 9 rfl, Option.bind_some, Value.decoded, Pydantic.toInt_int, reread.statusCode]
  · rw [reread.message]
  · rw [reread.correlationId]
  · rw [reread.affectedEntity]

/-! ## Lines of JSON -/

/-- A text between two visible code points keeps both. -/
theorem strip_eq_self {c d : CodePoint} {rest init : Str} (ends : c :: rest = init ++ [d])
    (first : isSpace c = false) (last : isSpace d = false) : strip (c :: rest) = c :: rest := by
  have front : (c :: rest).dropWhile isSpace = c :: rest :=
    List.dropWhile_cons_of_neg (by simp [first])
  rw [strip, front, ends, List.reverse_append, List.reverse_singleton, List.singleton_append,
    List.dropWhile_cons_of_neg (by simp [last]), ← List.singleton_append, List.reverse_append,
    List.reverse_reverse, List.reverse_singleton]

theorem dumpsMembers_ends (members : List (Str × Value)) :
    ∃ init, dumpsMembers members = init ++ [codePoint '}'] := by
  induction members with
  | nil => exact ⟨[], rfl⟩
  | cons member members ih =>
      obtain ⟨key, value⟩ := member
      cases members with
      | nil =>
          rw [dumpsMembers]
          exact ⟨dumpsStr key ++ (lit ": " ++ value.dumps), by simp only [List.append_assoc]⟩
      | cons next members =>
          obtain ⟨init, same⟩ := ih
          rw [dumpsMembers, same]
          exact ⟨dumpsStr key ++ (lit ": " ++ (value.dumps ++ (lit ", " ++ init))),
            by simp only [List.append_assoc]⟩

/-- A line of JSON starts and ends with a brace, so there is nothing to strip. -/
theorem strip_dumps_dict (members : List (Str × Value)) :
    strip (Value.dict members).dumps = (Value.dict members).dumps := by
  obtain ⟨init, same⟩ := dumpsMembers_ends members
  have ends : codePoint '{' :: dumpsMembers members =
      (codePoint '{' :: init) ++ [codePoint '}'] := by
    rw [same]
    rfl
  rw [Value.dumps]
  exact strip_eq_self ends (by decide) (by decide)

/-- An event line is read as the event that comes back. -/
theorem parseEventLine_line [Pydantic] {event back : SecurityEvent} (reread : Reread event back) :
    parseEventLine event.line = .ok (some back) := by
  have stripped : strip event.line = event.line := strip_dumps_dict event.toJsonDict
  have read : loads event.line = .ok (.obj (found event)) := by
    rw [← decodedMembers_toJsonDict]
    exact loads_dumps (.dict event.toJsonDict)
  have nonempty : event.line ≠ [] := by
    rw [SecurityEvent.line, Value.dumps]
    exact List.cons_ne_nil _ _
  have keys {key : Str} : key ∈ (objectOf (found event)).keys ↔ key ∈ aliasToField := by
    rw [mem_keys_objectOf, found, List.map_map]
    rfl
  have marked : lit "eventType" ∈ (objectOf (found event)).keys := keys.mpr (by decide)
  have known : (objectOf (found event)).keys ⊆ aliasToField := fun key hkey => keys.mp hkey
  rw [parseEventLine, stripped, if_neg nonempty, read]
  dsimp only
  rw [if_pos marked, if_pos known, modelValidate_found reread]

/-- An application line is skipped, unless an extra is called like the marker. -/
theorem parseEventLine_application [Pydantic] {record : LogRecord} (serviceName correlationId : Str)
    (unmarked : lit "eventType" ∉ record.extras.map Prod.fst) :
    parseEventLine (record.line serviceName correlationId) = .ok none := by
  apply parseEventLine_skip
  right
  refine ⟨_, (congrArg loads (strip_dumps_dict _)).trans (loads_dumps _), ?_⟩
  rw [Value.decoded]
  intro marked
  rw [decodedMembers_eq, List.map_map] at marked
  obtain ⟨member, hmember, key⟩ := List.mem_map.mp marked
  have same : member.1 = lit "eventType" := (fuse_eq_iff (by decide)).mp key
  have held : member.1 ∈ (record.payload serviceName correlationId).keys :=
    List.mem_map_of_mem hmember
  rw [same] at held
  exact unmarked (LogRecord.marker_mem_keys held)

/-! ## The output of the services -/

/-- One line of the output. -/
inductive Line
  | event (written : SecurityEvent)
  /-- A line of `JsonFormatter`, from a record without the event marker. -/
  | application (record : LogRecord) (serviceName correlationId : Str)
    (unmarked : lit "eventType" ∉ record.extras.map Prod.fst)
  | blank (text : Str) (spaces : Blank text) (oneLine : codePoint '\n' ∉ text)
  /-- A line that is, once stripped, no JSON or no event. -/
  | noise (text : Str) (whole : ∀ c ∈ text, isLineBreak c = false)
    (skipped : loads (strip text) = .error .decode ∨
      ∃ value, loads (strip text) = .ok value ∧ NoEvent value)

namespace Line

/-- The line as it is written. -/
def text : Line → Str
  | event written => written.line
  | application record serviceName correlationId _ => record.line serviceName correlationId
  | blank text _ _ => text
  | noise text _ _ => text

/-- The event on the line. -/
def event? : Line → Option SecurityEvent
  | event written => some written
  | _ => none

end Line

/-- The output: every line with its line feed. -/
def logText (lines : List Line) : Str := lines.flatMap fun line => line.text ++ [codePoint '\n']

/-- The events written on it, in order. -/
def written (lines : List Line) : List SecurityEvent := lines.filterMap Line.event?

theorem not_isLineBreak_of_printable {c : CodePoint} (visible : 32 ≤ c.val ∧ c.val ≤ 126) :
    isLineBreak c = false := by
  simp only [isLineBreak, Bool.or_eq_false_iff, Bool.and_eq_false_iff, decide_eq_false_iff_not,
    beq_eq_false_iff_ne]
  omega

theorem not_mem_of_whole {text : Str} (whole : ∀ c ∈ text, isLineBreak c = false) :
    codePoint '\n' ∉ text := fun h => absurd (whole _ h) (by decide)

theorem whole_dumps (v : Value) : ∀ c ∈ v.dumps, isLineBreak c = false :=
  fun c hc => not_isLineBreak_of_printable (printable_dumps v c hc)

namespace Line

theorem oneLine (line : Line) : codePoint '\n' ∉ line.text := by
  cases line with
  | event written => exact not_mem_of_whole (whole_dumps _)
  | application record serviceName correlationId unmarked => exact not_mem_of_whole (whole_dumps _)
  | blank text spaces oneLine => exact oneLine
  | noise text whole skipped => exact not_mem_of_whole whole

/-- A line is read as the event on it, or skipped. -/
theorem parseEventLine_text [Pydantic] {line : Line} (clean : ∀ event ∈ line.event?, Clean event) :
    parseEventLine line.text = .ok line.event? := by
  cases line with
  | event written => exact parseEventLine_line (reread_of_clean (clean written rfl))
  | application record serviceName correlationId unmarked =>
      exact parseEventLine_application serviceName correlationId unmarked
  | blank text spaces oneLine => exact parseEventLine_blank spaces
  | noise text whole skipped => exact parseEventLine_skip skipped

end Line

section Streams

variable [Pydantic]

/-- A line that yields an event, or nothing, leaves the rest of the stream as it is. -/
theorem streamEvents_cons {rawLine : Str} {event : Option SecurityEvent} {rest : List Str}
    {events : List SecurityEvent} (first : parseEventLine rawLine = .ok event)
    (later : streamEvents rest = .ok events) :
    streamEvents (rawLine :: rest) = .ok (event.toList ++ events) := by
  unfold streamEvents at later ⊢
  cases read : mapE parseEventLine rest with
  | error raised => simp [read, Except.map] at later
  | ok found =>
      rw [mapE_cons_ok first read]
      simp only [read, Except.map, Except.ok.injEq] at later ⊢
      subst later
      cases event <;> rfl

/-- Blank pieces yield nothing. -/
theorem streamEvents_blank {pieces rest : List Str} {events : List SecurityEvent}
    (blank : ∀ piece ∈ pieces, Blank piece) (later : streamEvents rest = .ok events) :
    streamEvents (pieces ++ rest) = .ok events := by
  induction pieces with
  | nil => exact later
  | cons piece pieces ih =>
      have first := parseEventLine_blank (blank piece List.mem_cons_self)
      exact streamEvents_cons first (ih fun p hp => blank p (List.mem_cons_of_mem piece hp))

/-- The pieces of one line yield its event, however the text is split. -/
theorem streamEvents_splitlines {line : Line} {more : Str} {events : List SecurityEvent}
    (clean : ∀ event ∈ line.event?, Clean event)
    (later : streamEvents (splitlines more) = .ok events) :
    streamEvents (splitlines (line.text ++ codePoint '\n' :: more)) =
      .ok (line.event?.toList ++ events) := by
  have first := Line.parseEventLine_text clean
  have whole (single : ∀ c ∈ line.text, isLineBreak c = false) :
      streamEvents (splitlines (line.text ++ codePoint '\n' :: more)) =
        .ok (line.event?.toList ++ events) := by
    rw [splitlines, splitlinesFrom_line single]
    exact streamEvents_cons first later
  cases line with
  | event written => exact whole (whole_dumps _)
  | application record serviceName correlationId unmarked => exact whole (whole_dumps _)
  | noise text single skipped => exact whole single
  | blank text spaces oneLine =>
      have start : ∀ c ∈ ([] : Str), isSpace c = true := by rintro c ⟨⟩
      obtain ⟨pieces, blank, same⟩ := splitlinesFrom_blank false (blank_iff.mp spaces) start more
      rw [Line.text, splitlines, same]
      exact streamEvents_blank blank later

/-- **Round trip.** Reading the output by line feeds or with `str.splitlines`
yields the events written on it, in order, and never raises. -/
theorem stream_read_back {lines : List Line} (clean : ∀ event ∈ written lines, Clean event) :
    streamEvents (splitNewline (logText lines)) = .ok (written lines) ∧
      streamEvents (splitlines (logText lines)) = .ok (written lines) := by
  induction lines with
  | nil => exact ⟨rfl, rfl⟩
  | cons line lines ih =>
      have head : ∀ event ∈ line.event?, Clean event := fun event hevent =>
        clean event (List.mem_filterMap.mpr ⟨line, List.mem_cons_self, hevent⟩)
      obtain ⟨byNewline, bySplitlines⟩ := ih fun event hevent => by
        obtain ⟨other, hother, same⟩ := List.mem_filterMap.mp hevent
        exact clean event (List.mem_filterMap.mpr ⟨other, List.mem_cons_of_mem line hother, same⟩)
      have text : logText (line :: lines) = line.text ++ codePoint '\n' :: logText lines := by
        simp [logText]
      have events : written (line :: lines) = line.event?.toList ++ written lines := by
        rw [written, List.filterMap_cons]
        cases line.event? <;> rfl
      rw [text, events]
      constructor
      · rw [splitNewline_line line.oneLine]
        exact streamEvents_cons (Line.parseEventLine_text head) byNewline
      · exact streamEvents_splitlines head bySplitlines

end Streams

/-! ## The two ways a stream does not come back -/

/-- A validator that takes integers only. -/
@[reducible]
def integersOnly : Pydantic where
  toInt
    | .int n => some n
    | _ => none
  toInt_int := fun _ => rfl

/-- A successful login, reported with this message. -/
def welcomeFields (message : Str) : EventFields where
  serviceName := .auth
  eventType := .authSuccess
  severity := .low
  userId := some (lit "alice")
  endpoint := "/api/v1/auth/login"
  httpMethod := "POST"
  statusCode := 200
  message := message
  correlationId := "corr-1"

theorem welcomeFields_valid {message : Str} (visible : ¬ Blank message) :
    (welcomeFields message).Valid where
  method := by show lit "POST" ∈ permittedMethods; decide
  status := by show 100 ≤ (200 : Int) ∧ (200 : Int) ≤ 599; decide
  endpoint := not_blank_lit (by decide)
  message := visible
  correlation := not_blank_lit (by decide)

@[inherit_doc welcomeFields]
def welcome (message : Str) (visible : ¬ Blank message) : SecurityEvent where
  toEventFields := welcomeFields message
  valid := welcomeFields_valid visible
  eventId := eventIdTag ++ hexPad 12 1
  timestamp := "2026-09-07T10:45:00Z"
  eventId_valid := validId_append_hexPad eventIdTag 1

/-- Only the message of the login is read differently. -/
theorem reread_welcome {message back : Str} (visible : ¬ Blank message) (seen : ¬ Blank back)
    (same : back = fuse message) : Reread (welcome message visible) (welcome back seen) where
  eventId := rfl
  timestamp := (fuse_of_ascii (s := lit "2026-09-07T10:45:00Z") (by decide)).symm
  serviceName := rfl
  eventType := rfl
  severity := rfl
  userId := by
    show some (lit "alice") = some (fuse (lit "alice"))
    rw [fuse_of_ascii (by decide)]
  sourceIp := rfl
  endpoint := (fuse_of_ascii (s := lit "/api/v1/auth/login") (by decide)).symm
  httpMethod := rfl
  statusCode := rfl
  message := same
  correlationId := (fuse_of_ascii (s := lit "corr-1") (by decide)).symm
  affectedEntity := rfl

/-- A no-break space, which `str.strip` removes and `json.loads` refuses. -/
def noBreakSpace : CodePoint := 0xa0

theorem loads_noBreakSpace (rest : Str) : loads (noBreakSpace :: rest) = .error .decode := rfl

theorem parseEventLine_noBreakSpace [Pydantic] (rest : Str) :
    parseEventLine (noBreakSpace :: rest) = parseEventLine rest := by
  have stripped : strip (noBreakSpace :: rest) = strip rest := by
    rw [strip, List.dropWhile_cons_of_pos (by decide), strip]
  rw [parseEventLine, parseEventLine, stripped]

/-- Two surrogates, and the code point they encode. -/
def surrogates : Str := [0xd83d, 0xde00]

@[inherit_doc surrogates]
def smile : Str := [0x1f600]

theorem surrogates_visible : ¬ Blank surrogates := by decide

theorem smile_visible : ¬ Blank smile := by decide

theorem login_visible : ¬ Blank (lit "Login") := not_blank_lit (by decide)

/-- A line `json.loads` rejects can be read as an event all the same, and an event
whose message holds a surrogate pair in two code points comes back as another. -/
theorem stream_not_read_back :
    (∃ noise : Str, (∀ c ∈ noise, isLineBreak c = false) ∧ loads noise = .error .decode ∧
      @streamEvents integersOnly (splitNewline (noise ++ [codePoint '\n'])) =
        .ok [welcome "Login" login_visible]) ∧
    @streamEvents integersOnly (splitNewline (logText [.event (welcome surrogates surrogates_visible)])) =
      .ok [welcome smile smile_visible] ∧
    welcome smile smile_visible ≠ welcome surrogates surrogates_visible := by
  let : Pydantic := integersOnly
  have whole : ∀ c ∈ noBreakSpace :: (welcome "Login" login_visible).line,
      isLineBreak c = false := by
    intro c hc
    rcases List.mem_cons.mp hc with rfl | inside
    · decide
    · exact whole_dumps _ c inside
  have last : streamEvents (splitNewline []) = .ok [] := rfl
  refine ⟨⟨_, whole, loads_noBreakSpace _, ?_⟩, ?_, ?_⟩
  · have login := reread_welcome login_visible login_visible (fuse_of_ascii (by decide)).symm
    have first := (parseEventLine_noBreakSpace _).trans (parseEventLine_line login)
    rw [splitNewline_line (not_mem_of_whole whole)]
    exact streamEvents_cons first last
  · have joined := reread_welcome surrogates_visible smile_visible rfl
    have text : logText [.event (welcome surrogates surrogates_visible)] =
        (welcome surrogates surrogates_visible).line ++ codePoint '\n' :: [] := by
      simp [logText, Line.text]
    have single : ∀ c ∈ (welcome surrogates surrogates_visible).line, isLineBreak c = false :=
      whole_dumps _
    rw [text, splitNewline_line (not_mem_of_whole single)]
    exact streamEvents_cons (parseEventLine_line joined) last
  · intro same
    have messages : smile = surrogates := congrArg (fun event => event.message) same
    exact absurd messages (by decide)

theorem whole_lit {text : String}
    (whole : (text.toList.all fun c => !isLineBreak (codePoint c)) = true) :
    ∀ c ∈ lit text, isLineBreak c = false := by
  intro c hc
  obtain ⟨letter, hletter, rfl⟩ := List.mem_map.mp hc
  simpa using List.all_eq_true.mp whole letter hletter

/-- A login between a blank line and two lines of noise. -/
def loginLines : List Line :=
  [.blank [] (by decide) (by decide), .noise (lit "starting up") (whole_lit rfl) (.inl rfl),
    .event (welcome "Login" login_visible),
    .noise (lit "null") (whole_lit rfl) (.inr ⟨.null, rfl, trivial⟩)]

theorem stream_read_back_login :
    (∀ event ∈ written loginLines, Clean event) ∧
      (@streamEvents integersOnly (splitNewline (logText loginLines)) = .ok (written loginLines) ∧
        @streamEvents integersOnly (splitlines (logText loginLines)) = .ok (written loginLines)) := by
  have clean : ∀ event ∈ written loginLines, Clean event := by
    intro event hevent
    obtain rfl : event = welcome "Login" login_visible := List.mem_singleton.mp hevent
    decide
  exact ⟨clean, @stream_read_back integersOnly loginLines clean⟩

end SentinelIR.Collector
