/-
# The command-line entry points

The collector, the rule runner and the loader read one line stream into a store and
go on from there, and each guards another part of the way with other exception types.
For every stream it is said here when each of them ends with an exit code, and when an
exception of the reader, the store or the rules leaves it.
-/

import SentinelIR.Collector.RoundTrip
import SentinelIR.Loader.Captures

namespace SentinelIR.Loader

open SentinelIR.Py SentinelIR.Common SentinelIR.Alerts SentinelIR.Collector SentinelIR.Rules
open LoadEvents

/-! ## Exceptions and their families -/

/-- How reading a file or a pipe can fail. -/
inductive ReadFault
  /-- `OSError`: it is not there, or cannot be read. -/
  | os
  /-- `UnicodeDecodeError`: its bytes are no UTF-8. -/
  | undecodable
  deriving DecidableEq

/-- The exception a fault raises. -/
def ReadFault.raised : ReadFault → Exc
  | os => .other "OSError"
  | undecodable => .other "UnicodeDecodeError"

/-- `except RuntimeError`, of the exceptions named here. -/
def isRuntimeError : Exc → Bool
  | .recursionError => true
  | _ => false

/-- `except OSError`. -/
def isOSError (raised : Exc) : Bool := raised = ReadFault.os.raised

/-- `except ValueError`. -/
def isValueError : Exc → Bool
  | .valueError | .validation | .malformedEvent _ | .unicodeEncodeError | .jsonDecodeError => true
  | raised => raised = ReadFault.undecodable.raised

/-- Return 1 on the exceptions a handler names, and let the others pass. -/
def guarded {α : Type} (handler : Exc → Bool) (attempted : Except Exc α)
    (next : α → Except Exc Nat) : Except Exc Nat :=
  match attempted with
  | .ok value => next value
  | .error raised => if handler raised then .ok 1 else .error raised

/-- `print` of some lines to standard output, which takes no lone surrogate. -/
def printLines (lines : List Str) : Except Exc Unit :=
  if ∀ line ∈ lines, Encodable line then .ok () else .error .unicodeEncodeError

/-! ## Collecting -/

/-- The line stream of `--file` or `--stdin`: its lines, and what reading on raises
after them. -/
structure LineStream where
  lines : List Str
  fault : Option ReadFault := none

section Collecting

variable [Pydantic] (tooDeep : Str → Bool)

/-- `parse_event_line` on an interpreter that gives up on too deep a nesting. -/
def parseLine (rawLine : Str) : Except Exc (Option SecurityEvent) :=
  if strip rawLine ≠ [] ∧ tooDeep (strip rawLine) then .error .recursionError
  else parseEventLine rawLine

/-- `collect`, on a file or on standard input. -/
def collect (stream : LineStream) : Except Exc EventStore :=
  match mapE (parseLine tooDeep) stream.lines, stream.fault with
  | .error raised, _ => .error raised
  | .ok _, some fault => .error fault.raised
  | .ok events, none => .ok (EventStore.empty.extend (events.filterMap id)).1

end Collecting

/-! ## The entry points -/

/-- The distinct texts of some events, sorted. -/
def distinctSorted (f : SecurityEvent → Str) (events : List SecurityEvent) : List Str :=
  sortedBy id (events.map f).dedup

/-- `', '.join(texts) or 'none'`. -/
def listedOrNone (texts : List Str) : Str :=
  if joinWith ", " texts = [] then "none" else joinWith ", " texts

/-- `_print_summary`. -/
def printSummary (store : EventStore) : Except Exc Unit := do
  let events ← store.allEvents
  let services := distinctSorted (·.serviceName.value) events
  let correlations := distinctSorted (·.correlationId) events
  let eventTypes := distinctSorted (·.eventType.value) events
  printLines
    ["Events collected: " ++ decimal events.length,
      "Distinct services: " ++ decimal services.length ++ " (" ++ listedOrNone services ++ ")",
      "Distinct correlation IDs: " ++ decimal correlations.length,
      "Event types seen: " ++ listedOrNone eventTypes]

/-- `soc.collector.main.main`. -/
def collectorMain [Pydantic] (tooDeep : Str → Bool) (stream : LineStream) : Except Exc Nat :=
  guarded (fun raised => isRuntimeError raised || isOSError raised) (collect tooDeep stream)
    fun store => do
      printSummary store
      return 0

/-- `value or 'not attributed'`. -/
def attributed (value : Option Str) : Str :=
  if value.getD [] = [] then "not attributed" else value.getD []

/-- `_print_alert`. -/
def alertLines (alert : Alert) : List Str :=
  [[], "Alert ID: " ++ alert.alertId, "Rule: " ++ alert.ruleName,
    "Severity: " ++ alert.severity.value, "Status: " ++ alert.status.value,
    "Description: " ++ alert.description,
    "Affected service: " ++ attributed alert.affectedService,
    "Affected user: " ++ attributed alert.affectedUser,
    "Affected entity: " ++ attributed alert.affectedEntity,
    "Related events: " ++ decimal alert.relatedEvents.length,
    "Recommended action: " ++ alert.recommendedAction]

/-- The report of `main` on the alerts it raised and stored. -/
def reportLines (store : EventStore) (now : Datetime) (alerts : List Alert) (stored : Nat) :
    List Str :=
  ["Events evaluated: " ++ decimal store.events.length, "Evaluation moment: " ++ strftime now,
    "Alerts raised: " ++ decimal alerts.length,
    "Alerts stored: " ++ decimal stored ++ " (every related event resolves)"] ++
    alerts.flatMap alertLines

/-- The identifiers `evaluate_all` mints, by their hexadecimal suffixes. -/
def mintedIds (suffixes : Nat → Nat) : AlertIds := fun n => alertIdTag ++ hexPad 12 (suffixes n)

/-- `--file` or `--stdin`. -/
def sourceOf (file : Bool) : Source := if file then .file else .stdin

/-- What `soc.rules.main.main` guards first: the store and the moment. -/
def collectAt [Pydantic] (tooDeep : Str → Bool) (pinned : Option Str) (file : Bool) (clock : Clock)
    (stream : LineStream) : Except Exc (EventStore × Datetime) := do
  let store ← collect tooDeep stream
  let now ← resolveNow pinned (sourceOf file) clock.time store
  return (store, now)

/-- What it goes on with: the evaluation, and the report on what is stored in the
process-wide alert store. -/
def evaluateAndReport [UnicodeDb] (suffixes : Nat → Nat) (held : AlertStore) (store : EventStore)
    (now : Datetime) : Except Exc Nat := do
  let alerts ← evaluateAll (mintedIds suffixes) store now
  guarded isValueError (persistAlerts alerts store held).1 fun stored => do
    printLines (reportLines store now alerts stored)
    return 0

/-- `soc.rules.main.main`. -/
def rulesMain [Pydantic] [UnicodeDb] (tooDeep : Str → Bool) (suffixes : Nat → Nat)
    (held : AlertStore) (pinned : Option Str) (file : Bool) (clock : Clock) (stream : LineStream) :
    Except Exc Nat :=
  guarded (fun raised => isRuntimeError raised || isOSError raised || isValueError raised)
    (collectAt tooDeep pinned file clock stream)
    fun item => evaluateAndReport suffixes held item.1 item.2

/-- What the loader prints without contacting the database. -/
def dryRunLines (store : EventStore) (sources : List (Str × List Write)) : List Str :=
  ("Events collected: " ++ decimal store.events.length) ::
    sources.map (fun source => "Writes for " ++ source.1 ++ ": " ++ decimal source.2.length) ++
    [lit "Dry run: Neo4j not contacted."]

/-- `kg.loader.main.main` with `--dry-run`. -/
def loaderMain [Pydantic] [UnicodeDb] (tooDeep : Str → Bool) (ids : AlertIds) (digest : Digest)
    (clock : Clock) (stream : LineStream) : Except Exc Nat :=
  guarded (fun raised => isRuntimeError raised || isOSError raised || isValueError raised)
    (collect tooDeep stream) fun store => do
      let sources ← collectWrites ids digest clock.time store
      printLines (dryRunLines store sources)
      return 0


/-! ## Streams -/

section Streams

variable [Pydantic] (tooDeep : Str → Bool)

/-- The line is an event, or is skipped. -/
def Clean (line : Str) : Prop := ∃ found, parseLine tooDeep line = .ok found

/-- The events on some lines. -/
def eventsOn (lines : List Str) : List SecurityEvent :=
  lines.filterMap fun line => (parseLine tooDeep line).toOption.join

/-- The stream is read whole, and no line claims to be an event in vain. -/
structure Collected (stream : LineStream) : Prop where
  clean : ∀ line ∈ stream.lines, Clean tooDeep line
  whole : stream.fault = none

/-- Before any other failure a line nests too deep, or the stream cannot be read on. -/
def Interrupted (stream : LineStream) : Prop :=
  (∃ before line after, stream.lines = before ++ line :: after ∧
    (∀ earlier ∈ before, Clean tooDeep earlier) ∧ strip line ≠ [] ∧ tooDeep (strip line) = true) ∨
  (∀ line ∈ stream.lines, Clean tooDeep line) ∧ stream.fault = some .os

variable {tooDeep} {stream : LineStream}

/-- What a line raises: it nests too deep, holds a number with too many digits, or
claims to be an event in vain. -/
theorem parseLine_error {line : Str} {raised : Exc}
    (failed : parseLine tooDeep line = .error raised) :
    (strip line ≠ [] ∧ tooDeep (strip line) = true ∧ raised = .recursionError) ∨
      (¬ (strip line ≠ [] ∧ tooDeep (strip line) = true) ∧
        (raised = .valueError ∨ raised = .malformedEvent (strip line))) := by
  rw [parseLine] at failed
  split at failed
  · next deep => exact .inl ⟨deep.1, deep.2, (Except.error.inj failed).symm⟩
  · next shallow =>
      refine .inr ⟨shallow, ?_⟩
      unfold parseEventLine at failed
      split at failed
      · cases failed
      · split at failed
        · cases failed
        · exact .inl (Except.error.inj failed).symm
        · split at failed
          · split at failed
            · split at failed
              · cases failed
              · exact .inr (Except.error.inj failed).symm
            · exact .inr (Except.error.inj failed).symm
          · cases failed
        · cases failed

theorem filterMap_of_mapE {lines : List Str} {events : List (Option SecurityEvent)}
    (parsed : mapE (parseLine tooDeep) lines = .ok events) :
    events.filterMap id = eventsOn tooDeep lines := by
  have pointwise := forall₂_of_mapE_eq_ok parsed
  clear parsed
  induction pointwise with
  | nil => rfl
  | @cons line found lines events hline _ ih =>
      rw [eventsOn, List.filterMap_cons, List.filterMap_cons, hline, ← eventsOn, ← ih]
      rfl

/-- A collected stream is the store of its events. -/
theorem collect_of_collected (collected : Collected tooDeep stream) :
    collect tooDeep stream = .ok ⟨eventsOn tooDeep stream.lines⟩ := by
  obtain ⟨events, parsed⟩ := exists_mapE_eq_ok collected.clean
  rw [collect, parsed, collected.whole]
  dsimp only
  rw [filterMap_of_mapE parsed]
  rfl

theorem mapE_of_interrupted_line {lines : List Str}
    (interrupted : ∃ before line after, lines = before ++ line :: after ∧
      (∀ earlier ∈ before, Clean tooDeep earlier) ∧ strip line ≠ [] ∧
        tooDeep (strip line) = true) :
    mapE (parseLine tooDeep) lines = .error .recursionError := by
  obtain ⟨before, line, after, split, clean, nonempty, deep⟩ := interrupted
  exact mapE_eq_error_iff.mpr ⟨before, line, after, split, clean, if_pos ⟨nonempty, deep⟩⟩

/-- What collecting raises when a stream is not collected, and when the collector
itself handles it. -/
theorem collect_of_not_collected (failed : ¬ Collected tooDeep stream) :
    ∃ raised, collect tooDeep stream = .error raised ∧
      (isRuntimeError raised || isOSError raised || isValueError raised) = true ∧
      ((isRuntimeError raised || isOSError raised) = true ↔ Interrupted tooDeep stream) := by
  cases parsed : mapE (parseLine tooDeep) stream.lines with
  | ok events =>
      have clean : ∀ line ∈ stream.lines, Clean tooDeep line := exists_mapE_eq_ok_iff.mp ⟨_, parsed⟩
      have whole : stream.fault ≠ none := fun whole => failed ⟨clean, whole⟩
      obtain ⟨fault, hfault⟩ := Option.ne_none_iff_exists'.mp whole
      have undeep : ¬ ∃ before line after, stream.lines = before ++ line :: after ∧
          (∀ earlier ∈ before, Clean tooDeep earlier) ∧ strip line ≠ [] ∧
            tooDeep (strip line) = true := by
        intro deep
        rw [mapE_of_interrupted_line deep] at parsed
        cases parsed
      refine ⟨fault.raised, by rw [collect, parsed, hfault], ?_, ?_⟩
      · cases fault <;> decide
      · rw [Interrupted, hfault, or_iff_right undeep]
        cases fault with
        | os => exact iff_of_true rfl ⟨clean, rfl⟩
        | undecodable => exact iff_of_false (by decide) (by rintro ⟨-, ⟨⟩⟩)
  | error raised =>
      have unclean : ¬ ∀ line ∈ stream.lines, Clean tooDeep line := by
        intro clean
        obtain ⟨events, returned⟩ := exists_mapE_eq_ok clean
        rw [returned] at parsed
        cases parsed
      obtain ⟨before, line, after, split, returns, hline⟩ := mapE_eq_error_iff.mp parsed
      refine ⟨raised, by rw [collect, parsed], ?_⟩
      rcases parseLine_error hline with ⟨nonempty, deep, rfl⟩ | ⟨-, other⟩
      · exact ⟨rfl, iff_of_true rfl (.inl ⟨before, line, after, split, returns, nonempty, deep⟩)⟩
      · have undeep : ¬ Interrupted tooDeep stream := by
          rintro (deep | ⟨clean, -⟩)
          · rw [mapE_of_interrupted_line deep] at parsed
            obtain rfl := Except.error.inj parsed
            rcases other with other | other <;> cases other
          · exact unclean clean
        rcases other with rfl | rfl
        · exact ⟨by decide, iff_of_false (by decide) undeep⟩
        · exact ⟨rfl, iff_of_false Bool.false_ne_true undeep⟩

end Streams

/-! ## Printing -/

theorem encodable_pad2 (n : Nat) : Encodable (pad2 n) := by
  have digit (d : Nat) : isSurrogate (asciiDigit d) = false := by
    have low : ¬ 0xd800 ≤ 48 + d % 10 := by omega
    exact Bool.and_eq_false_iff.mpr (.inl (decide_eq_false low))
  exact List.forall_mem_cons.mpr ⟨digit _, List.forall_mem_singleton.mpr (digit _)⟩

theorem encodable_strftime (now : Datetime) : Encodable (strftime now) := by
  simp only [strftime, encodable_append, encodable_decimal, encodable_pad2, true_and, and_true]
  decide

theorem encodable_mintedIds (suffixes : Nat → Nat) (n : Nat) :
    Encodable (mintedIds suffixes n) :=
  encodable_append.mpr ⟨by decide, encodable_hexPad 12 _⟩

theorem encodable_distinctSorted {f : SecurityEvent → Str}
    (encodable : ∀ event, Encodable (f event))
    (events : List SecurityEvent) : ∀ text ∈ distinctSorted f events, Encodable text := by
  intro text htext
  simp only [distinctSorted, mem_sortedBy, List.mem_dedup, List.mem_map] at htext
  obtain ⟨event, -, rfl⟩ := htext
  exact encodable event

theorem encodable_listedOrNone {texts : List Str} (encodable : ∀ text ∈ texts, Encodable text) :
    Encodable (listedOrNone texts) := by
  rw [listedOrNone]
  split
  · decide
  · exact encodable_joinWith (by decide) encodable

theorem encodable_eventType (eventType : EventType) : Encodable eventType.value := by
  cases eventType <;> decide

/-- The summary prints wherever every timestamp can be read. -/
theorem printSummary_eq (store : EventStore) :
    printSummary store = if Readable store.events then .ok () else .error .valueError := by
  rw [printSummary, EventStore.allEvents, sorted_eq]
  split
  · have services := encodable_listedOrNone (encodable_distinctSorted
      (fun event => encodable_serviceName event.serviceName) (chronological store.events))
    have eventTypes := encodable_listedOrNone (encodable_distinctSorted
      (fun event => encodable_eventType event.eventType) (chronological store.events))
    apply if_pos
    simp only [List.forall_mem_cons, encodable_append, encodable_decimal, services, eventTypes,
      and_true]
    decide
  · rfl

/-! ## When an entry point ends with an exit code -/

section Handled

variable [Pydantic]

/-- The run ends with an exit code: 1, or 0 where the stream was read whole, every line
of it clean and every timestamp readable. -/
def Handled (tooDeep : Str → Bool) (stream : LineStream) (run : Except Exc Nat) : Prop :=
  run = .ok 1 ∨
    run = .ok 0 ∧ Collected tooDeep stream ∧ Readable (eventsOn tooDeep stream.lines)

variable {tooDeep : Str → Bool} {stream : LineStream}

theorem not_handled_error {raised : Exc} : ¬ Handled tooDeep stream (.error raised) := by
  rintro (failed | ⟨failed, -⟩) <;> cases failed

theorem not_interrupted (collected : Collected tooDeep stream) :
    ¬ Interrupted tooDeep stream := by
  rintro (deep | ⟨-, fault⟩)
  · obtain ⟨events, parsed⟩ := exists_mapE_eq_ok collected.clean
    rw [mapE_of_interrupted_line deep] at parsed
    cases parsed
  · rw [collected.whole] at fault
    cases fault

/-- The collector handles what interrupts the reading, and its summary raises where a
timestamp cannot be read. -/
theorem collectorMain_iff :
    Handled tooDeep stream (collectorMain tooDeep stream) ↔
      Interrupted tooDeep stream ∨
        Collected tooDeep stream ∧ Readable (eventsOn tooDeep stream.lines) := by
  by_cases collected : Collected tooDeep stream
  · rw [collectorMain, collect_of_collected collected, guarded, printSummary_eq,
      or_iff_right (not_interrupted collected)]
    dsimp only
    split
    · next readable => exact iff_of_true (.inr ⟨rfl, collected, readable⟩) ⟨collected, readable⟩
    · next unreadable => exact iff_of_false not_handled_error fun h => unreadable h.2
  · obtain ⟨raised, hraised, -, hhandled⟩ := collect_of_not_collected collected
    rw [collectorMain, hraised, guarded, ← hhandled, or_iff_left fun h => collected h.1]
    split
    · next caught => exact iff_of_true (.inl rfl) caught
    · next escapes => exact iff_of_false not_handled_error escapes

section Rules

variable [UnicodeDb]

/-- What the alert of a subject says of it can be printed: its description, and the user
and the entity it names. -/
structure Printable (now : Datetime) (events : List SecurityEvent) (subject : Subject) :
    Prop where
  described : Encodable (subject.alert now events).description
  attributable : Attributable now events subject

/-- The catalogue can be evaluated at the moment, and what it raises can be printed. -/
structure Reportable (now : Datetime) (events : List SecurityEvent) : Prop where
  fits : WindowFits UnauthorisedAccess.detectionWindow now
  readable : Readable events
  printable : ∀ subject : Subject, subject.Over now events → Printable now events subject

omit [Pydantic] [UnicodeDb] in
/-- The moment of evaluation fails to resolve with a `ValueError` only. -/
theorem resolveNow_error {pinned : Option Str} {source : Source} {clock : Datetime}
    {store : EventStore} {raised : Exc}
    (failed : resolveNow pinned source clock store = .error raised) : raised = .valueError := by
  have parse {value : Str} {other : Exc} (unparsed : parseTimestamp value = .error other) :
      other = .valueError := by
    rw [parseTimestamp] at unparsed
    split at unparsed
    · cases unparsed
    · exact (Except.error.inj unparsed).symm
  cases pinned with
  | some moment => exact parse failed
  | none =>
      cases source with
      | file =>
          by_cases readable : Readable store.events
          · rw [resolveNow_file readable] at failed
            cases failed
          · rw [resolveNow, latestEventTime, EventStore.allEvents, sorted_eq, if_neg readable]
              at failed
            exact (Except.error.inj failed).symm
      | _ => cases failed

omit [Pydantic] [UnicodeDb] in
theorem encodable_recommendedAction (subject : Subject) :
    Encodable subject.info.recommendedAction := by
  have logins : Encodable FailedLogins.info.recommendedAction := by decide +kernel
  have refusals : Encodable UnauthorisedAccess.info.recommendedAction := by decide +kernel
  have rates : Encodable AbnormalRate.info.recommendedAction := by decide +kernel
  have failures : Encodable ServiceFailure.info.recommendedAction := by decide +kernel
  cases subject with
  | account _ => exact logins
  | address _ => exact logins
  | refused _ => exact refusals
  | source _ => exact rates
  | service _ => exact failures

omit [Pydantic] [UnicodeDb] in
theorem encodable_attributed_iff {value : Option Str} :
    Encodable (attributed value) ↔ Encodable (value.getD []) := by
  rw [attributed]
  split
  · next missing =>
      rw [missing]
      exact iff_of_true (by decide) encodable_nil
  · rfl

omit [Pydantic] in
/-- Of an alert, only the description, the user and the entity can hold what cannot be
printed. -/
theorem encodable_alertLines_iff {now : Datetime} {events : List SecurityEvent} {subject : Subject}
    (hover : subject.Over now events) {alert : Alert}
    (fields : alert.toAlertFields = subject.alert now events)
    (identifier : Encodable alert.alertId) :
    (∀ line ∈ alertLines alert, Encodable line) ↔ Printable now events subject := by
  have severity : Encodable alert.severity.value := by cases alert.severity <;> decide
  have status : Encodable alert.status.value := by cases alert.status <;> decide
  have rule : Encodable alert.ruleName := by
    rw [fields]
    exact encodable_ruleName subject
  have service : Encodable (attributed alert.affectedService) := by
    rw [fields, encodable_attributed_iff, Subject.alert_affectedService]
    exact encodable_affectedService hover
  have action : Encodable alert.recommendedAction := by
    rw [fields]
    exact encodable_recommendedAction subject
  have labels : Encodable "Alert ID: " ∧ Encodable "Rule: " ∧ Encodable "Severity: " ∧
      Encodable "Status: " ∧ Encodable "Description: " ∧ Encodable "Affected service: " ∧
      Encodable "Affected user: " ∧ Encodable "Affected entity: " ∧
      Encodable "Related events: " ∧ Encodable "Recommended action: " := by
    decide
  have lines : (∀ line ∈ alertLines alert, Encodable line) ↔
      Encodable alert.description ∧ Encodable (attributed alert.affectedUser) ∧
        Encodable (attributed alert.affectedEntity) := by
    simp only [alertLines, List.forall_mem_cons, encodable_append, encodable_nil, encodable_decimal,
      identifier, rule, severity, status, service, action, labels, true_and]
    exact and_congr_right fun _ => and_congr_right fun _ =>
      and_iff_left fun line hline => absurd hline List.not_mem_nil
  rw [lines, encodable_attributed_iff, encodable_attributed_iff, fields,
    Subject.alert_affectedUser, Subject.alert_affectedEntity]
  constructor
  · rintro ⟨described, user, entity⟩
    exact ⟨described, user, entity⟩
  · intro printable
    exact ⟨printable.described, printable.attributable⟩

omit [Pydantic] in
/-- The report prints exactly when every alert does. -/
theorem encodable_reportLines_iff {suffixes : Nat → Nat} {store : EventStore} {now : Datetime}
    {alerts : List Alert} (stored : Nat)
    (hevaluate : evaluateAll (mintedIds suffixes) store now = .ok alerts) :
    (∀ line ∈ reportLines store now alerts stored, Encodable line) ↔
      ∀ subject : Subject, subject.Over now store.events →
        Printable now store.events subject := by
  have front : ∀ line ∈ ["Events evaluated: " ++ decimal store.events.length,
      "Evaluation moment: " ++ strftime now, "Alerts raised: " ++ decimal alerts.length,
      "Alerts stored: " ++ decimal stored ++ " (every related event resolves)"],
      Encodable line := by
    simp only [List.forall_mem_cons, encodable_append, encodable_decimal, encodable_strftime,
      and_true]
    decide
  have identifier : ∀ alert ∈ alerts, Encodable alert.alertId := by
    intro alert halert
    obtain ⟨bodies, -, rfl⟩ : ∃ bodies, evaluateBodies store now = .ok bodies ∧
        attachIds (mintedIds suffixes) bodies = alerts := by
      rw [evaluateAll] at hevaluate
      cases hbodies : evaluateBodies store now with
      | error raised =>
          rw [hbodies] at hevaluate
          cases hevaluate
      | ok bodies =>
          rw [hbodies] at hevaluate
          exact ⟨bodies, rfl, Except.ok.inj hevaluate⟩
    obtain ⟨i, hi, rfl⟩ := List.mem_mapIdx.mp halert
    exact encodable_mintedIds suffixes i
  rw [reportLines, List.forall_mem_append, and_iff_right front]
  simp only [List.mem_flatMap, forall_exists_index, and_imp]
  have fields := evaluateAll_eq_ok hevaluate
  constructor
  · intro printed subject hover
    obtain ⟨alert, halert, hfields⟩ := exists_mem_of_over fields hover
    exact (encodable_alertLines_iff hover hfields (identifier alert halert)).mp
      fun line hline => printed line alert halert hline
  · intro printable line alert halert hline
    obtain ⟨subject, hover, hfields⟩ := exists_subject_of_mem hevaluate halert
    exact (encodable_alertLines_iff hover hfields (identifier alert halert)).mpr
      (printable subject hover) line hline

omit [Pydantic] in
/-- The evaluation returns and is reported, or an exception escapes. -/
theorem evaluateAndReport_eq (suffixes : Nat → Nat) (held : AlertStore) (store : EventStore)
    (now : Datetime) :
    (evaluateAndReport suffixes held store now = .ok 0 ∧ Reportable now store.events) ∨
      (∃ raised, evaluateAndReport suffixes held store now = .error raised) ∧
        ¬ Reportable now store.events := by
  by_cases good : WindowFits UnauthorisedAccess.detectionWindow now ∧ Readable store.events
  · obtain ⟨alerts, halerts⟩ := evaluated_of_fits (mintedIds suffixes) good.1 good.2
    have run : evaluateAndReport suffixes held store now =
        (printLines (reportLines store now alerts (held.extend alerts).2)).bind fun _ => .ok 0 := by
      unfold evaluateAndReport
      rw [bind_of_eq_ok halerts, persistAlerts_of_evaluated held halerts]
      rfl
    have printed := encodable_reportLines_iff (held.extend alerts).2 halerts
    rw [run, printLines]
    split
    · next encodable => exact .inl ⟨rfl, good.1, good.2, printed.mp encodable⟩
    · next unencodable =>
        exact .inr ⟨⟨_, rfl⟩, fun reportable => unencodable (printed.mpr reportable.printable)⟩
  · obtain ⟨raised, hraised⟩ := evaluateBodies_raises good
    have failed : evaluateAll (mintedIds suffixes) store now = .error raised :=
      congrArg (Except.map _) hraised
    refine .inr ⟨⟨raised, ?_⟩, fun reportable => good ⟨reportable.fits, reportable.readable⟩⟩
    unfold evaluateAndReport
    rw [failed]
    rfl

omit [UnicodeDb] in
theorem collectAt_of_collected {pinned : Option Str} {file : Bool} {clock : Clock}
    (collected : Collected tooDeep stream) :
    collectAt tooDeep pinned file clock stream =
      (resolveNow pinned (sourceOf file) clock.time ⟨eventsOn tooDeep stream.lines⟩).bind
        fun now => .ok (⟨eventsOn tooDeep stream.lines⟩, now) := by
  unfold collectAt
  rw [bind_of_eq_ok (collect_of_collected collected)]
  rfl

/-- The runner handles what keeps the stream from being collected or the moment from
being resolved, and nothing after that. -/
theorem rulesMain_iff (suffixes : Nat → Nat) (held : AlertStore) (pinned : Option Str)
    (file : Bool) (clock : Clock) :
    Handled tooDeep stream (rulesMain tooDeep suffixes held pinned file clock stream) ↔
      ¬ Collected tooDeep stream ∨
        ∀ now, resolveNow pinned (sourceOf file) clock.time ⟨eventsOn tooDeep stream.lines⟩ =
            .ok now →
          Reportable now (eventsOn tooDeep stream.lines) := by
  by_cases collected : Collected tooDeep stream
  · rw [or_iff_right (not_not.mpr collected), rulesMain, collectAt_of_collected collected]
    cases hnow : resolveNow pinned (sourceOf file) clock.time ⟨eventsOn tooDeep stream.lines⟩ with
    | error raised =>
        have caught : (isRuntimeError raised || isOSError raised || isValueError raised) =
            true := by
          rw [resolveNow_error hnow]
          decide
        exact iff_of_true (.inl (if_pos caught)) (by rintro now ⟨⟩)
    | ok now =>
        simp only [Except.ok.injEq, forall_eq']
        rcases evaluateAndReport_eq suffixes held ⟨eventsOn tooDeep stream.lines⟩ now with
          ⟨run, reportable⟩ | ⟨⟨raised, run⟩, unreportable⟩
        · exact iff_of_true (.inr ⟨run, collected, reportable.readable⟩) reportable
        · refine iff_of_false ?_ unreportable
          change ¬ Handled tooDeep stream (evaluateAndReport suffixes held _ now)
          rw [run]
          exact not_handled_error
  · obtain ⟨raised, hraised, caught, -⟩ := collect_of_not_collected collected
    refine iff_of_true (.inl ?_) (.inl collected)
    have attempted : collectAt tooDeep pinned file clock stream = .error raised := by
      unfold collectAt
      rw [hraised]
      rfl
    rw [rulesMain, attempted]
    exact if_pos caught

/-- The loader handles what keeps the stream from being collected, and nothing after
that. -/
theorem loaderMain_iff (ids : AlertIds) (digest : Digest) (clock : Clock) :
    Handled tooDeep stream (loaderMain tooDeep ids digest clock stream) ↔
      ¬ Collected tooDeep stream ∨
        LoadableUnder digest (latest clock.time (eventsOn tooDeep stream.lines))
          (eventsOn tooDeep stream.lines) := by
  by_cases collected : Collected tooDeep stream
  · rw [or_iff_right (not_not.mpr collected), loaderMain, collect_of_collected collected, guarded]
    have returns : (∃ sources, collectWrites ids digest clock.time
        ⟨eventsOn tooDeep stream.lines⟩ = .ok sources) ↔ _ := exists_collectWrites_iff_loadableUnder
    rw [← returns]
    cases hsources : collectWrites ids digest clock.time ⟨eventsOn tooDeep stream.lines⟩ with
    | error raised =>
        exact iff_of_false not_handled_error (by rintro ⟨sources, ⟨⟩⟩)
    | ok sources =>
        obtain ⟨now, raised, alerts, events, hnow, -, -, -, rfl⟩ := exists_of_collectWrites hsources
        have printed : ∀ line ∈ dryRunLines ⟨eventsOn tooDeep stream.lines⟩
            [(lit "topology", LoadTopology.topology), (lit "events", events),
              (lit "security-knowledge", LoadSecurityKnowledge.knowledge)], Encodable line := by
          simp only [dryRunLines, List.map_cons, List.map_nil, List.cons_append, List.nil_append,
            List.forall_mem_cons, encodable_append, encodable_decimal, and_true]
          decide
        refine iff_of_true (.inr ⟨?_, collected, (returns.mp ⟨_, hsources⟩).readable⟩) ⟨_, rfl⟩
        simp only [bind, Except.bind, printLines, if_pos printed]
        rfl
  · obtain ⟨raised, hraised, caught, -⟩ := collect_of_not_collected collected
    refine iff_of_true (.inl ?_) (.inl collected)
    rw [loaderMain, hraised]
    exact if_pos caught

end Rules

end Handled

section ExitCodes

variable [Pydantic] [UnicodeDb]

/-- For every stream and clock, when each of the three entry points ends with an exit
code: the collector on streams whose reading is interrupted by what it names and on
those it can summarise, the runner and the loader on streams that are not collected and
on those they can evaluate. -/
theorem entry_points_handle_iff (tooDeep : Str → Bool) (suffixes : Nat → Nat) (held : AlertStore)
    (pinned : Option Str) (file : Bool) (ids : AlertIds) (digest : Digest) (clock : Clock)
    (stream : LineStream) :
    (Handled tooDeep stream (collectorMain tooDeep stream) ↔
      Interrupted tooDeep stream ∨
        Collected tooDeep stream ∧ Readable (eventsOn tooDeep stream.lines)) ∧
    (Handled tooDeep stream (rulesMain tooDeep suffixes held pinned file clock stream) ↔
      ¬ Collected tooDeep stream ∨
        ∀ now, resolveNow pinned (sourceOf file) clock.time ⟨eventsOn tooDeep stream.lines⟩ =
            .ok now →
          Reportable now (eventsOn tooDeep stream.lines)) ∧
    (Handled tooDeep stream (loaderMain tooDeep ids digest clock stream) ↔
      ¬ Collected tooDeep stream ∨
        LoadableUnder digest (latest clock.time (eventsOn tooDeep stream.lines))
          (eventsOn tooDeep stream.lines)) :=
  ⟨collectorMain_iff, rulesMain_iff suffixes held pinned file clock,
    loaderMain_iff ids digest clock⟩

end ExitCodes

/-! ## A malformed line -/

/-- A line that claims to be an event and has nothing else. -/
def bareLine : Str := lit "\x7b\"eventType\": 1\x7d"

theorem parseEventLine_bareLine : letI := integersOnly
    parseEventLine bareLine = .error (.malformedEvent bareLine) := by
  decide +kernel

/-- The collector lets the reader's exception escape. -/
theorem malformed_line_escapes : letI := integersOnly; letI := printsAll
    ¬ ∀ (tooDeep : Str → Bool) (suffixes : Nat → Nat) (held : AlertStore) (pinned : Option Str)
      (file : Bool) (ids : AlertIds) (digest : Digest) (clock : Clock) (stream : LineStream),
      Handled tooDeep stream (collectorMain tooDeep stream) ∧
        Handled tooDeep stream (rulesMain tooDeep suffixes held pinned file clock stream) ∧
        Handled tooDeep stream (loaderMain tooDeep ids digest clock stream) := by
  let _ := integersOnly
  let _ := printsAll
  intro handles
  have handled := (handles (fun _ => false) id AlertStore.empty none true (fun _ => alertIdTag)
    burstDigest (second 1) ⟨[bareLine], none⟩).1
  have parsed : parseLine (fun _ => false) bareLine = .error (.malformedEvent bareLine) :=
    (if_neg (by simp)).trans parseEventLine_bareLine
  have run : collectorMain (fun _ => false) ⟨[bareLine], none⟩ =
      .error (.malformedEvent bareLine) := by
    rw [collectorMain, collect, mapE, parsed]
    rfl
  rw [run] at handled
  exact not_handled_error handled

end SentinelIR.Loader
