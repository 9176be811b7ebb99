/-
# Whose refusals Rule 2 counts

Rule 2 is about callers: a user the refusal names, or else the address it came from.
The rule groups by the text of either, and by a literal when there is neither, so a
user, an address and nobody share one group when their texts coincide. Where they do
not, every alert is about one caller and rests on that caller's refusals.
-/

import SentinelIR.Rules.Counting

namespace SentinelIR.Rules.UnauthorisedAccess

open SentinelIR.Py SentinelIR.Common SentinelIR.Alerts SentinelIR.Collector

/-- Who was refused: a user, or an address when no user is named. -/
inductive Caller
  | user (userId : Str)
  | address (sourceIp : Str)
  deriving DecidableEq

/-- The user id or the address of the caller. -/
def Caller.text : Caller → Str
  | user userId => userId
  | address sourceIp => sourceIp

/-- The caller a refusal is about. An empty user id or address names nobody. -/
def callerOf (event : SecurityEvent) : Option Caller :=
  match event.userId, event.sourceIp with
  | some (c :: userId), _ => some (.user (c :: userId))
  | _, some (c :: sourceIp) => some (.address (c :: sourceIp))
  | _, _ => none

/-- The grouping key knows the caller's text only. -/
theorem subjectOf_eq (event : SecurityEvent) :
    subjectOf event = ((callerOf event).map Caller.text).getD "unattributed" := by
  unfold subjectOf callerOf
  generalize event.userId = userId
  generalize event.sourceIp = sourceIp
  rcases userId with _ | _ | ⟨c, userId⟩
  · rcases sourceIp with _ | _ | ⟨c, sourceIp⟩ <;> rfl
  · rcases sourceIp with _ | _ | ⟨c, sourceIp⟩ <;> rfl
  · rfl

theorem subjectOf_of_caller {event : SecurityEvent} {caller : Caller}
    (named : callerOf event = some caller) : subjectOf event = caller.text := by
  rw [subjectOf_eq, named]
  rfl

/-- The windowed refusals. -/
def recent (now : Datetime) (events : List SecurityEvent) : List SecurityEvent :=
  evidence isRefusal detectionWindow now events

/-- The windowed refusals of a caller, oldest first. -/
def refusalsOf (caller : Caller) (now : Datetime) (events : List SecurityEvent) :
    List SecurityEvent :=
  (recent now events).filter fun event => callerOf event = some caller

/-- The windowed refusals under a text, whoever they are about. -/
def refusalsUnder (text : Str) (now : Datetime) (events : List SecurityEvent) :
    List SecurityEvent :=
  (recent now events).filter fun event => subjectOf event = text

/-- The alert cites the caller's own refusals and is `HIGH` when one of them was on a
privileged route. -/
def ReportsCaller (now : Datetime) (events : List SecurityEvent) (caller : Caller)
    (alert : AlertFields) : Prop :=
  alert.relatedEvents = (refusalsOf caller now events).map (·.eventId) ∧
    alert.severity =
      if ∃ event ∈ refusalsOf caller now events, isPrivileged event.endpoint = true then .high
      else .medium

/-- The rule returns one alert for each caller with three windowed refusals, and what
it counts together is about one caller. -/
def RaisesPerCaller (store : EventStore) (now : Datetime) : Prop :=
  (∃ alerts : List (Caller × AlertBody), evaluate store now = .ok (alerts.map Prod.snd) ∧
    OnePerKey (fun caller => 3 ≤ (refusalsOf caller now store.events).length)
      (ReportsCaller now store.events) alerts) ∧
  ∀ item ∈ overThreshold (recent now store.events), ∃ caller,
    ∀ event ∈ item.2, callerOf event = some caller

/-- A text with three windowed refusals is the user id of all of them, or the address
of all of them and none names a user. -/
def Unmixed (now : Datetime) (events : List SecurityEvent) : Prop :=
  ∀ text, 3 ≤ (refusalsUnder text now events).length →
    (∀ event ∈ refusalsUnder text now events, callerOf event = some (.user text)) ∨
      ∀ event ∈ refusalsUnder text now events, callerOf event = some (.address text)

section Callers

variable {now : Datetime} {events : List SecurityEvent}

theorem mem_over {item : Str × List SecurityEvent} :
    item ∈ overThreshold (recent now events) ↔
      item.2 = refusalsUnder item.1 now events ∧ 3 ≤ item.2.length := mem_overThreshold

/-- What is counted together is about one caller exactly when no text with three
refusals is mixed. -/
theorem unmixed_iff : Unmixed now events ↔
    ∀ item ∈ overThreshold (recent now events), ∃ caller,
      ∀ event ∈ item.2, callerOf event = some caller := by
  constructor
  · intro unmixed item hitem
    obtain ⟨group, reached⟩ := mem_over.mp hitem
    rw [group] at reached ⊢
    rcases unmixed item.1 reached with users | addresses
    · exact ⟨_, users⟩
    · exact ⟨_, addresses⟩
  · intro single text reached
    obtain ⟨caller, same⟩ := single (text, refusalsUnder text now events)
      (mem_over.mpr ⟨rfl, reached⟩)
    obtain ⟨event, hevent⟩ := List.exists_mem_of_length_pos (Nat.zero_lt_of_lt reached)
    have named : subjectOf event = text := of_decide_eq_true (List.mem_filter.mp hevent).2
    rw [subjectOf_of_caller (same event hevent)] at named
    cases caller with
    | user userId =>
        obtain rfl : userId = text := named
        exact .inl same
    | address sourceIp =>
        obtain rfl : sourceIp = text := named
        exact .inr same

/-- Under a caller's text stand the caller's refusals, and no other when they are all
about one caller. -/
theorem refusalsUnder_eq {caller other : Caller} {event : SecurityEvent}
    (hevent : event ∈ refusalsUnder caller.text now events)
    (named : callerOf event = some caller)
    (same : ∀ event ∈ refusalsUnder caller.text now events, callerOf event = some other) :
    refusalsUnder caller.text now events = refusalsOf caller now events := by
  obtain rfl : caller = other := Option.some.inj (named.symm.trans (same event hevent))
  refine List.filter_congr fun event hrecent => decide_eq_decide.mpr ⟨fun under => ?_, ?_⟩
  · exact same event (List.mem_filter.mpr ⟨hrecent, decide_eq_true under⟩)
  · exact subjectOf_of_caller

theorem refusalsOf_sublist (caller : Caller) :
    (refusalsOf caller now events).Sublist (refusalsUnder caller.text now events) := by
  apply List.monotone_filter_right _
  intro event owned
  exact decide_eq_true (subjectOf_of_caller (of_decide_eq_true owned))

/-- The caller of a group, read off its first refusal. -/
def callerOfGroup (item : Str × List SecurityEvent) : Caller :=
  ((item.2.head?).bind callerOf).getD (.user item.1)

/-- In an unmixed window each group is the refusals of its caller. -/
theorem group_of_unmixed (unmixed : Unmixed now events) {item : Str × List SecurityEvent}
    (hitem : item ∈ overThreshold (recent now events)) :
    (callerOfGroup item).text = item.1 ∧
      item.2 = refusalsOf (callerOfGroup item) now events := by
  obtain ⟨caller, same⟩ := unmixed_iff.mp unmixed item hitem
  obtain ⟨group, reached⟩ := mem_over.mp hitem
  obtain ⟨text, members⟩ := item
  obtain rfl : members = refusalsUnder text now events := group
  dsimp only at same reached ⊢
  obtain ⟨first, rest, split⟩ := List.exists_cons_of_ne_nil
    (List.ne_nil_of_length_pos (Nat.zero_lt_of_lt reached))
  have hfirst : first ∈ refusalsUnder text now events := by
    rw [split]
    exact List.mem_cons_self
  have chosen : callerOfGroup (text, refusalsUnder text now events) = caller := by
    rw [callerOfGroup, split, List.head?_cons, Option.bind_some, same first hfirst]
    rfl
  have named : caller.text = text := by
    rw [← subjectOf_of_caller (same first hfirst)]
    exact of_decide_eq_true (List.mem_filter.mp hfirst).2
  rw [chosen]
  refine ⟨named, ?_⟩
  obtain rfl := named
  exact refusalsUnder_eq hfirst (same first hfirst) same

theorem mem_callers_iff (unmixed : Unmixed now events) {caller : Caller} :
    caller ∈ (overThreshold (recent now events)).map callerOfGroup ↔
      3 ≤ (refusalsOf caller now events).length := by
  constructor
  · intro hcaller
    obtain ⟨item, hitem, rfl⟩ := List.mem_map.mp hcaller
    rw [← (group_of_unmixed unmixed hitem).2]
    exact (mem_over.mp hitem).2
  · intro reached
    have enough : 3 ≤ (refusalsUnder caller.text now events).length :=
      reached.trans (refusalsOf_sublist caller).length_le
    have hitem : (caller.text, refusalsUnder caller.text now events) ∈
        overThreshold (recent now events) := mem_over.mpr ⟨rfl, enough⟩
    obtain ⟨event, hevent⟩ := List.exists_mem_of_length_pos (Nat.zero_lt_of_lt reached)
    have under := (refusalsOf_sublist caller).subset hevent
    have own := (group_of_unmixed unmixed hitem).2
    dsimp only at own
    rw [own] at under
    have first : callerOf event = some caller := of_decide_eq_true (List.mem_filter.mp hevent).2
    have second : callerOf event = some _ := of_decide_eq_true (List.mem_filter.mp under).2
    exact List.mem_map.mpr ⟨_, hitem, Option.some.inj (second.symm.trans first)⟩

theorem nodup_callers (unmixed : Unmixed now events) :
    ((overThreshold (recent now events)).map callerOfGroup).Nodup := by
  apply List.Nodup.of_map Caller.text
  have texts : ((overThreshold (recent now events)).map callerOfGroup).map Caller.text =
      (overThreshold (recent now events)).map Prod.fst := by
    rw [List.map_map]
    exact List.map_congr_left fun item hitem => (group_of_unmixed unmixed hitem).1
  rw [texts]
  exact nodup_overThreshold _

theorem severity_finding (subject : Str) (refusals : List SecurityEvent) :
    (alertFields info now (finding subject refusals)).severity =
      if ∃ event ∈ refusals, isPrivileged event.endpoint = true then .high else .medium := by
  have privileged : (endpointsOf refusals).filter isPrivileged = [] ↔
      ¬ ∃ event ∈ refusals, isPrivileged event.endpoint = true := by
    simp [List.filter_eq_nil_iff, endpointsOf]
  simp only [alertFields, finding]
  by_cases probed : ∃ event ∈ refusals, isPrivileged event.endpoint = true
  · rw [if_neg (mt privileged.mp (not_not_intro probed)), if_pos probed]
    rfl
  · rw [if_pos (privileged.mpr probed), if_neg probed]
    rfl

end Callers

/-- Over events with readable timestamps the rule raises what it is to raise exactly
when the window does not start before the first moment and no text with three windowed
refusals is mixed. -/
theorem raisesPerCaller_iff (store : EventStore) (now : Datetime)
    (readable : Readable store.events) :
    RaisesPerCaller store now ↔
      WindowFits detectionWindow now ∧ Unmixed now store.events := by
  constructor
  · rintro ⟨⟨alerts, returned, -⟩, single⟩
    refine ⟨?_, unmixed_iff.mpr single⟩
    exact windowFits_of_returned returned
  · rintro ⟨fits, unmixed⟩
    refine ⟨?_, unmixed_iff.mp unmixed⟩
    obtain ⟨bodies, returned, fields⟩ := evaluate_eq store fits readable
    obtain ⟨alerts, rfl, perCaller⟩ := exists_onePerKey
      (fun caller => 3 ≤ (refusalsOf caller now store.events).length)
      (ReportsCaller now store.events) callerOfGroup fields (nodup_callers unmixed)
      (fun _ => mem_callers_iff unmixed) fun item hitem => by
        have own := (group_of_unmixed unmixed hitem).2
        refine ⟨?_, ?_⟩
        · rw [← own]
          rfl
        · rw [severity_finding, ← own]
    exact ⟨alerts, returned, perCaller⟩

/-- Two refusals of a user whose id reads like an address, and one without a user from
that address. -/
def lookalikes : EventStore :=
  ⟨[occurrence 1 .gateway .unauthorisedAccess 403 (some "203.0.113.9") (some "198.51.100.7")
      forbidden_known,
    occurrence 2 .gateway .unauthorisedAccess 403 (some "203.0.113.9") (some "198.51.100.7")
      forbidden_known,
    occurrence 3 .gateway .unauthorisedAccess 401 none (some "203.0.113.9") unauthorised_known]⟩

theorem raisesPerCaller_lookalikes : RaisesPerCaller lookalikes (daybreak 3).time ↔
    WindowFits detectionWindow (daybreak 3).time ∧ Unmixed (daybreak 3).time lookalikes.events :=
  raisesPerCaller_iff lookalikes (daybreak 3).time (by decide +kernel)

theorem mixed_lookalikes : ∃ item ∈ overThreshold (recent (daybreak 3).time lookalikes.events),
    ∃ first ∈ item.2, ∃ second ∈ item.2, callerOf first ≠ callerOf second := by
  decide +kernel

/-- The user's refusals and the address's are counted together. -/
theorem lookalikes_pooled : ¬ ∀ (store : EventStore) (now : Datetime),
    Readable store.events → RaisesPerCaller store now := by
  intro always
  obtain ⟨-, single⟩ := always lookalikes (daybreak 3).time (by decide +kernel)
  obtain ⟨item, hitem, first, hfirst, second, hsecond, apart⟩ := mixed_lookalikes
  obtain ⟨caller, same⟩ := single item hitem
  exact apart ((same first hfirst).trans (same second hsecond).symm)

end SentinelIR.Rules.UnauthorisedAccess
