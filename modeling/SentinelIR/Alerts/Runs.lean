/-
# Runs of the alert store

What a run of additions, clearings and status changes leaves is a partial map from
identifiers to alerts: the last alert added under an identifier, in the status it was
last moved to. The dictionary holds that map, and a listing reads it off, so no
operation loses, repeats or touches an alert it does not name.
-/

import SentinelIR.Alerts.Store

namespace SentinelIR.Alerts

open SentinelIR.Py SentinelIR.Common

/-! ## Operations -/

/-- An operation of the store. -/
inductive StoreOperation
  | add (alert : Alert)
  | extend (alerts : List Alert)
  | clear
  | setStatus (alertId : Str) (status : AlertStatus)

namespace AlertStore

variable [UnicodeDb]

/-- The store an operation leaves. A refused status change leaves it as it was. -/
def perform (store : AlertStore) : StoreOperation → AlertStore
  | .add alert => store.add alert
  | .extend alerts => (store.extend alerts).1
  | .clear => empty
  | .setStatus alertId status =>
      match store.setStatus alertId status with
      | .ok changed => changed.2
      | .error _ => store

/-- The store a run leaves, from an empty one. -/
def after (operations : List StoreOperation) : AlertStore := operations.foldl perform empty

end AlertStore

/-! ## What is held -/

/-- The alerts by their identifiers. -/
abbrev Held := Str → Option Alert

/-- An operation on the alerts held. -/
def Held.perform (held : Held) : StoreOperation → Held
  | .add alert => Function.update held alert.alertId (some alert)
  | .extend alerts =>
      alerts.foldl (fun held alert => Function.update held alert.alertId (some alert)) held
  | .clear => fun _ => none
  | .setStatus alertId status =>
      Function.update held alertId ((held alertId).map (·.withStatus status))

/-- What a run leaves, from nothing. -/
def Held.after (operations : List StoreOperation) : Held :=
  operations.foldl Held.perform fun _ => none

namespace AlertStore

/-- The store holds these alerts, each under its own identifier. -/
structure Holds (store : AlertStore) (held : Held) : Prop where
  lookup : store.alerts.get? = held
  keyed : store.Keyed

theorem holds_empty : empty.Holds fun _ => none := ⟨rfl, keyed_empty⟩

section Holds

variable {store : AlertStore} {held : Held} (holds : store.Holds held)

include holds

theorem Holds.mem_entries {alertId : Str} {alert : Alert} :
    (alertId, alert) ∈ store.alerts.entries ↔ held alertId = some alert := by
  rw [← holds.lookup, Dict.get?, Dict.lookup_eq_some_iff store.alerts.nodup]

theorem Holds.alertId_of_held {alertId : Str} {alert : Alert} (found : held alertId = some alert) :
    alert.alertId = alertId :=
  holds.keyed alertId alert (holds.mem_entries.mpr found)

theorem Holds.set (alert : Alert) :
    Holds ⟨store.alerts.set alert.alertId alert⟩
      (Function.update held alert.alertId (some alert)) where
  lookup := by
    funext alertId
    rw [Dict.get?_set, Function.update_apply, holds.lookup]
  keyed := holds.keyed.add alert

theorem Holds.extend (alerts : List Alert) :
    (store.extend alerts).1.Holds
      (alerts.foldl (fun held alert => Function.update held alert.alertId (some alert)) held) := by
  induction alerts generalizing store held with
  | nil => exact holds
  | cons alert alerts ih => exact ih (holds.set alert)

variable [UnicodeDb]

/-- A status change of a held alert replaces it by its copy. -/
theorem Holds.setStatus_of_held {alertId : Str} {alert : Alert} (status : AlertStatus)
    (found : held alertId = some alert) :
    store.setStatus alertId status =
      .ok (alert.withStatus status, ⟨store.alerts.set alertId (alert.withStatus status)⟩) := by
  have lookup : store.alerts.get? alertId = some alert := by rw [holds.lookup, found]
  rw [AlertStore.setStatus, AlertStore.get, lookup]
  rfl

/-- A status change of any other alert is refused. -/
theorem Holds.setStatus_of_absent {alertId : Str} (status : AlertStatus)
    (absent : held alertId = none) :
    store.setStatus alertId status =
      .error (.sentinel
        { kind := .notFound
          message := "No alert with id " ++ Py.repr alertId ++ "."
          details := [(lit "alertId", .text alertId)] }) := by
  have lookup : store.alerts.get? alertId = none := by rw [holds.lookup, absent]
  rw [AlertStore.setStatus, AlertStore.get, lookup]
  rfl

/-- One operation on the store is that operation on the alerts held. -/
theorem Holds.perform (operation : StoreOperation) :
    (store.perform operation).Holds (held.perform operation) := by
  cases operation with
  | add alert => exact holds.set alert
  | extend alerts => exact holds.extend alerts
  | clear => exact holds_empty
  | setStatus alertId status =>
      rw [AlertStore.perform, Held.perform]
      cases found : held alertId with
      | none =>
          rw [holds.setStatus_of_absent status found, Option.map_none, ← found,
            Function.update_eq_self]
          exact holds
      | some alert =>
          rw [holds.setStatus_of_held status found, Option.map_some]
          obtain rfl := holds.alertId_of_held found
          exact holds.set (alert.withStatus status)

end Holds

/-- A run on the store is that run on the alerts held. -/
theorem holds_after [UnicodeDb] (operations : List StoreOperation) :
    (after operations).Holds (Held.after operations) := by
  induction operations using List.reverseRecOn with
  | nil => exact holds_empty
  | append_singleton operations operation ih =>
      rw [after, Held.after, List.foldl_append, List.foldl_append]
      exact ih.perform operation

/-! ## What the store answers -/

/-- The alert passes every filter that is given. -/
def Matching (severity : Option Severity) (affectedService : Option Str)
    (status : Option AlertStatus) (alert : Alert) : Prop :=
  (∀ wanted ∈ severity, alert.severity = wanted) ∧
    (∀ wanted ∈ affectedService, alert.affectedService = some wanted) ∧
      ∀ wanted ∈ status, alert.status = wanted

/-- Strictly newer, by timestamp and then identifier. -/
def Newer (first second : Alert) : Prop :=
  second.timestamp < first.timestamp ∨
    second.timestamp = first.timestamp ∧ second.alertId < first.alertId

/-- An alert moved to a status: it has that status, and every other field as before. -/
structure Moved (alert : Alert) (status : AlertStatus) (updated : Alert) : Prop where
  status : updated.status = status
  others : { updated.toAlertFields with status := alert.status } = alert.toAlertFields
  alertId : updated.alertId = alert.alertId

theorem moved_withStatus (alert : Alert) (status : AlertStatus) :
    Moved alert status (alert.withStatus status) := ⟨rfl, rfl, rfl⟩

/-- What a store that holds some alerts answers to each call. -/
structure Answers [UnicodeDb] (store : AlertStore) (held : Held) : Prop where
  listed : ∀ severity affectedService status alert,
    alert ∈ store.list severity affectedService status ↔
      (∃ alertId, held alertId = some alert) ∧ Matching severity affectedService status alert
  newestFirst : ∀ severity affectedService status,
    (store.list severity affectedService status).Pairwise Newer
  distinct : ∀ severity affectedService status,
    ((store.list severity affectedService status).map (·.alertId)).Nodup
  changed : ∀ alertId status alert, held alertId = some alert → ∃ updated changed,
    store.setStatus alertId status = .ok (updated, changed) ∧ Moved alert status updated ∧
      changed.alerts.get? = Function.update held alertId (some updated)
  refused : ∀ alertId status, held alertId = none →
    (∃ error : SentinelError, error.kind = .notFound ∧
      store.setStatus alertId status = .error (.sentinel error)) ∧
        store.perform (.setStatus alertId status) = store
  counted : ∀ alerts, (store.extend alerts).2 =
    ((alerts.map (·.alertId)).dedup.filter fun alertId => held alertId = none).length

section Answers

variable {store : AlertStore} {held : Held} (holds : store.Holds held)

omit holds in
theorem matching_iff {severity : Option Severity} {affectedService : Option Str}
    {status : Option AlertStatus} {alert : Alert} :
    (severity.all (alert.severity == ·) && affectedService.all (alert.affectedService == some ·) &&
        status.all (alert.status == ·)) = true ↔
      Matching severity affectedService status alert := by
  simp only [Bool.and_eq_true, Option.all_eq_true, beq_iff_eq, Matching, and_assoc, Option.mem_def]

include holds

theorem Holds.mem_list {severity : Option Severity} {affectedService : Option Str}
    {status : Option AlertStatus} {alert : Alert} :
    alert ∈ store.list severity affectedService status ↔
      (∃ alertId, held alertId = some alert) ∧ Matching severity affectedService status alert := by
  rw [list, newestFirst, mem_sortedDescBy, List.mem_filter, matching_iff, Dict.mem_values_iff,
    holds.lookup]

theorem Holds.nodup_list (severity : Option Severity) (affectedService : Option Str)
    (status : Option AlertStatus) :
    ((store.list severity affectedService status).map (·.alertId)).Nodup := by
  have values : (store.alerts.values.map (·.alertId)).Nodup := by
    rw [map_alertId_values holds.keyed]
    exact store.alerts.nodup
  rw [list, newestFirst, ((perm_sortedDescBy _ _).map _).nodup_iff]
  exact values.sublist (List.filter_sublist.map _)

/-- Equal timestamps and identifiers are excluded, so the order is strict. -/
theorem Holds.pairwise_list (severity : Option Severity) (affectedService : Option Str)
    (status : Option AlertStatus) :
    (store.list severity affectedService status).Pairwise Newer := by
  have apart := List.pairwise_map.mp (holds.nodup_list severity affectedService status)
  have ordered : (store.list severity affectedService status).Pairwise fun first second =>
      toLex (second.timestamp, second.alertId) ≤ toLex (first.timestamp, first.alertId) :=
    pairwise_sortedDescBy _ _
  apply (ordered.and apart).imp
  intro first second both
  rcases Prod.Lex.le_iff.mp both.1 with older | ⟨same, below⟩
  · exact .inl older
  · exact .inr ⟨same, lt_of_le_of_ne below (Ne.symm both.2)⟩

/-- An extension adds the identifiers that were not held, whatever is repeated. -/
theorem Holds.snd_extend (alerts : List Alert) :
    (store.extend alerts).2 =
      ((alerts.map (·.alertId)).dedup.filter fun alertId => held alertId = none).length := by
  have fresh (alertId : Str) : alertId ∉ store.alerts.keys ↔ held alertId = none := by
    rw [← holds.lookup, ← Dict.get?_isSome_iff, Option.not_isSome_iff_eq_none]
  have keys := (perm_foldl_appendNew store.alerts.nodup (alerts.map (·.alertId))).length_eq
  have grown := congrArg List.length (keys_extend store alerts)
  have counted : (store.extend alerts).2 =
      (store.extend alerts).1.alerts.keys.length - store.alerts.keys.length := by
    rw [Dict.keys, Dict.keys, List.length_map, List.length_map]
    rfl
  rw [counted, grown]
  change ((alerts.map (·.alertId)).foldl appendNew store.alerts.keys).length = _ at keys
  rw [keys, List.length_append]
  simp only [Dict.keys, List.length_map, Nat.add_sub_cancel_left]
  congr 1
  apply List.filter_congr
  intro alertId _
  exact decide_eq_decide.mpr (fresh alertId)

variable [UnicodeDb]

/-- Holding some alerts decides every answer. -/
theorem Holds.answers : store.Answers held where
  listed severity affectedService status alert := holds.mem_list
  newestFirst severity affectedService status := holds.pairwise_list severity affectedService status
  distinct severity affectedService status := holds.nodup_list severity affectedService status
  changed alertId status alert found := by
    refine ⟨_, _, holds.setStatus_of_held status found, moved_withStatus alert status, ?_⟩
    funext other
    rw [Dict.get?_set, Function.update_apply, holds.lookup]
  refused alertId status absent := by
    have refusal := holds.setStatus_of_absent status absent
    refine ⟨⟨_, rfl, refusal⟩, ?_⟩
    rw [AlertStore.perform, refusal]
  counted alerts := holds.snd_extend alerts

end Answers

/-- After every run the store answers each call by the alerts the run left. -/
theorem answers_after [UnicodeDb] (operations : List StoreOperation) :
    (after operations).Answers (Held.after operations) := by
  exact (holds_after operations).answers

end AlertStore

end SentinelIR.Alerts
