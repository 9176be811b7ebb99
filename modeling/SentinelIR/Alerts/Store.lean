/-
# The alert store

The in-process store the alert interface serves from: a dictionary of alerts by
identifier. Adding an alert under an identifier that is held already replaces
the held one, and a listing is the matching alerts, newest first.
-/

import SentinelIR.Alerts.Models
import SentinelIR.Py.Dict
import SentinelIR.Py.Sorted

namespace SentinelIR.Alerts

open SentinelIR.Py SentinelIR.Common

/-- The `AlertStore`. -/
structure AlertStore where
  alerts : Dict Str Alert

namespace AlertStore

/-- `AlertStore()`, and what `clear` leaves. -/
def empty : AlertStore := ⟨Dict.empty⟩

/-- `__len__`. -/
def length (store : AlertStore) : Nat := store.alerts.entries.length

/-- `add`. -/
def add (store : AlertStore) (alert : Alert) : AlertStore :=
  ⟨store.alerts.set alert.alertId alert⟩

/-- `extend`, with the number of identifiers added. -/
def extend (store : AlertStore) (alerts : List Alert) : AlertStore × Nat :=
  let after := alerts.foldl add store
  (after, after.length - store.length)

/-- `get`. -/
def get (store : AlertStore) (alertId : Str) [UnicodeDb] : Except Exc Alert :=
  match store.alerts.get? alertId with
  | some alert => .ok alert
  | none =>
      .error (.sentinel
        { kind := .notFound
          message := "No alert with id " ++ Py.repr alertId ++ "."
          details := [(lit "alertId", .text alertId)] })

/-- `_newest_first`. -/
def newestFirst (alerts : List Alert) : List Alert :=
  sortedDescBy (fun alert => toLex (alert.timestamp, alert.alertId)) alerts

/-- `list`; a filter that is `None` is not applied. -/
def list (store : AlertStore) (severity : Option Severity) (affectedService : Option Str)
    (status : Option AlertStatus) : List Alert :=
  newestFirst (store.alerts.values.filter fun alert =>
    severity.all (alert.severity == ·) &&
      affectedService.all (alert.affectedService == some ·) && status.all (alert.status == ·))

/-- `set_status`. -/
def setStatus (store : AlertStore) (alertId : Str) (status : AlertStatus) [UnicodeDb] :
    Except Exc (Alert × AlertStore) := do
  let current ← store.get alertId
  let updated := current.withStatus status
  return (updated, ⟨store.alerts.set alertId updated⟩)

/-- `resolve_events`. -/
def resolveEvents (store : AlertStore) (alertId : Str) [UnicodeDb] : Except Exc (List Str) := do
  return (← store.get alertId).relatedEvents

/-! ## What the store holds -/

/-- Adding keys the alert by its identifier. -/
theorem keys_add (store : AlertStore) (alert : Alert) :
    (store.add alert).alerts.keys = appendNew store.alerts.keys alert.alertId :=
  Dict.keys_set store.alerts alert.alertId alert

/-- Every alert is held under its own identifier. -/
def Keyed (store : AlertStore) : Prop :=
  ∀ alertId alert, (alertId, alert) ∈ store.alerts.entries → alert.alertId = alertId

theorem keyed_empty : empty.Keyed := by
  rintro alertId alert ⟨⟩

theorem Keyed.add {store : AlertStore} (keyed : store.Keyed) (alert : Alert) :
    (store.add alert).Keyed := by
  intro alertId held hheld
  rw [AlertStore.add, Dict.mem_entries_set] at hheld
  split at hheld
  case isTrue same => rw [hheld, same]
  case isFalse => exact keyed alertId held hheld

theorem Keyed.extend {store : AlertStore} (keyed : store.Keyed) (alerts : List Alert) :
    (store.extend alerts).1.Keyed := by
  induction alerts generalizing store with
  | nil => exact keyed
  | cons alert alerts ih => exact ih (keyed.add alert)

/-- The identifiers held after an extension. -/
theorem keys_extend (store : AlertStore) (alerts : List Alert) :
    (store.extend alerts).1.alerts.keys =
      (alerts.map (·.alertId)).foldl appendNew store.alerts.keys := by
  induction alerts generalizing store with
  | nil => rfl
  | cons alert alerts ih =>
      have step := ih (store.add alert)
      rw [keys_add] at step
      exact step

theorem alerts_extend (store : AlertStore) (alerts : List Alert) :
    (store.extend alerts).1.alerts =
      alerts.foldl (fun held alert => held.set alert.alertId alert) store.alerts := by
  induction alerts generalizing store with
  | nil => rfl
  | cons alert alerts ih => exact ih (store.add alert)

/-- Extending by alerts under new, distinct identifiers adds every one. -/
theorem keys_extend_fresh {store : AlertStore} {alerts : List Alert}
    (distinct : (alerts.map (·.alertId)).Nodup)
    (fresh : ∀ alert ∈ alerts, alert.alertId ∉ store.alerts.keys) :
    (store.extend alerts).1.alerts.keys = store.alerts.keys ++ alerts.map (·.alertId) := by
  rw [keys_extend]
  apply foldl_appendNew_fresh distinct
  intro k hk
  obtain ⟨alert, halert, rfl⟩ := List.mem_map.mp hk
  exact fresh alert halert

/-- After an extension an identifier leads to the last alert under it, or else to
what was held. -/
theorem get?_extend (store : AlertStore) (alerts : List Alert) (k : Str) :
    (store.extend alerts).1.alerts.get? k =
      (alerts.reverse.find? fun alert => alert.alertId = k).or (store.alerts.get? k) := by
  induction alerts using List.reverseRecOn with
  | nil => rfl
  | append_singleton alerts alert ih =>
      have step : (store.extend (alerts ++ [alert])).1.alerts =
          (store.extend alerts).1.alerts.set alert.alertId alert := by
        rw [alerts_extend, alerts_extend, List.foldl_append]
        rfl
      rw [step, Dict.get?_set, ih, List.reverse_append, List.reverse_singleton,
        List.singleton_append, List.find?_cons]
      by_cases same : alert.alertId = k
      · simp [same]
      · simp [same, Ne.symm same]

theorem eq_empty_of_entries {store : AlertStore} (nothing : store.alerts.entries = []) :
    store = empty := by
  obtain ⟨entries, nodup⟩ := store
  cases nothing
  rfl

theorem snd_extend_fresh {store : AlertStore} {alerts : List Alert}
    (distinct : (alerts.map (·.alertId)).Nodup)
    (fresh : ∀ alert ∈ alerts, alert.alertId ∉ store.alerts.keys) :
    (store.extend alerts).2 = alerts.length := by
  have keys := congrArg List.length (keys_extend_fresh distinct fresh)
  simp only [Dict.keys, List.length_map, List.length_append] at keys
  have counted : (store.extend alerts).2 =
      (store.extend alerts).1.alerts.entries.length - store.alerts.entries.length := rfl
  omega

/-- The last added alert with an identifier is found under it. -/
theorem exists_find?_reverse {alerts : List Alert} {alert : Alert} (halert : alert ∈ alerts) :
    ∃ held ∈ alerts, held.alertId = alert.alertId ∧
      alerts.reverse.find? (fun other => other.alertId = alert.alertId) = some held := by
  cases hfound : alerts.reverse.find? (fun other => other.alertId = alert.alertId) with
  | none =>
      have absent := List.find?_eq_none.mp hfound alert (List.mem_reverse.mpr halert)
      simp at absent
  | some held =>
      have hheld := List.mem_reverse.mp (List.mem_of_find?_eq_some hfound)
      have same := List.find?_some hfound
      exact ⟨held, hheld, of_decide_eq_true same, rfl⟩

/-- Under distinct identifiers every added alert is found. -/
theorem get?_extend_of_mem {store : AlertStore} {alerts : List Alert}
    (distinct : (alerts.map (·.alertId)).Nodup) {alert : Alert} (halert : alert ∈ alerts) :
    (store.extend alerts).1.alerts.get? alert.alertId = some alert := by
  obtain ⟨held, hheld, same, hfound⟩ := exists_find?_reverse halert
  rw [get?_extend, hfound, List.inj_on_of_nodup_map distinct hheld halert same]
  rfl

/-- An alert just added leads to one under its identifier. -/
theorem exists_get?_extend (store : AlertStore) {alerts : List Alert} {alert : Alert}
    (halert : alert ∈ alerts) :
    ∃ held, (store.extend alerts).1.alerts.get? alert.alertId = some held := by
  obtain ⟨held, -, -, hfound⟩ := exists_find?_reverse halert
  rw [get?_extend, hfound]
  exact ⟨held, rfl⟩

theorem map_alertId_values {store : AlertStore} (keyed : store.Keyed) :
    store.alerts.values.map (·.alertId) = store.alerts.keys := by
  rw [Dict.values, Dict.keys, List.map_map]
  exact List.map_congr_left fun item hitem => keyed item.1 item.2 hitem

/-- Without filters a listing holds every alert once. -/
theorem perm_list (store : AlertStore) :
    (store.list none none none).Perm store.alerts.values := by
  have all : store.alerts.values.filter (fun alert =>
      (none : Option Severity).all (alert.severity == ·) &&
        (none : Option Str).all (alert.affectedService == some ·) &&
          (none : Option AlertStatus).all (alert.status == ·)) = store.alerts.values :=
    List.filter_eq_self.mpr fun _ _ => rfl
  rw [list, all]
  exact perm_sortedDescBy _ _

/-- A fresh store lists, for each identifier, the alert that came last. -/
theorem mem_list_extend {alerts : List Alert} {alert : Alert} :
    alert ∈ (empty.extend alerts).1.list none none none ↔
      ∃ k, alerts.reverse.find? (fun other => other.alertId = k) = some alert := by
  rw [(perm_list _).mem_iff, Dict.mem_values_iff, alerts_extend]
  exact exists_congr fun k => by rw [← Dict.get?_foldl_set, empty]

/-- A fresh store lists one alert for each distinct identifier. -/
theorem perm_alertId_list_extend (alerts : List Alert) :
    (((empty.extend alerts).1.list none none none).map (·.alertId)).Perm
      ((alerts.map (·.alertId)).foldl appendNew []) := by
  have values := map_alertId_values (keyed_empty.extend alerts)
  rw [keys_extend] at values
  exact ((perm_list _).map _).trans (List.Perm.of_eq values)

/-- Alerts with distinct identifiers are all listed. -/
theorem perm_list_extend {alerts : List Alert} (distinct : (alerts.map (·.alertId)).Nodup) :
    ((empty.extend alerts).1.list none none none).Perm alerts := by
  have listed : (((empty.extend alerts).1.list none none none).map (·.alertId)).Nodup :=
    (perm_alertId_list_extend alerts).nodup_iff.mpr (nodup_foldl_appendNew List.nodup_nil)
  rw [List.perm_ext_iff_of_nodup (List.Nodup.of_map _ listed) (List.Nodup.of_map _ distinct)]
  intro alert
  rw [mem_list_extend]
  constructor
  · rintro ⟨k, found⟩
    exact List.mem_reverse.mp (List.mem_of_find?_eq_some found)
  · intro halert
    obtain ⟨held, hheld, same, found⟩ := exists_find?_reverse halert
    rw [List.inj_on_of_nodup_map distinct hheld halert same] at found
    exact ⟨_, found⟩

/-- A listing as long as what was added leaves no identifier out. -/
theorem nodup_of_length_list_extend {alerts : List Alert}
    (full : ((empty.extend alerts).1.list none none none).length = alerts.length) :
    (alerts.map (·.alertId)).Nodup := by
  have kept := (perm_alertId_list_extend alerts).length_eq
  rw [List.length_map, full, ← List.length_map (·.alertId)] at kept
  have among : (alerts.map (·.alertId)).foldl appendNew [] ⊆ alerts.map (·.alertId) := by
    intro alertId hmem
    exact (mem_foldl_appendNew.mp hmem).resolve_left List.not_mem_nil
  have each := List.subperm_of_subset (nodup_foldl_appendNew List.nodup_nil) among
  exact perm_foldl_appendNew_iff.mp (each.perm_of_length_le (le_of_eq kept))

end AlertStore

end SentinelIR.Alerts
