/-
# Python dictionaries and grouping

A dictionary keeps its keys distinct and in the order they were first set. Both
facts are built in: distinctness is a field, order is the order of the entries.

The one idiom every detection rule rests on is the grouping loop
`grouped.setdefault(key(x), []).append(x)`; its specification is
`mem_groupBy`, which says that the loop partitions its input.
-/

import SentinelIR.Py.Str

namespace SentinelIR.Py

universe u v w

variable {κ : Type u} {α : Type v} {β : Type w}

/-- Keep a list of distinct keys in the order they first came. -/
def appendNew [DecidableEq κ] (keys : List κ) (k : κ) : List κ :=
  if k ∈ keys then keys else keys ++ [k]

section AppendNew

variable [DecidableEq κ]

theorem mem_foldl_appendNew {keys xs : List κ} {k : κ} :
    k ∈ xs.foldl appendNew keys ↔ k ∈ keys ∨ k ∈ xs := by
  induction xs generalizing keys with
  | nil => simp
  | cons x xs ih =>
      rw [List.foldl_cons, ih, appendNew]
      by_cases held : x ∈ keys
      · rw [if_pos held, List.mem_cons]
        constructor
        · rintro (old | later)
          · exact .inl old
          · exact .inr (.inr later)
        · rintro (old | rfl | later)
          · exact .inl old
          · exact .inl held
          · exact .inr later
      · rw [if_neg held, List.mem_append, List.mem_singleton, List.mem_cons, or_assoc]

/-- New, distinct keys are appended in order. -/
theorem foldl_appendNew_fresh {keys xs : List κ} (distinct : xs.Nodup)
    (fresh : ∀ x ∈ xs, x ∉ keys) : xs.foldl appendNew keys = keys ++ xs := by
  induction xs generalizing keys with
  | nil => simp
  | cons x xs ih =>
      obtain ⟨first, rest⟩ := List.nodup_cons.mp distinct
      have added : appendNew keys x = keys ++ [x] := by
        rw [appendNew, if_neg (fresh x List.mem_cons_self)]
      rw [List.foldl_cons, added, ih rest]
      · simp
      · intro y hy hmem
        rcases List.mem_append.mp hmem with held | same
        · exact fresh y (List.mem_cons_of_mem x hy) held
        · obtain rfl := List.mem_singleton.mp same
          exact first hy

theorem nodup_foldl_appendNew {keys xs : List κ} (nodup : keys.Nodup) :
    (xs.foldl appendNew keys).Nodup := by
  induction xs generalizing keys with
  | nil => exact nodup
  | cons x xs ih =>
      apply ih
      rw [appendNew]
      split
      case isTrue => exact nodup
      case isFalse fresh =>
          rw [List.nodup_append]
          refine ⟨nodup, List.nodup_singleton x, ?_⟩
          rintro key hkey other hother rfl
          exact fresh (List.mem_singleton.mp hother ▸ hkey)

/-- Distinct keys are all kept, and only distinct keys are. -/
theorem perm_foldl_appendNew_iff {xs : List κ} : (xs.foldl appendNew []).Perm xs ↔ xs.Nodup := by
  have distinct : (xs.foldl appendNew []).Nodup := nodup_foldl_appendNew List.nodup_nil
  constructor
  · intro kept
    exact kept.nodup_iff.mp distinct
  · intro nodup
    rw [List.perm_ext_iff_of_nodup distinct nodup]
    intro k
    simp [mem_foldl_appendNew]

/-- The new keys are those that were not there, each once. -/
theorem perm_foldl_appendNew {keys : List κ} (nodup : keys.Nodup) (xs : List κ) :
    (xs.foldl appendNew keys).Perm (keys ++ xs.dedup.filter fun x => x ∉ keys) := by
  have fresh : (keys ++ xs.dedup.filter fun x => x ∉ keys).Nodup := by
    rw [List.nodup_append]
    refine ⟨nodup, (List.nodup_dedup xs).filter _, ?_⟩
    rintro key hkey other hother rfl
    exact of_decide_eq_true (List.mem_filter.mp hother).2 hkey
  rw [List.perm_ext_iff_of_nodup (nodup_foldl_appendNew nodup) fresh]
  intro k
  by_cases held : k ∈ keys <;> simp [mem_foldl_appendNew, held]

end AppendNew

/-- A dictionary: distinct keys, in insertion order. -/
@[ext]
structure Dict (κ : Type u) (α : Type v) where
  /-- The items, oldest key first. -/
  entries : List (κ × α)
  /-- No key occurs twice. -/
  nodup : (entries.map Prod.fst).Nodup

namespace Dict

/-- The empty dictionary. -/
def empty : Dict κ α := ⟨[], List.nodup_nil⟩

/-- The keys, oldest first. -/
def keys (d : Dict κ α) : List κ := d.entries.map Prod.fst

/-- The values, in key order. -/
def values (d : Dict κ α) : List α := d.entries.map Prod.snd

@[simp]
theorem entries_empty : (empty : Dict κ α).entries = [] := rfl

variable [DecidableEq κ]

/-- `d.get(k)`. -/
def get? (d : Dict κ α) (k : κ) : Option α := d.entries.lookup k

/-- Change the value at `k`, or add one at the end when the key is new. -/
def alterEntries (k : κ) (change : Option α → α) : List (κ × α) → List (κ × α)
  | [] => [(k, change none)]
  | (key, value) :: rest =>
      if key = k then (key, change (some value)) :: rest
      else (key, value) :: alterEntries k change rest

theorem map_fst_alterEntries (k : κ) (change : Option α → α) (entries : List (κ × α)) :
    (alterEntries k change entries).map Prod.fst = appendNew (entries.map Prod.fst) k := by
  induction entries with
  | nil => rfl
  | cons entry rest ih =>
      obtain ⟨key, value⟩ := entry
      by_cases found : key = k
      · simp [alterEntries, appendNew, found]
      · simp only [alterEntries, if_neg found, List.map_cons, ih, appendNew, List.mem_cons,
          Ne.symm found, false_or]
        split <;> rfl

theorem nodup_alterEntries {k : κ} {change : Option α → α} {entries : List (κ × α)}
    (nodup : (entries.map Prod.fst).Nodup) :
    ((alterEntries k change entries).map Prod.fst).Nodup := by
  have single : ([k].foldl appendNew (entries.map Prod.fst)).Nodup := nodup_foldl_appendNew nodup
  rwa [map_fst_alterEntries]

/-- Update one key, leaving the others and their order alone. -/
def alter (d : Dict κ α) (k : κ) (change : Option α → α) : Dict κ α :=
  ⟨alterEntries k change d.entries, nodup_alterEntries d.nodup⟩

/-- `d[k] = value`. -/
def set (d : Dict κ α) (k : κ) (value : α) : Dict κ α := d.alter k fun _ => value

/-- `d.setdefault(k, []).append(x)`. -/
def append (d : Dict κ (List β)) (k : κ) (x : β) : Dict κ (List β) :=
  d.alter k fun old => old.getD [] ++ [x]

/-- Membership after an update: the changed key has its new value, every other
key keeps its own. -/
theorem mem_alterEntries {k key : κ} {change : Option α → α} {value : α}
    {entries : List (κ × α)} (nodup : (entries.map Prod.fst).Nodup) :
    (key, value) ∈ alterEntries k change entries ↔
      if key = k then value = change (entries.lookup k) else (key, value) ∈ entries := by
  induction entries with
  | nil => by_cases same : key = k <;> simp [alterEntries, same]
  | cons entry rest ih =>
      obtain ⟨head, first⟩ := entry
      rw [List.map_cons, List.nodup_cons] at nodup
      by_cases found : head = k
      · subst found
        simp only [alterEntries, if_true, List.mem_cons, Prod.mk.injEq, List.lookup_cons,
          beq_self_eq_true]
        by_cases same : key = head
        · subst same
          have absent : (key, value) ∉ rest := fun member =>
            nodup.1 (List.mem_map.mpr ⟨_, member, rfl⟩)
          simp [absent]
        · simp [same]
      · have other : (k == head) = false := beq_eq_false_iff_ne.mpr (Ne.symm found)
        simp only [alterEntries, if_neg found, List.mem_cons, Prod.mk.injEq, ih nodup.2,
          List.lookup_cons, other]
        by_cases same : key = k
        · subst same
          simp [Ne.symm found]
        · simp [same]

/-- The keys after setting one: the old ones, and the new one last if it is new. -/
theorem keys_set (d : Dict κ α) (k : κ) (value : α) :
    (d.set k value).keys = appendNew d.keys k :=
  map_fst_alterEntries k _ d.entries

theorem mem_entries_set {d : Dict κ α} {k key : κ} {value held : α} :
    (key, held) ∈ (d.set k value).entries ↔
      if key = k then held = value else (key, held) ∈ d.entries :=
  mem_alterEntries d.nodup

theorem lookup_cons_eq (entry : κ × α) (rest : List (κ × α)) (key : κ) :
    (entry :: rest).lookup key = if key = entry.1 then some entry.2 else rest.lookup key := by
  obtain ⟨head, first⟩ := entry
  rw [List.lookup_cons]
  by_cases same : key = head
  · simp [same]
  · simp [same, beq_eq_false_iff_ne.mpr same]

theorem lookup_alterEntries (k key : κ) (change : Option α → α) (entries : List (κ × α)) :
    (alterEntries k change entries).lookup key =
      if key = k then some (change (entries.lookup k)) else entries.lookup key := by
  induction entries with
  | nil => rw [alterEntries, lookup_cons_eq]; rfl
  | cons entry rest ih =>
      obtain ⟨head, first⟩ := entry
      rw [alterEntries]
      by_cases found : head = k
      · subst found
        rw [if_pos rfl, lookup_cons_eq, lookup_cons_eq, lookup_cons_eq, if_pos rfl]
        split <;> rfl
      · rw [if_neg found, lookup_cons_eq, ih, lookup_cons_eq, lookup_cons_eq,
          if_neg (Ne.symm found)]
        by_cases same : key = head
        · rw [if_pos same, if_pos same, if_neg (same ▸ found)]
        · rw [if_neg same, if_neg same]

/-- Reading back after setting one key. -/
theorem get?_set (d : Dict κ α) (k key : κ) (value : α) :
    (d.set k value).get? key = if key = k then some value else d.get? key :=
  lookup_alterEntries k key _ d.entries

/-- `d.pop(k, None)`: the dictionary without one key. -/
def erase (d : Dict κ α) (k : κ) : Dict κ α :=
  ⟨d.entries.filter fun entry => entry.1 ≠ k, d.nodup.sublist (List.filter_sublist.map Prod.fst)⟩

theorem lookup_filter_ne (k key : κ) (entries : List (κ × α)) :
    (entries.filter fun entry => entry.1 ≠ k).lookup key =
      if key = k then none else entries.lookup key := by
  induction entries with
  | nil => simp
  | cons entry rest ih =>
      by_cases found : entry.1 = k
      · rw [List.filter_cons_of_neg (by simpa using found), ih, lookup_cons_eq, found]
        split <;> rfl
      · rw [List.filter_cons_of_pos (by simpa using found), lookup_cons_eq, ih, lookup_cons_eq]
        by_cases same : key = entry.1
        · rw [if_pos same, if_pos same, if_neg (same ▸ found)]
        · rw [if_neg same, if_neg same]

theorem get?_erase (d : Dict κ α) (k key : κ) :
    (d.erase k).get? key = if key = k then none else d.get? key :=
  lookup_filter_ne k key d.entries

theorem lookup_eq_some_iff {entries : List (κ × α)} (nodup : (entries.map Prod.fst).Nodup)
    {k : κ} {value : α} : entries.lookup k = some value ↔ (k, value) ∈ entries := by
  induction entries with
  | nil => simp
  | cons entry rest ih =>
      obtain ⟨head, first⟩ := entry
      rw [List.map_cons, List.nodup_cons] at nodup
      by_cases found : k = head
      · subst found
        have absent : (k, value) ∉ rest := fun member =>
          nodup.1 (List.mem_map.mpr ⟨_, member, rfl⟩)
        simp [absent, eq_comm]
      · have other : (k == head) = false := beq_eq_false_iff_ne.mpr found
        simp [List.lookup_cons, other, ih nodup.2, found]

theorem get?_isSome_iff {d : Dict κ α} {k : κ} : (d.get? k).isSome = true ↔ k ∈ d.keys := by
  obtain ⟨entries, nodup⟩ := d
  simp only [get?, keys]
  clear nodup
  induction entries with
  | nil => simp
  | cons entry rest ih =>
      rw [lookup_cons_eq, List.map_cons, List.mem_cons]
      by_cases same : k = entry.1
      · simp [same]
      · simp [same, ih]

theorem keys_foldl_set {items : List (κ × α)} (d : Dict κ α) :
    (items.foldl (fun d item => d.set item.1 item.2) d).keys =
      (items.map Prod.fst).foldl appendNew d.keys := by
  induction items generalizing d with
  | nil => rfl
  | cons item rest ih => rw [List.foldl_cons, ih, keys_set, List.map_cons, List.foldl_cons]

/-- Setting elements under their keys, one after the other: each key keeps the
element set last. -/
theorem get?_foldl_set {xs : List α} {key : α → κ} {k : κ} :
    (xs.foldl (fun d x => d.set (key x) x) empty).get? k =
      xs.reverse.find? fun x => key x = k := by
  induction xs using List.reverseRecOn with
  | nil => rfl
  | append_singleton xs last ih =>
      rw [List.foldl_append, List.foldl_cons, List.foldl_nil, get?_set, ih, List.reverse_append,
        List.reverse_singleton, List.singleton_append, List.find?_cons]
      by_cases same : k = key last
      · simp [same]
      · simp [same, Ne.symm same]

theorem mem_values_iff {d : Dict κ α} {x : α} : x ∈ d.values ↔ ∃ k, d.get? k = some x := by
  simp only [values, List.mem_map, get?, Prod.exists, exists_eq_right]
  exact exists_congr fun k => (lookup_eq_some_iff d.nodup).symm

end Dict

/-- `sorted(d.items())`: the keys are distinct, so only they are compared. -/
def Dict.sortedItems [LinearOrder κ] (d : Dict κ α) : List (κ × α) :=
  d.entries.insertionSort fun first second => first.1 ≤ second.1

theorem Dict.mem_sortedItems [LinearOrder κ] {d : Dict κ α} {item : κ × α} :
    item ∈ d.sortedItems ↔ item ∈ d.entries := by
  simp [Dict.sortedItems]

theorem Dict.nodup_sortedItems [LinearOrder κ] (d : Dict κ α) :
    (d.sortedItems.map Prod.fst).Nodup :=
  ((List.perm_insertionSort _ d.entries).map Prod.fst).nodup_iff.mpr d.nodup

/-- Python's grouping loop: bucket each element under its key, skip the elements
without one. -/
def groupBy [DecidableEq κ] (key : β → Option κ) (xs : List β) : Dict κ (List β) :=
  xs.foldl (fun grouped x => match key x with
    | none => grouped
    | some k => grouped.append k x) Dict.empty

section GroupBy

variable [DecidableEq κ] (key : β → Option κ)

/-- The grouping loop partitions its input: the group of a key is the sublist of
the elements carrying it, in order, and a key without elements has no group. -/
theorem mem_groupBy {xs : List β} {k : κ} {group : List β} :
    (k, group) ∈ (groupBy key xs).entries ↔
      group ≠ [] ∧ group = xs.filter fun x => key x = some k := by
  induction xs using List.reverseRecOn generalizing k group with
  | nil => simp [groupBy]
  | append_singleton xs x ih =>
      have step : groupBy key (xs ++ [x]) = match key x with
          | none => groupBy key xs
          | some k => (groupBy key xs).append k x := by
        simp [groupBy]
      rw [step]
      cases hkey : key x with
      | none => simp [ih, List.filter_append, hkey]
      | some target =>
          have lookup : ((groupBy key xs).entries.lookup target).getD [] =
              xs.filter fun x => key x = some target := by
            cases found : (groupBy key xs).entries.lookup target with
            | some held =>
                exact (ih.mp ((Dict.lookup_eq_some_iff (groupBy key xs).nodup).mp found)).2
            | none =>
                by_contra missing
                have member := ih.mpr ⟨Ne.symm missing, rfl⟩
                rw [← Dict.lookup_eq_some_iff (groupBy key xs).nodup, found] at member
                cases member
          simp only [Dict.append, Dict.alter, Dict.mem_alterEntries (groupBy key xs).nodup,
            List.filter_append, lookup]
          by_cases same : k = target
          · subst same
            simp only [if_true, hkey, decide_true, List.filter_cons_of_pos, List.filter_nil]
            constructor
            · rintro rfl
              exact ⟨List.append_ne_nil_of_right_ne_nil _ (List.cons_ne_nil x []), rfl⟩
            · exact fun group => group.2
          · have differ : ¬ target = k := fun h => same h.symm
            simp [same, ih, hkey, differ]

/-- Looking a key up, with the empty list as default, filters the input. -/
theorem getD_get?_groupBy (xs : List β) (k : κ) :
    ((groupBy key xs).get? k).getD [] = xs.filter fun x => key x = some k := by
  cases found : (groupBy key xs).get? k with
  | some held =>
      rw [Dict.get?, Dict.lookup_eq_some_iff (groupBy key xs).nodup, mem_groupBy] at found
      exact found.2
  | none =>
      by_contra missing
      have member := (mem_groupBy key).mpr ⟨Ne.symm missing, rfl⟩
      rw [← Dict.lookup_eq_some_iff (groupBy key xs).nodup] at member
      rw [Dict.get?, member] at found
      cases found

theorem mem_keys_groupBy {xs : List β} {k : κ} :
    k ∈ (groupBy key xs).keys ↔ ∃ x ∈ xs, key x = some k := by
  constructor
  · intro hkey
    obtain ⟨⟨held, group⟩, hentry, rfl⟩ := List.mem_map.mp hkey
    obtain ⟨nonempty, rfl⟩ := (mem_groupBy key).mp hentry
    obtain ⟨x, hx⟩ := List.exists_mem_of_ne_nil _ nonempty
    obtain ⟨hmem, hk⟩ := List.mem_filter.mp hx
    exact ⟨x, hmem, of_decide_eq_true hk⟩
  · rintro ⟨x, hx, hk⟩
    have nonempty : (xs.filter fun x => key x = some k) ≠ [] :=
      List.ne_nil_of_mem (List.mem_filter.mpr ⟨hx, decide_eq_true hk⟩)
    exact List.mem_map.mpr ⟨_, (mem_groupBy key).mpr ⟨nonempty, rfl⟩, rfl⟩

/-- The sorted items of a grouping, cut to some of the groups. -/
theorem mem_filter_sortedItems [LinearOrder κ] {xs : List β} {keep : κ × List β → Bool}
    {item : κ × List β} (nonempty : keep item = true → item.2 ≠ []) :
    item ∈ (groupBy key xs).sortedItems.filter keep ↔
      item.2 = (xs.filter fun x => key x = some item.1) ∧ keep item = true := by
  obtain ⟨k, group⟩ := item
  rw [List.mem_filter, Dict.mem_sortedItems, mem_groupBy]
  constructor
  · rintro ⟨⟨-, hgroup⟩, hkeep⟩
    exact ⟨hgroup, hkeep⟩
  · rintro ⟨hgroup, hkeep⟩
    exact ⟨⟨nonempty hkeep, hgroup⟩, hkeep⟩

end GroupBy

/-! ## One value for each key -/

/-- Of items under distinct keys only one is under a key. -/
theorem flatMap_eq_of_key {items : List (κ × α)} (distinct : (items.map Prod.fst).Nodup)
    {item : κ × α} (held : item ∈ items) {f : κ × α → List β}
    (others : ∀ other ∈ items, other.1 ≠ item.1 → f other = []) : items.flatMap f = f item := by
  induction items with
  | nil => cases held
  | cons first rest ih =>
      rw [List.map_cons, List.nodup_cons] at distinct
      rw [List.flatMap_cons]
      rcases List.mem_cons.mp held with rfl | later
      · have nothing : rest.flatMap f = [] := by
          rw [List.flatMap_eq_nil_iff]
          intro other present
          apply others other (List.mem_cons_of_mem _ present)
          intro same
          exact distinct.1 (same ▸ List.mem_map_of_mem present)
        rw [nothing, List.append_nil]
      · have apart : first.1 ≠ item.1 := fun same =>
          distinct.1 (same ▸ List.mem_map_of_mem later)
        rw [others first List.mem_cons_self apart, List.nil_append]
        exact ih distinct.2 later fun other present =>
          others other (List.mem_cons_of_mem _ present)

/-- Setting values under keys, one after the other: each key keeps the value set last. -/
theorem get?_foldl_set_value [DecidableEq κ] (key : β → κ) (value : β → α)
    (xs : List β) (k : κ) :
    (xs.foldl (fun (d : Dict κ α) x => d.set (key x) (value x)) Dict.empty).get? k =
      ((xs.filter fun x => key x = k).getLast?).map value := by
  induction xs using List.reverseRecOn with
  | nil => rfl
  | append_singleton xs last ih =>
      rw [List.foldl_append, List.foldl_cons, List.foldl_nil, Dict.get?_set, List.filter_append]
      by_cases same : k = key last
      · have kept : [last].filter (fun x => key x = k) = [last] := by simp [same]
        rw [if_pos same, kept, List.getLast?_concat, Option.map_some]
      · have dropped : [last].filter (fun x => key x = k) = [] := by simp [Ne.symm same]
        rw [if_neg same, dropped, List.append_nil, ih]

end SentinelIR.Py
