/-
# Deduplication by identity

The loop that keeps a set of marks and, of the items with one identity, only the first.
What it keeps stands in the order in which the identities were first seen.
-/

import Mathlib.Data.List.Nodup

namespace SentinelIR.Py

universe u v

variable {α : Type u} {ι : Type v} [DecidableEq ι] (identity : α → ι)

/-- The items from here on whose identity is not marked yet, each identity once. -/
def unmarked (marks : List ι) : List α → List α
  | [] => []
  | item :: rest =>
      if identity item ∈ marks then unmarked marks rest
      else item :: unmarked (identity item :: marks) rest

/-- Deduplicate by identity, first occurrence kept. -/
def unique (items : List α) : List α := unmarked identity [] items

/-- Some items without repetitions: of every identity the first item, in the order in
which the identities were first seen. -/
structure FirstSeen (items kept : List α) : Prop where
  distinct : (kept.map identity).Nodup
  complete : ∀ item ∈ items, identity item ∈ kept.map identity
  first : ∀ item ∈ kept, items.find? (fun other => identity other = identity item) = some item
  order : (kept.map identity).Pairwise fun earlier later =>
    (items.map identity).idxOf earlier < (items.map identity).idxOf later

variable {identity}

theorem mem_of_mem_unmarked {marks : List ι} {items : List α} {item : α}
    (hitem : item ∈ unmarked identity marks items) : item ∈ items ∧ identity item ∉ marks := by
  induction items generalizing marks with
  | nil => cases hitem
  | cons head rest ih =>
      rw [unmarked] at hitem
      split at hitem
      case isTrue => exact (ih hitem).imp_left (List.mem_cons_of_mem head)
      case isFalse fresh =>
          rcases List.mem_cons.mp hitem with rfl | later
          · exact ⟨List.mem_cons_self, fresh⟩
          · obtain ⟨inRest, unseen⟩ := ih later
            exact ⟨List.mem_cons_of_mem head inRest, fun seen =>
              unseen (List.mem_cons_of_mem _ seen)⟩

theorem mem_marks_or_unmarked (marks : List ι) {items : List α} {item : α}
    (hitem : item ∈ items) :
    identity item ∈ marks ∨ identity item ∈ (unmarked identity marks items).map identity := by
  induction items generalizing marks with
  | nil => cases hitem
  | cons head rest ih =>
      rw [unmarked]
      split
      case isTrue seen =>
          rcases List.mem_cons.mp hitem with rfl | later
          · exact .inl seen
          · exact ih marks later
      case isFalse =>
          rcases List.mem_cons.mp hitem with rfl | later
          · exact .inr List.mem_cons_self
          · rcases ih (identity head :: marks) later with marked | kept
            · rcases List.mem_cons.mp marked with same | seen
              · rw [same]
                exact .inr List.mem_cons_self
              · exact .inl seen
            · exact .inr (List.mem_cons_of_mem _ kept)

theorem find?_of_mem_unmarked {marks : List ι} {items : List α} {item : α}
    (hitem : item ∈ unmarked identity marks items) :
    items.find? (fun other => identity other = identity item) = some item := by
  induction items generalizing marks with
  | nil => cases hitem
  | cons head rest ih =>
      rw [unmarked] at hitem
      split at hitem
      case isTrue seen =>
          have other : identity head ≠ identity item := fun same =>
            (mem_of_mem_unmarked hitem).2 (same ▸ seen)
          rw [List.find?_cons_of_neg (by simpa using other), ih hitem]
      case isFalse =>
          rcases List.mem_cons.mp hitem with rfl | later
          · exact List.find?_cons_of_pos (by simp)
          · have other : identity head ≠ identity item := fun same =>
              (mem_of_mem_unmarked later).2 (same ▸ List.mem_cons_self)
            rw [List.find?_cons_of_neg (by simpa using other), ih later]

/-- What is kept stands in the order of the first occurrences. -/
theorem pairwise_unmarked (marks : List ι) (items : List α) :
    ((unmarked identity marks items).map identity).Pairwise fun earlier later =>
      (items.map identity).idxOf earlier < (items.map identity).idxOf later := by
  induction items generalizing marks with
  | nil => exact .nil
  | cons head rest ih =>
      -- Every identity but the head's is one place further back.
      have shift (marks : List ι) (apart : ∀ item ∈ unmarked identity marks rest,
          identity head ≠ identity item) :
          ((unmarked identity marks rest).map identity).Pairwise fun earlier later =>
            ((head :: rest).map identity).idxOf earlier <
              ((head :: rest).map identity).idxOf later := by
        refine (ih marks).imp_of_mem fun hearlier hlater before => ?_
        obtain ⟨first, hfirst, rfl⟩ := List.mem_map.mp hearlier
        obtain ⟨second, hsecond, rfl⟩ := List.mem_map.mp hlater
        rw [List.map_cons, List.idxOf_cons_ne _ (apart first hfirst),
          List.idxOf_cons_ne _ (apart second hsecond)]
        exact Nat.succ_lt_succ before
      rw [unmarked]
      split
      case isTrue seen =>
          exact shift marks fun item hitem same => (mem_of_mem_unmarked hitem).2 (same ▸ seen)
      case isFalse =>
          have apart : ∀ item ∈ unmarked identity (identity head :: marks) rest,
              identity head ≠ identity item := fun item hitem same =>
            (mem_of_mem_unmarked hitem).2 (same ▸ List.mem_cons_self)
          refine List.pairwise_cons.mpr ⟨fun later hlater => ?_, shift _ apart⟩
          obtain ⟨item, hitem, rfl⟩ := List.mem_map.mp hlater
          rw [List.map_cons, List.idxOf_cons_self, List.idxOf_cons_ne _ (apart item hitem)]
          exact Nat.succ_pos _

/-- The loop keeps the first item of every identity. -/
theorem firstSeen_unique (items : List α) : FirstSeen identity items (unique identity items) where
  distinct := by
    refine List.Pairwise.imp ?_ (pairwise_unmarked [] items)
    rintro identity _ before rfl
    exact Nat.lt_irrefl _ before
  complete item hitem := (mem_marks_or_unmarked [] hitem).resolve_left List.not_mem_nil
  first _ hitem := find?_of_mem_unmarked hitem
  order := pairwise_unmarked [] items

theorem mem_of_mem_unique {items : List α} {item : α} (hitem : item ∈ unique identity items) :
    item ∈ items := (mem_of_mem_unmarked hitem).1

/-- Whatever has an item has one with the same identity among those kept. -/
theorem exists_mem_unique {items : List α} {item : α} (hitem : item ∈ items) :
    ∃ held ∈ unique identity items, identity held = identity item :=
  List.mem_map.mp ((firstSeen_unique items).complete item hitem)

end SentinelIR.Py
