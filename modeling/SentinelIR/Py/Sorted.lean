/-
# Stable sorting by a key

`sorted(xs, key=f)` is stable, and so is insertion sort, which has the advantage
of being structurally recursive. The facts used of it are that nothing is lost,
that the result is ordered, and that filtering before or after makes no
difference.
-/

import SentinelIR.Py.Comprehension

namespace SentinelIR.Py

universe u v

variable {α : Type u} {ι : Type v} [LinearOrder ι]

/-- `sorted(xs, key=f)`. -/
def sortedBy (f : α → ι) (xs : List α) : List α :=
  xs.insertionSort fun first second => f first ≤ f second

@[simp]
theorem mem_sortedBy {f : α → ι} {xs : List α} {x : α} : x ∈ sortedBy f xs ↔ x ∈ xs := by
  simp [sortedBy]

@[simp]
theorem length_sortedBy (f : α → ι) (xs : List α) : (sortedBy f xs).length = xs.length := by
  simp [sortedBy]

@[simp]
theorem sortedBy_nil (f : α → ι) : sortedBy f [] = [] := rfl

theorem perm_sortedBy (f : α → ι) (xs : List α) : (sortedBy f xs).Perm xs :=
  List.perm_insertionSort _ xs

theorem pairwise_sortedBy (f : α → ι) (xs : List α) :
    (sortedBy f xs).Pairwise fun first second => f first ≤ f second := by
  let atMost : α → α → Prop := fun first second => f first ≤ f second
  have total : Std.Total atMost := ⟨fun first second => le_total (f first) (f second)⟩
  have trans : IsTrans α atMost := ⟨fun _ _ _ => le_trans⟩
  exact List.pairwise_insertionSort atMost xs

theorem sortedBy_cons (f : α → ι) (x : α) (xs : List α) :
    sortedBy f (x :: xs) =
      (sortedBy f xs).orderedInsert (fun first second => f first ≤ f second) x := rfl

theorem filter_orderedInsert {f : α → ι} {p : α → Bool} {x : α} {xs : List α}
    (sorted : xs.Pairwise fun first second => f first ≤ f second) :
    (xs.orderedInsert (fun first second => f first ≤ f second) x).filter p =
      if p x then (xs.filter p).orderedInsert (fun first second => f first ≤ f second) x
      else xs.filter p := by
  induction xs with
  | nil => cases hx : p x <;> simp [hx]
  | cons y ys ih =>
      obtain ⟨least, rest⟩ := List.pairwise_cons.mp sorted
      by_cases before : f x ≤ f y
      · rw [List.orderedInsert_cons, if_pos before, List.filter_cons]
        cases hx : p x with
        | false => simp
        | true =>
            -- Everything kept of the tail is at least `y`, so `x` goes in front.
            have front : (List.filter p (y :: ys)).orderedInsert
                (fun first second => f first ≤ f second) x = x :: List.filter p (y :: ys) := by
              cases hkept : List.filter p (y :: ys) with
              | nil => rfl
              | cons z zs =>
                  have hz : z ∈ y :: ys := List.mem_of_mem_filter (hkept ▸ List.mem_cons_self)
                  have le : f x ≤ f z := by
                    rcases List.mem_cons.mp hz with rfl | later
                    · exact before
                    · exact le_trans before (least z later)
                  rw [List.orderedInsert_cons, if_pos le]
            simp [front]
      · rw [List.orderedInsert_cons, if_neg before, List.filter_cons, List.filter_cons, ih rest]
        cases hx : p x <;> cases hy : p y <;> simp [List.orderedInsert_cons, before]

/-- Sorting and filtering commute. -/
theorem filter_sortedBy (f : α → ι) (p : α → Bool) (xs : List α) :
    (sortedBy f xs).filter p = sortedBy f (xs.filter p) := by
  induction xs with
  | nil => rfl
  | cons x xs ih =>
      rw [sortedBy_cons, filter_orderedInsert (pairwise_sortedBy f xs), ih, List.filter_cons]
      cases hx : p x with
      | false => simp
      | true => simp [sortedBy_cons]

/-- The last of the greatest elements stays last. -/
theorem sortedBy_append_singleton {f : α → ι} {xs : List α} {x : α}
    (greatest : ∀ y ∈ xs, f y ≤ f x) : sortedBy f (xs ++ [x]) = sortedBy f xs ++ [x] := by
  induction xs with
  | nil => rfl
  | cons y ys ih =>
      have rest := ih fun z hz => greatest z (List.mem_cons_of_mem y hz)
      have insert (zs : List α) : (zs ++ [x]).orderedInsert
          (fun first second => f first ≤ f second) y =
            zs.orderedInsert (fun first second => f first ≤ f second) y ++ [x] := by
        induction zs with
        | nil => simp [greatest y List.mem_cons_self]
        | cons z zs ih =>
            by_cases before : f y ≤ f z <;> simp [List.orderedInsert_cons, before, ih]
      rw [List.cons_append, sortedBy_cons, sortedBy_cons, rest, insert]

/-- Sorting by the elements themselves forgets their order. -/
theorem sortedBy_id_eq_of_perm {xs ys : List ι} (same : xs.Perm ys) :
    sortedBy id xs = sortedBy id ys :=
  (((perm_sortedBy id xs).trans same).trans (perm_sortedBy id ys).symm).eq_of_pairwise
    (fun _ _ _ _ => le_antisymm) (pairwise_sortedBy id xs) (pairwise_sortedBy id ys)

/-- The newest element is last. -/
theorem le_getLast_of_mem_sortedBy {f : α → ι} {xs : List α} {x last : α}
    (hlast : (sortedBy f xs).getLast? = some last) (hx : x ∈ xs) : f x ≤ f last := by
  obtain ⟨front, happend⟩ := List.getLast?_eq_some_iff.mp hlast
  have ordered := pairwise_sortedBy f xs
  rw [happend, List.pairwise_append] at ordered
  rw [← mem_sortedBy (f := f), happend, List.mem_append, List.mem_singleton] at hx
  rcases hx with hfront | rfl
  · exact ordered.2.2 x hfront last (List.mem_singleton.mpr rfl)
  · exact le_refl _

/-- Sorting with keys computed first gives the same list. -/
theorem map_snd_sortedBy_keyed (f : α → ι) (xs : List α) :
    (sortedBy Prod.fst (xs.map fun x => (f x, x))).map Prod.snd = sortedBy f xs := by
  rw [sortedBy, ← List.map_insertionSort (fun first second : α => f first ≤ f second) _
    (fun x => (f x, x)) xs (fun _ _ _ _ => Iff.rfl)]
  simp [sortedBy, Function.comp_def]

/-- `sorted(xs, key=f, reverse=True)`, which keeps the order of equal elements. -/
def sortedDescBy (f : α → ι) (xs : List α) : List α := (sortedBy f xs.reverse).reverse

theorem perm_sortedDescBy (f : α → ι) (xs : List α) : (sortedDescBy f xs).Perm xs :=
  ((List.reverse_perm _).trans (perm_sortedBy f xs.reverse)).trans (List.reverse_perm xs)

@[simp]
theorem mem_sortedDescBy {f : α → ι} {xs : List α} {x : α} : x ∈ sortedDescBy f xs ↔ x ∈ xs :=
  (perm_sortedDescBy f xs).mem_iff

theorem pairwise_sortedDescBy (f : α → ι) (xs : List α) :
    (sortedDescBy f xs).Pairwise fun first second => f second ≤ f first :=
  List.pairwise_reverse.mpr (pairwise_sortedBy f xs.reverse)

end SentinelIR.Py
