/-
# Comprehensions that may raise

A Python comprehension whose element or condition can raise stops at the first
exception. `mapE` and `filterE` are its two shapes; the lemmas turn them into
`map` and `filter` wherever nothing raises.
-/

import SentinelIR.Py.Str

namespace SentinelIR.Py

universe u v

variable {ε : Type u} {α β : Type v}

/-- A sequence of two steps returns only through the first one's value. -/
theorem bind_eq_ok {first : Except ε α} {next : α → Except ε β} {result : β}
    (hbind : first >>= next = .ok result) :
    ∃ value, first = .ok value ∧ next value = .ok result := by
  cases first with
  | error raised => cases hbind
  | ok value => exact ⟨value, rfl, hbind⟩

/-- A sequence of two steps goes on with the value the first one returns. -/
theorem bind_of_eq_ok {first : Except ε α} {value : α} (hfirst : first = .ok value)
    (next : α → Except ε β) : first >>= next = next value := by
  rw [hfirst]
  rfl

/-- `[f(x) for x in xs]`. -/
def mapE (f : α → Except ε β) : List α → Except ε (List β)
  | [] => .ok []
  | x :: xs =>
      match f x with
      | .error raised => .error raised
      | .ok y =>
          match mapE f xs with
          | .error raised => .error raised
          | .ok ys => .ok (y :: ys)

theorem mapE_cons_ok {f : α → Except ε β} {x : α} {xs : List α} {y : β} {ys : List β}
    (hx : f x = .ok y) (hxs : mapE f xs = .ok ys) : mapE f (x :: xs) = .ok (y :: ys) := by
  rw [mapE, hx, hxs]

/-- `[x for x in xs if p(x)]`. -/
def filterE (p : α → Except ε Bool) : List α → Except ε (List α)
  | [] => .ok []
  | x :: xs =>
      match p x with
      | .error raised => .error raised
      | .ok keep =>
          match filterE p xs with
          | .error raised => .error raised
          | .ok ys => .ok (if keep then x :: ys else ys)

/-- `any(p(x) for x in xs)`. -/
def anyE (p : α → Except ε Bool) : List α → Except ε Bool
  | [] => .ok false
  | x :: xs =>
      match p x with
      | .error raised => .error raised
      | .ok true => .ok true
      | .ok false => anyE p xs

/-- Where the test raises for one element it raises for all, the whole raises
exactly when there is an element to test. -/
theorem exists_anyE_iff {p : α → Except ε Bool} {returns : Prop}
    (uniform : ∀ x, (∃ found, p x = .ok found) ↔ returns) {xs : List α} :
    (∃ found, anyE p xs = .ok found) ↔ xs = [] ∨ returns := by
  induction xs with
  | nil => exact iff_of_true ⟨false, rfl⟩ (.inl rfl)
  | cons x xs ih =>
      rw [anyE]
      cases hx : p x with
      | error raised =>
          have stuck : ¬ returns := fun hreturns => by
            obtain ⟨found, hfound⟩ := (uniform x).mpr hreturns
            rw [hx] at hfound
            cases hfound
          simp [stuck]
      | ok found =>
          have hreturns : returns := (uniform x).mp ⟨found, hx⟩
          cases found with
          | true => exact iff_of_true ⟨true, rfl⟩ (.inr hreturns)
          | false => exact iff_of_true (ih.mpr (.inr hreturns)) (.inr hreturns)

/-- A search whose test never raises. -/
theorem anyE_eq_ok {p : α → Except ε Bool} {q : α → Bool} {xs : List α}
    (total : ∀ x ∈ xs, p x = .ok (q x)) : anyE p xs = .ok (xs.any q) := by
  induction xs with
  | nil => rfl
  | cons x xs ih =>
      rw [anyE, total x List.mem_cons_self, List.any_cons]
      cases q x with
      | true => rfl
      | false => exact ih fun y hy => total y (List.mem_cons_of_mem x hy)

/-- A search that returns finds what holds. -/
theorem eq_true_of_anyE {p : α → Except ε Bool} {xs : List α} {found : Bool}
    (hfound : anyE p xs = .ok found) {x : α} (hx : x ∈ xs) (holds : p x = .ok true) :
    found = true := by
  induction xs with
  | nil => cases hx
  | cons y rest ih =>
      rw [anyE] at hfound
      split at hfound
      · cases hfound
      · exact (Except.ok.inj hfound).symm
      · rename_i fails
        rcases List.mem_cons.mp hx with rfl | later
        · rw [holds] at fails
          cases fails
        · exact ih hfound later

/-- A comprehension that returns has computed every element. -/
theorem forall₂_of_mapE_eq_ok {f : α → Except ε β} {xs : List α} {ys : List β}
    (hmap : mapE f xs = .ok ys) : List.Forall₂ (fun x y => f x = .ok y) xs ys := by
  induction xs generalizing ys with
  | nil =>
      cases hmap
      exact .nil
  | cons x xs ih =>
      rw [mapE] at hmap
      cases hx : f x with
      | error raised => simp [hx] at hmap
      | ok y =>
          cases hxs : mapE f xs with
          | error raised => simp [hx, hxs] at hmap
          | ok rest =>
              simp only [hx, hxs, Except.ok.injEq] at hmap
              subst hmap
              exact .cons hx (ih hxs)

/-- Every value of a comprehension comes from an element. -/
theorem exists_of_mem_mapE {f : α → Except ε β} {xs : List α} {ys : List β} {y : β}
    (hmap : mapE f xs = .ok ys) (hy : y ∈ ys) : ∃ x ∈ xs, f x = .ok y := by
  have pointwise := forall₂_of_mapE_eq_ok hmap
  clear hmap
  induction pointwise with
  | nil => cases hy
  | @cons x first xs rest hx _ ih =>
      rcases List.mem_cons.mp hy with rfl | later
      · exact ⟨x, List.mem_cons_self, hx⟩
      · obtain ⟨z, hz, hvalue⟩ := ih later
        exact ⟨z, List.mem_cons_of_mem x hz, hvalue⟩

/-- Every element of a comprehension has its value in the result. -/
theorem exists_value_of_mem {f : α → Except ε β} {xs : List α} {ys : List β} {x : α}
    (hmap : mapE f xs = .ok ys) (hx : x ∈ xs) : ∃ y ∈ ys, f x = .ok y := by
  have pointwise := forall₂_of_mapE_eq_ok hmap
  clear hmap
  induction pointwise with
  | nil => cases hx
  | @cons head first rest ys hhead _ ih =>
      rcases List.mem_cons.mp hx with rfl | later
      · exact ⟨first, List.mem_cons_self, hhead⟩
      · obtain ⟨y, hy, hvalue⟩ := ih later
        exact ⟨y, List.mem_cons_of_mem first hy, hvalue⟩

/-- A comprehension whose elements never raise is a plain `map`. -/
theorem mapE_eq_ok {f : α → Except ε β} {g : α → β} {xs : List α}
    (total : ∀ x ∈ xs, f x = .ok (g x)) : mapE f xs = .ok (xs.map g) := by
  induction xs with
  | nil => rfl
  | cons x xs ih =>
      have rest := ih fun y hy => total y (List.mem_cons_of_mem x hy)
      simp [mapE, total x List.mem_cons_self, rest]

/-- Only the values on the list's own elements matter. -/
theorem mapE_congr {f g : α → Except ε β} {xs : List α} (agree : ∀ x ∈ xs, f x = g x) :
    mapE f xs = mapE g xs := by
  induction xs with
  | nil => rfl
  | cons x xs ih =>
      rw [mapE, mapE, agree x List.mem_cons_self,
        ih fun y hy => agree y (List.mem_cons_of_mem x hy)]

/-- One raising element makes the whole comprehension raise. -/
theorem mapE_eq_error {f : α → Except ε β} {raised : ε} {xs : List α}
    (uniform : ∀ x ∈ xs, (∃ y, f x = .ok y) ∨ f x = .error raised)
    (bad : ∃ x ∈ xs, f x = .error raised) : mapE f xs = .error raised := by
  induction xs with
  | nil => simp at bad
  | cons x xs ih =>
      rcases uniform x List.mem_cons_self with ⟨y, hy⟩ | herror
      · have later : ∃ x ∈ xs, f x = .error raised := by
          obtain ⟨z, hz, hraise⟩ := bad
          rcases List.mem_cons.mp hz with rfl | hmem
          · rw [hy] at hraise
            cases hraise
          · exact ⟨z, hmem, hraise⟩
        have rest := ih (fun z hz => uniform z (List.mem_cons_of_mem x hz)) later
        simp [mapE, hy, rest]
      · simp [mapE, herror]

/-- A comprehension raises what its first failing element raises. -/
theorem mapE_eq_error_iff {f : α → Except ε β} {xs : List α} {raised : ε} :
    mapE f xs = .error raised ↔
      ∃ before x after, xs = before ++ x :: after ∧ (∀ y ∈ before, ∃ z, f y = .ok z) ∧
        f x = .error raised := by
  constructor
  · intro failed
    induction xs with
    | nil => cases failed
    | cons x xs ih =>
        cases hx : f x with
        | error other =>
            rw [mapE, hx] at failed
            exact ⟨[], x, xs, rfl, fun y hy => absurd hy List.not_mem_nil,
              hx.trans (congrArg _ (Except.error.inj failed))⟩
        | ok value =>
            have rest : mapE f xs = .error raised := by
              cases hxs : mapE f xs with
              | error other =>
                  rw [mapE, hx, hxs] at failed
                  exact congrArg _ (Except.error.inj failed)
              | ok ys =>
                  rw [mapE, hx, hxs] at failed
                  cases failed
            obtain ⟨before, y, after, split, returns, hy⟩ := ih rest
            refine ⟨x :: before, y, after, congrArg _ split, ?_, hy⟩
            exact List.forall_mem_cons.mpr ⟨⟨value, hx⟩, returns⟩
  · rintro ⟨before, x, after, rfl, returns, hx⟩
    induction before with
    | nil => rw [List.nil_append, mapE, hx]
    | cons y before ih =>
        obtain ⟨⟨value, hy⟩, returns⟩ := List.forall_mem_cons.mp returns
        rw [List.cons_append, mapE, hy, ih returns]

/-- A comprehension whose elements all have a value returns. -/
theorem exists_mapE_eq_ok {f : α → Except ε β} {xs : List α}
    (total : ∀ x ∈ xs, ∃ y, f x = .ok y) : ∃ ys, mapE f xs = .ok ys := by
  induction xs with
  | nil => exact ⟨[], rfl⟩
  | cons x xs ih =>
      obtain ⟨y, hy⟩ := total x List.mem_cons_self
      obtain ⟨ys, hys⟩ := ih fun z hz => total z (List.mem_cons_of_mem x hz)
      exact ⟨y :: ys, by simp [mapE, hy, hys]⟩

/-- A comprehension returns exactly when every element has a value. -/
theorem exists_mapE_eq_ok_iff {f : α → Except ε β} {xs : List α} :
    (∃ ys, mapE f xs = .ok ys) ↔ ∀ x ∈ xs, ∃ y, f x = .ok y := by
  constructor
  · rintro ⟨ys, hys⟩ x hx
    obtain ⟨y, -, hy⟩ := exists_value_of_mem hys hx
    exact ⟨y, hy⟩
  · exact exists_mapE_eq_ok

/-- A condition that never raises is a plain `filter`. -/
theorem filterE_eq_ok {p : α → Except ε Bool} {q : α → Bool} {xs : List α}
    (total : ∀ x ∈ xs, p x = .ok (q x)) : filterE p xs = .ok (xs.filter q) := by
  induction xs with
  | nil => rfl
  | cons x xs ih =>
      have rest := ih fun y hy => total y (List.mem_cons_of_mem x hy)
      simp [filterE, total x List.mem_cons_self, rest, List.filter_cons]

end SentinelIR.Py
