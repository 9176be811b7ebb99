/-
# The endpoint a path addresses

A path addresses an endpoint when it is that endpoint or continues it after a slash.
The loader and the refusal rule both compare leading characters instead, so a path
that continues a known endpoint in any other way is taken for it. On every other path
the two comparisons are the same.
-/

import SentinelIR.Loader.LoadEvents
import SentinelIR.Rules.Callers

namespace SentinelIR.Loader.LoadEvents

open SentinelIR.Py SentinelIR.Common SentinelIR.Alerts SentinelIR.Rules

/-- The path is the endpoint, or a resource under it. -/
def Addresses (endpoint path : Str) : Prop :=
  path = endpoint ∨ ∃ rest, path = endpoint ++ codePoint '/' :: rest

/-- The path addresses the endpoint, and no longer one. -/
def AddressesLongest (endpoint path : Str) : Prop :=
  Addresses endpoint path ∧
    ∀ other ∈ knownEndpoints, Addresses other path → other.length ≤ endpoint.length

/-- The one endpoint set that only administrators may use. -/
def usersEndpoint : Str := "/api/v1/auth/users"

/-- The loader and the refusal rule take the path for what it addresses: events on it
are attached to no other endpoint, and refusals on it are privileged only under the
users endpoint. -/
structure Classified (path : Str) : Prop where
  known : ∀ known ∈ knownEndpoints, endpointStem path = known ↔ AddressesLongest known path
  itself : (∀ known ∈ knownEndpoints, ¬ Addresses known path) → endpointStem path = path
  privileged : UnauthorisedAccess.isPrivileged path = true ↔ Addresses usersEndpoint path

/-- A known endpoint at the start of the path ends there or before a slash. -/
def Delimited (path : Str) : Prop :=
  ∀ known ∈ knownEndpoints, known <+: path →
    path.drop known.length = [] ∨ (path.drop known.length).head? = some (codePoint '/')

instance (path : Str) : Decidable (Delimited path) :=
  inferInstanceAs (Decidable (∀ known ∈ knownEndpoints, _ → _))

section Prefixes

variable {known path : Str}

theorem Addresses.prefixed (addresses : Addresses known path) : known <+: path := by
  rcases addresses with rfl | ⟨rest, rfl⟩
  · exact List.prefix_refl path
  · exact List.prefix_append known _

/-- Behind a prefix, addressing it is a matter of the next character. -/
theorem addresses_iff (prefixed : known <+: path) :
    Addresses known path ↔
      path.drop known.length = [] ∨ (path.drop known.length).head? = some (codePoint '/') := by
  obtain ⟨rest, rfl⟩ := prefixed
  rw [List.drop_left, Addresses, List.append_right_eq_self, List.head?_eq_some_iff]
  simp only [List.append_cancel_left_eq]

/-- No known endpoint starts another one. -/
theorem knownEndpoints_apart :
    ∀ first ∈ knownEndpoints, ∀ second ∈ knownEndpoints, first <+: second → first = second := by
  decide +kernel

/-- So a path starts with one known endpoint at most. -/
theorem eq_of_prefixed {other : Str} (hknown : known ∈ knownEndpoints)
    (hother : other ∈ knownEndpoints) (first : known <+: path) (second : other <+: path) :
    known = other := by
  rcases List.prefix_or_prefix_of_prefix first second with inside | inside
  · exact knownEndpoints_apart known hknown other hother inside
  · exact (knownEndpoints_apart other hother known hknown inside).symm

/-- A path that starts with a known endpoint is mapped to it. -/
theorem endpointStem_of_prefixed (hknown : known ∈ knownEndpoints) (prefixed : known <+: path) :
    endpointStem path = known := by
  rw [endpointStem]
  cases longest : (knownEndpoints.filter fun known => known.isPrefixOf path).argmax
      List.length with
  | none =>
      have kept : known ∈ knownEndpoints.filter fun known => known.isPrefixOf path :=
        List.mem_filter.mpr ⟨hknown, List.isPrefixOf_iff_prefix.mpr prefixed⟩
      rw [List.argmax_eq_none.mp longest] at kept
      cases kept
  | some other =>
      obtain ⟨hother, starts⟩ := List.mem_filter.mp (List.argmax_mem longest)
      exact eq_of_prefixed hother hknown (List.isPrefixOf_iff_prefix.mp starts) prefixed

/-- Any other path is mapped to itself. -/
theorem endpointStem_of_not_prefixed (apart : ∀ known ∈ knownEndpoints, ¬ known <+: path) :
    endpointStem path = path := by
  have none : (knownEndpoints.filter fun known => known.isPrefixOf path) = [] := by
    apply List.filter_eq_nil_iff.mpr
    intro known hknown starts
    exact apart known hknown (List.isPrefixOf_iff_prefix.mp starts)
  rw [endpointStem, none]
  rfl

theorem usersEndpoint_known : usersEndpoint ∈ knownEndpoints := by decide +kernel

/-- The rule knows one privileged path. -/
theorem isPrivileged_iff :
    UnauthorisedAccess.isPrivileged path = true ↔ usersEndpoint <+: path := by
  rw [UnauthorisedAccess.isPrivileged, UnauthorisedAccess.privilegedPaths, List.any_cons,
    List.any_nil, Bool.or_false, List.isPrefixOf_iff_prefix]
  rfl

end Prefixes

/-! ## Every path -/

section Paths

variable {path : Str}

/-- Where a slash follows, starting with a known endpoint is addressing it. -/
theorem Delimited.addresses (delimited : Delimited path) {known : Str}
    (hknown : known ∈ knownEndpoints) : Addresses known path ↔ known <+: path :=
  ⟨Addresses.prefixed, fun prefixed =>
    (addresses_iff prefixed).mpr (delimited known hknown prefixed)⟩

theorem Delimited.classified (delimited : Delimited path) : Classified path where
  known known hknown := by
    constructor
    · intro stem
      have prefixed : known <+: path := by
        by_cases starts : ∃ other ∈ knownEndpoints, other <+: path
        · obtain ⟨other, hother, starts⟩ := starts
          rw [endpointStem_of_prefixed hother starts] at stem
          exact stem ▸ starts
        · have itself := endpointStem_of_not_prefixed fun other hother starts' =>
            starts ⟨other, hother, starts'⟩
          rw [← stem, itself]
      refine ⟨(delimited.addresses hknown).mpr prefixed, ?_⟩
      intro other hother addresses
      rw [eq_of_prefixed hother hknown addresses.prefixed prefixed]
    · intro longest
      exact endpointStem_of_prefixed hknown longest.1.prefixed
  itself none := by
    apply endpointStem_of_not_prefixed
    intro known hknown prefixed
    exact none known hknown ((delimited.addresses hknown).mpr prefixed)
  privileged := isPrivileged_iff.trans (delimited.addresses usersEndpoint_known).symm

theorem Classified.delimited (classified : Classified path) : Delimited path := by
  intro known hknown prefixed
  have stem := endpointStem_of_prefixed hknown prefixed
  exact (addresses_iff prefixed).mp ((classified.known known hknown).mp stem).1

/-- A path is taken for what it addresses exactly when no known endpoint runs on in it. -/
theorem classified_iff (path : Str) : Classified path ↔ Delimited path := by
  exact ⟨Classified.delimited, Delimited.classified⟩

/-- A path under no known endpoint, mapped to one and taken for a privileged one. -/
theorem usersExport_misclassified : ¬ ∀ path, Classified path := by
  intro always
  have delimited := (always "/api/v1/auth/users-export").delimited
  exact absurd delimited (by decide +kernel)

/-- The `TARGETED` edge of an event on such a path goes to the endpoint it addresses, or
to the path's own. -/
theorem Classified.target (classified : Classified path) :
    endpointStem path = path ∨
      ∃ known ∈ knownEndpoints, endpointStem path = known ∧ Addresses known path := by
  by_cases addressed : ∀ known ∈ knownEndpoints, ¬ Addresses known path
  · exact .inl (classified.itself addressed)
  · push Not at addressed
    obtain ⟨known, hknown, addresses⟩ := addressed
    exact .inr ⟨known, hknown, endpointStem_of_prefixed hknown addresses.prefixed, addresses⟩

/-- A caller refused on such paths is reported as `HIGH` only when one of them is under the
users endpoint. -/
theorem exists_addresses_of_high {subject : Str} {refusals : List Common.SecurityEvent}
    (classified : ∀ event ∈ refusals, Classified event.endpoint)
    (high : (UnauthorisedAccess.finding subject refusals).severity = some .high) :
    ∃ event ∈ refusals, Addresses usersEndpoint event.endpoint := by
  by_contra none
  have routine : (UnauthorisedAccess.endpointsOf refusals).filter UnauthorisedAccess.isPrivileged =
      [] := by
    apply List.filter_eq_nil_iff.mpr
    intro endpoint hendpoint privileged
    rw [UnauthorisedAccess.endpointsOf, mem_sortedBy, List.mem_dedup, List.mem_map] at hendpoint
    obtain ⟨event, hevent, rfl⟩ := hendpoint
    exact none ⟨event, hevent, (classified event hevent).privileged.mp privileged⟩
  simp only [UnauthorisedAccess.finding, routine, if_true] at high
  cases high

end Paths

end SentinelIR.Loader.LoadEvents
