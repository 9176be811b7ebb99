/-
# What a call ends with

A call is to end with the decoded body of a usable answer, with the client error
the dependency answered, or degraded. The answer of the last attempt decides
which; answers of any other shape leave the client as exceptions of the libraries
below it.
-/

import SentinelIR.Common.ClientRuns

namespace SentinelIR.Common

open SentinelIR.Py

variable {β : Type}

/-- A success with a body that is JSON, or a client error. -/
def Response.Usable : Response β → Prop
  | failed _ => False
  | answered status body => (200 ≤ status ∧ status ≤ 299 ∧ body.isSome = true) ∨
      (400 ≤ status ∧ status < 500)
  | broken _ _ => False

instance (response : Response β) : Decidable response.Usable :=
  match response with
  | .failed _ => inferInstanceAs (Decidable False)
  | .answered _ _ => inferInstanceAs (Decidable (_ ∨ _))
  | .broken _ _ => inferInstanceAs (Decidable False)

instance (response : Response β) : Decidable response.Transient :=
  match response with
  | .failed _ => inferInstanceAs (Decidable True)
  | .answered status _ => inferInstanceAs (Decidable (serverErrorFloor ≤ status))
  | .broken _ _ => inferInstanceAs (Decidable False)

namespace ResilientClient

variable (client : ResilientClient)

/-- The ways a call is to end: with a body, with a client error, or degraded
because no attempt was made or the last one failed. -/
inductive Proper (call : Call β) (got : Got β) : Prop
  | body (n status : Nat) (value : β) (last : got.attempts = n + 1)
      (answered : call.responses n = .answered status (some value))
      (success : 200 ≤ status ∧ status ≤ 299) (result : got.result = .ok (.body value))
  | clientError (n status : Nat) (body : Option β) (last : got.attempts = n + 1)
      (answered : call.responses n = .answered status body) (mistake : 400 ≤ status ∧ status < 500)
      (result : got.result = .error (.httpStatus status))
  | degraded (reason : Str)
      (fault : got.attempts = 0 ∨ ∃ n, got.attempts = n + 1 ∧ (call.responses n).Transient)
      (result : got.result = client.degrade call reason)

/-- Every attempt the retry comes to is a transient failure or a usable answer. -/
def Answerable (call : Call β) : Prop :=
  ∀ n < client.maxAttempts, (∀ m < n, (call.responses m).Transient) →
    (call.responses n).Transient ∨ (call.responses n).Usable

instance (call : Call β) : Decidable (client.Answerable call) :=
  inferInstanceAs (Decidable (∀ n < client.maxAttempts, _))

section Outcome

variable {client} {breaker : Breaker} (wasOpen : Bool) {call : Call β}

/-- A call that is made ends with what its last attempt came to, degraded where
that is a transient failure. -/
theorem get_of_free (call : Call β) (free : ¬ breaker.Blocks client.breaker call.start) :
    (client.get breaker wasOpen call).attempts = (client.callWithRetry call).2 ∧
      match (client.callWithRetry call).1 with
      | .ok value => (client.get breaker wasOpen call).result = .ok (.body value)
      | .error raised =>
          if raised.isTransient then
            ∃ reason, (client.get breaker wasOpen call).result = client.degrade call reason
          else (client.get breaker wasOpen call).result = .error raised := by
  by_cases exhausts : client.Exhausts call
  · obtain ⟨raised, hresult, transient⟩ := exhausts.raised
    by_cases below : breaker.state = .closed ∧
        breaker.failCounter + 1 < client.breaker.failMax
    · unfold get
      rw [hresult, Breaker.call_of_counted below.1 transient below.2]
      simp only [transient, if_true]
      exact ⟨trivial, reasonOf raised, rfl⟩
    · have opens := Breaker.opens_of_not_below below
      unfold get
      rw [hresult, Breaker.call_of_opening free opens transient]
      simp only [transient, if_true]
      exact ⟨trivial, _, rfl⟩
  · obtain ⟨changes, hcall⟩ := Breaker.call_of_settled call.stop free exhausts
    unfold Exhausts at exhausts
    unfold get
    rw [hcall]
    dsimp only
    cases hresult : (client.callWithRetry call).1 with
    | ok value => exact ⟨rfl, rfl⟩
    | error raised =>
        have foreign : raised.isTransient = false := by
          rw [hresult] at exhausts
          exact Bool.eq_false_iff.mpr exhausts
        simp only [foreign, Bool.false_eq_true, if_false]
        exact ⟨trivial, trivial⟩

/-- A blocked call is degraded. -/
theorem proper_of_blocks (blocks : breaker.Blocks client.breaker call.start) :
    client.Proper call (client.get breaker wasOpen call) := by
  refine .degraded (if wasOpen then "circuit breaker is open" else refusedText)
    (.inl (get_of_blocks wasOpen blocks).2.1) ?_
  unfold get
  rw [Breaker.call_of_blocks blocks]

/-- The last attempt of a call that is made: those before it failed. -/
theorem exists_last (client : ResilientClient) (call : Call β) :
    ∃ n, (client.callWithRetry call).2 = n + 1 ∧ n < client.maxAttempts ∧
      (∀ m < n, (call.responses m).Transient) ∧
      (client.callWithRetry call).1 = attempt client.dependency (call.responses n) ∧
        ((call.responses n).Transient → n + 1 = client.maxAttempts) := by
  have positive := client.attempts_pos call
  obtain ⟨n, hn⟩ := Nat.exists_eq_succ_of_ne_zero positive
  have bound : (client.callWithRetry call).2 ≤ 0 + (client.maxAttempts - 1) + 1 := retrying_le
  have allowed := client.maxAttempts_pos
  have result : (client.callWithRetry call).1 = attempt client.dependency (call.responses n) := by
    have last : (client.callWithRetry call).1 =
        attempt client.dependency (call.responses ((client.callWithRetry call).2 - 1)) :=
      retrying_result
    rw [last, hn]
    rfl
  refine ⟨n, hn, by omega, fun m hm => ?_, result, fun transient => ?_⟩
  · exact fails_attempt_iff.mp (fails_of_lt_retrying (Nat.zero_le m)
      (show m + 1 < (client.callWithRetry call).2 by omega))
  · have fails : Fails (client.callWithRetry call).1 := by
      rw [result]
      exact fails_attempt_iff.mpr transient
    have spent : (client.callWithRetry call).2 = 0 + (client.maxAttempts - 1) + 1 :=
      spent_of_fails fails
    omega

/-- The events a call leaves are those of its breaker's changes and one of its own
failure. -/
theorem event_cases {event : EventBody}
    (left : event ∈ (client.get breaker wasOpen call).events) :
    (∃ change, event = client.changeEvent call change) ∨
      ∃ reason, event = client.dependencyFailure call reason := by
  have changed {changes : List Change} (mem : event ∈ changes.map (client.changeEvent call)) :
      ∃ change, event = client.changeEvent call change := by
    obtain ⟨change, -, rfl⟩ := List.mem_map.mp mem
    exact ⟨change, rfl⟩
  have reported {reason : Str}
      (mem : event ∈ if wasOpen then [] else [client.dependencyFailure call reason]) :
      ∃ reason, event = client.dependencyFailure call reason := by
    cases wasOpen with
    | true => cases mem
    | false => exact ⟨reason, List.mem_singleton.mp mem⟩
  unfold get at left
  dsimp only at left
  split at left
  · exact (List.mem_append.mp left).imp changed reported
  · exact (List.mem_append.mp left).imp changed reported
  · split at left
    · exact .inl (changed left)
    · split at left
      · exact (List.mem_append.mp left).imp changed fun mem => ⟨_, List.mem_singleton.mp mem⟩
      · exact .inl (changed left)

theorem attempt_of_usable (dependency : Str) {response : Response β} (usable : response.Usable) :
    (∃ status value, response = .answered status (some value) ∧ (200 ≤ status ∧ status ≤ 299) ∧
        attempt dependency response = .ok value) ∨
      ∃ status body, response = .answered status body ∧ (400 ≤ status ∧ status < 500) ∧
        attempt dependency response = .error (.httpStatus status) := by
  cases response with
  | failed message => exact usable.elim
  | broken raised foreign => exact usable.elim
  | answered status body =>
      rcases usable with ⟨low, high, some⟩ | ⟨low, high⟩
      · obtain ⟨value, rfl⟩ := Option.isSome_iff_exists.mp some
        have below : ¬ serverErrorFloor ≤ status := by
          rw [serverErrorFloor]
          omega
        refine .inl ⟨status, value, rfl, ⟨low, high⟩, ?_⟩
        rw [attempt.eq_def]
        simp only [if_neg below, if_pos (And.intro low high)]
      · have below : ¬ serverErrorFloor ≤ status := by
          rw [serverErrorFloor]
          omega
        have failed : ¬ (200 ≤ status ∧ status ≤ 299) := by omega
        refine .inr ⟨status, body, rfl, ⟨low, high⟩, ?_⟩
        rw [attempt.eq_def]
        simp only [if_neg below, if_neg failed]

/-- An attempt returns the decoded body of a success. -/
theorem attempt_eq_ok_iff {dependency : Str} {response : Response β} {value : β} :
    attempt dependency response = .ok value ↔
      ∃ status, response = .answered status (some value) ∧ 200 ≤ status ∧ status ≤ 299 := by
  constructor
  · intro returned
    cases response with
    | failed message => cases returned
    | broken raised foreign => cases returned
    | answered status body =>
        rw [attempt.eq_def] at returned
        dsimp only at returned
        split at returned
        case isTrue => cases returned
        split at returned
        case isFalse => cases returned
        next success =>
        cases body with
        | none => cases returned
        | some decoded =>
            obtain rfl := Except.ok.inj returned
            exact ⟨status, rfl, success⟩
  · rintro ⟨status, rfl, success⟩
    have below : ¬ serverErrorFloor ≤ status := by
      rw [serverErrorFloor]
      omega
    rw [attempt.eq_def]
    simp only [if_neg below, if_pos success]

/-- A call whose attempts fail until one does not ends as that one. -/
theorem get_of_last {n : Nat} (free : ¬ breaker.Blocks client.breaker call.start)
    (allowed : n < client.maxAttempts) (before : ∀ m < n, (call.responses m).Transient)
    (calm : ¬ (call.responses n).Transient) :
    (client.get breaker wasOpen call).result =
      (attempt client.dependency (call.responses n)).map .body := by
  obtain ⟨last, tried, lastAllowed, earlier, result, spent⟩ := exists_last client call
  have same : last = n := by
    rcases Nat.lt_trichotomy last n with less | same | more
    · have := spent (before last less)
      omega
    · exact same
    · exact absurd (earlier n more) calm
  have settled : ¬ Fails (attempt client.dependency (call.responses n)) :=
    mt fails_attempt_iff.mp calm
  have outcome := (get_of_free wasOpen call free).2
  rw [result, same] at outcome
  cases attempted : attempt client.dependency (call.responses n) with
  | ok value =>
      rw [attempted] at outcome
      exact outcome
  | error raised =>
      rw [attempted] at outcome settled
      have foreign : ¬ raised.isTransient = true := settled
      dsimp only at outcome
      rw [if_neg foreign] at outcome
      exact outcome

/-- A call whose attempts fail until one gets a client error ends with it. -/
theorem get_of_clientError {n status : Nat} {body : Option β}
    (free : ¬ breaker.Blocks client.breaker call.start) (allowed : n < client.maxAttempts)
    (before : ∀ m < n, (call.responses m).Transient)
    (answered : call.responses n = .answered status body)
    (mistake : 400 ≤ status ∧ status ≤ 499) :
    (client.get breaker wasOpen call).result = .error (.httpStatus status) := by
  have below : ¬ serverErrorFloor ≤ status := Nat.not_le.mpr (Nat.lt_succ_of_le mistake.2)
  have failed : ¬ (200 ≤ status ∧ status ≤ 299) := by omega
  rw [get_of_last wasOpen free allowed before (by rw [answered]; exact below), answered,
    attempt.eq_def]
  simp only [if_neg below, if_neg failed]
  rfl

/-- A call exhausts its retries exactly when every attempt it may make fails. -/
theorem exhausts_iff :
    client.Exhausts call ↔ ∀ n < client.maxAttempts, (call.responses n).Transient := by
  obtain ⟨last, -, allowed, before, result, spent⟩ := exists_last client call
  rw [Exhausts, result, fails_attempt_iff]
  constructor
  · intro failed n hn
    have whole := spent failed
    rcases Nat.lt_or_eq_of_le (show n ≤ last by omega) with earlier | rfl
    · exact before n earlier
    · exact failed
  · exact fun all => all last allowed

/-- A call with a fallback that degrades ends with it. -/
theorem get_of_degraded (declared : call.fallback = true)
    (degrades : breaker.Blocks client.breaker call.start ∨ client.Exhausts call) :
    (client.get breaker wasOpen call).result = .ok .fallback := by
  have degraded (reason : Str) : client.degrade call reason = .ok .fallback := if_pos declared
  by_cases blocks : breaker.Blocks client.breaker call.start
  · unfold get
    rw [Breaker.call_of_blocks blocks]
    exact degraded _
  · have exhausts := degrades.resolve_left blocks
    have outcome := (get_of_free wasOpen call blocks).2
    obtain ⟨raised, hresult, transient⟩ := exhausts.raised
    rw [hresult] at outcome
    dsimp only at outcome
    rw [if_pos transient] at outcome
    obtain ⟨reason, same⟩ := outcome
    exact same.trans (degraded reason)

/-- Every attempt a properly ended call comes to is a transient failure or a usable
answer. -/
theorem answerable_of_proper (free : ¬ breaker.Blocks client.breaker call.start)
    (proper : client.Proper call (client.get breaker wasOpen call)) : client.Answerable call := by
  obtain ⟨n, tried, -, before, -, spent⟩ := exists_last client call
  have attempts := (get_of_free wasOpen call free).1
  rw [tried] at attempts
  -- an attempt the retry comes to is one that was made
  intro m hm earlier
  rcases Nat.lt_trichotomy m n with less | rfl | more
  · exact .inl (before m less)
  · cases proper with
    | body k status value last answered success =>
        obtain rfl : m = k := by omega
        rw [answered]
        exact .inr (.inl ⟨success.1, success.2, rfl⟩)
    | clientError k status body last answered mistake =>
        obtain rfl : m = k := by omega
        rw [answered]
        exact .inr (.inr mistake)
    | degraded reason fault =>
        rcases fault with none | ⟨k, last, transient⟩
        · omega
        · obtain rfl : m = k := by omega
          exact .inl transient
  · have := spent (earlier n more)
    omega

/-- A call whose last attempt is a transient failure degrades, and a usable answer is
passed on. -/
theorem proper_of_answerable (free : ¬ breaker.Blocks client.breaker call.start)
    (answerable : client.Answerable call) :
    client.Proper call (client.get breaker wasOpen call) := by
  obtain ⟨n, tried, allowed, before, result, -⟩ := exists_last client call
  obtain ⟨attempts, outcome⟩ := get_of_free wasOpen call free
  rw [tried] at attempts
  rw [result] at outcome
  rcases answerable n allowed before with transient | usable
  · have fails : Fails (attempt client.dependency (call.responses n)) :=
      fails_attempt_iff.mpr transient
    cases hattempt : attempt client.dependency (call.responses n) with
    | ok value =>
        rw [hattempt] at fails
        exact fails.elim
    | error raised =>
        rw [hattempt] at fails outcome
        have counted : raised.isTransient = true := fails
        dsimp only at outcome
        rw [if_pos counted] at outcome
        obtain ⟨reason, degraded⟩ := outcome
        exact .degraded reason (.inr ⟨n, attempts, transient⟩) degraded
  · rcases attempt_of_usable client.dependency usable with
      ⟨status, value, answered, success, hattempt⟩ | ⟨status, body, answered, mistake, hattempt⟩
    · rw [hattempt] at outcome
      exact .body n status value attempts answered success outcome
    · rw [hattempt] at outcome
      exact .clientError n status body attempts answered mistake outcome

/-- A call ends properly exactly when it is blocked, or every attempt it comes to
is a transient failure or a usable answer. -/
theorem proper_iff (client : ResilientClient) (breaker : Breaker) (wasOpen : Bool)
    (call : Call β) :
    client.Proper call (client.get breaker wasOpen call) ↔
      breaker.Blocks client.breaker call.start ∨ client.Answerable call := by
  by_cases blocks : breaker.Blocks client.breaker call.start
  · exact iff_of_true (proper_of_blocks wasOpen blocks) (.inl blocks)
  · rw [or_iff_right blocks]
    exact ⟨answerable_of_proper wasOpen blocks, proper_of_answerable wasOpen blocks⟩

end Outcome

/-- A lookup that asset-service answers with a page that is no JSON. -/
def lookupPage : Call Unit :=
  { lookupDown 0 with responses := fun _ => .answered 200 none }

/-- The page's decoding error leaves the client, though a fallback is declared. -/
theorem page_escapes :
    ¬ ∀ (client : ResilientClient) (breaker : Breaker) (wasOpen : Bool) (call : Call Unit),
      client.Proper call (client.get breaker wasOpen call) := by
  intro always
  have answerable := answerable_of_proper false id (always defaults .fresh false lookupPage)
  have first := answerable 0 defaults.maxAttempts_pos (by simp)
  exact absurd first (by decide)

end ResilientClient

end SentinelIR.Common
