/-
# Runs of the client

Calls of one client, one after another or interleaved. One after another, each
call reads the state it is decided by, and the breaker's counter is the number of
calls that have just failed in a row. Interleaved, another caller may open the
breaker between a caller's reading and its call.
-/

import SentinelIR.Common.HttpClient

namespace SentinelIR.Common.ResilientClient

open SentinelIR.Py

variable {β : Type} (client : ResilientClient)

/-! ## One after another -/

/-- A call as it was made: the breaker it found, and what it left. -/
structure Record (β : Type) where
  call : Call β
  before : Breaker
  got : Got β

/-- A call made by itself reads the state it is decided by. -/
def perform (breaker : Breaker) (call : Call β) : Got β :=
  client.get breaker breaker.isOpen call

/-- The breaker after some calls. -/
def after (breaker : Breaker) (calls : List (Call β)) : Breaker :=
  calls.foldl (fun breaker call => (client.perform breaker call).breaker) breaker

/-- The records of some calls. -/
def records (breaker : Breaker) : List (Call β) → List (Record β)
  | [] => []
  | call :: calls =>
      let got := client.perform breaker call
      ⟨call, breaker, got⟩ :: records got.breaker calls

theorem after_concat (breaker : Breaker) (calls : List (Call β)) (call : Call β) :
    client.after breaker (calls ++ [call]) =
      (client.perform (client.after breaker calls) call).breaker := by
  rw [after, List.foldl_append]
  rfl

/-- Every record is a call performed on the breaker it found. -/
theorem got_of_mem_records {breaker : Breaker} {calls : List (Call β)} {record : Record β}
    (hrecord : record ∈ client.records breaker calls) :
    record.got = client.perform record.before record.call := by
  induction calls generalizing breaker with
  | nil => cases hrecord
  | cons call calls ih =>
      rcases List.mem_cons.mp hrecord with rfl | later
      · rfl
      · exact ih later

/-! ### What is reported -/

/-- The trial call of an open breaker past its reset time, failing. -/
def FailedTrial (record : Record β) : Prop :=
  record.before.isOpen = true ∧ ¬ record.before.Blocks client.breaker record.call.start ∧
    client.Exhausts record.call

instance (record : Record β) : Decidable (client.FailedTrial record) :=
  inferInstanceAs (Decidable (_ ∧ _))

/-- A call that reached the network and spent its retries left one failure of its
own on the stream. -/
def Reported (record : Record β) : Prop :=
  record.got.attempts ≠ 0 → client.Exhausts record.call →
    ∃ reason, failures record.got.events = [client.dependencyFailure record.call reason]

theorem attempts_pos (call : Call β) : (client.callWithRetry call).2 ≠ 0 :=
  Nat.pos_iff_ne_zero.mp lt_retrying

/-- One call is reported unless it is a failed trial. -/
theorem reported_iff_not_failedTrial {record : Record β}
    (performed : record.got = client.perform record.before record.call) :
    client.Reported record ↔ ¬ client.FailedTrial record := by
  unfold Reported FailedTrial
  rw [performed, perform]
  by_cases blocks : record.before.Blocks client.breaker record.call.start
  · have blocked := get_of_blocks record.before.isOpen blocks
    refine iff_of_true (fun reached => absurd blocked.2.1 reached) fun trial => trial.2.1 blocks
  · by_cases exhausts : client.Exhausts record.call
    · cases opened : record.before.isOpen with
      | true =>
          obtain ⟨-, attempts, reason, events⟩ :=
            get_of_opening true blocks exhausts (.inl opened)
          refine iff_of_false (fun reported => ?_) fun calm => calm ⟨rfl, blocks, exhausts⟩
          obtain ⟨other, hother⟩ := reported (attempts ▸ client.attempts_pos record.call) exhausts
          rw [events] at hother
          cases hother
      | false =>
          refine iff_of_true (fun _ _ => ?_) fun trial => Bool.false_ne_true trial.1
          by_cases reached : client.breaker.failMax ≤ record.before.failCounter + 1
          · obtain ⟨-, -, reason, events⟩ :=
              get_of_opening false blocks exhausts (.inr reached)
            exact ⟨reason, events⟩
          · have closed : record.before.state = .closed := by
              by_contra other
              rw [Breaker.isOpen_iff.mpr other] at opened
              cases opened
            exact (get_of_counted false closed exhausts (Nat.not_le.mp reached)).2.2
    · exact iff_of_true (fun _ spent => absurd spent exhausts) fun trial => exhausts trial.2.2

/-- In a run of calls one after another, every call that spent its retries is
reported once exactly while none of them is a failed trial. -/
theorem run_reported_iff (calls : List (Call β)) :
    (∀ record ∈ client.records .fresh calls, client.Reported record) ↔
      ∀ record ∈ client.records .fresh calls, ¬ client.FailedTrial record :=
  forall_congr' fun _ => forall_congr' fun hrecord =>
    client.reported_iff_not_failedTrial (client.got_of_mem_records hrecord)

/-- The thresholds the services start with. -/
def defaults : ResilientClient where
  serviceName := .incident
  dependency := "asset-service"
  maxAttempts := 3
  maxAttempts_pos := by decide
  breaker := ⟨3, 15000000, by decide⟩

/-- A lookup that finds asset-service down, at a second. -/
def lookupDown (second : Micros) : Call Unit where
  path := "/api/v1/assets/1"
  correlationId := "corr-000000000001"
  fallback := true
  ambient := "corr-000000000001"
  start := second * 1000000
  stop := second * 1000000
  responses := fun _ => .failed "ConnectError: connection refused"
  path_visible := not_blank_lit (by decide +kernel)
  correlation_visible := lit_correlation_visible
  ambient_visible := lit_correlation_visible

/-- Three lookups trip the breaker, and the trial past the reset time fails. -/
theorem trial_unreported :
    ¬ ∀ (client : ResilientClient) (calls : List (Call Unit)),
      ∀ record ∈ client.records .fresh calls, client.Reported record := by
  intro reported
  have trial : ∃ record ∈ defaults.records .fresh
      [lookupDown 0, lookupDown 1, lookupDown 2, lookupDown 20], defaults.FailedTrial record := by
    decide +kernel
  obtain ⟨record, hrecord, failed⟩ := trial
  exact (defaults.reported_iff_not_failedTrial (defaults.got_of_mem_records hrecord)).mp
    (reported defaults _ record hrecord) failed

/-! ### What is counted -/

/-- For each call of a run, whether it reached the network and spent its retries. -/
def exhaustions (breaker : Breaker) (calls : List (Call β)) : List Bool :=
  (client.records breaker calls).map fun record =>
    record.got.attempts ≠ 0 ∧ client.Exhausts record.call

theorem records_concat (breaker : Breaker) (calls : List (Call β)) (call : Call β) :
    client.records breaker (calls ++ [call]) =
      client.records breaker calls ++
        [⟨call, client.after breaker calls, client.perform (client.after breaker calls) call⟩] := by
  induction calls generalizing breaker with
  | nil => rfl
  | cons first calls ih =>
      rw [List.cons_append, records, records, ih]
      rfl

theorem exhaustions_concat (breaker : Breaker) (calls : List (Call β)) (call : Call β) :
    client.exhaustions breaker (calls ++ [call]) =
      client.exhaustions breaker calls ++
        [decide ((client.perform (client.after breaker calls) call).attempts ≠ 0 ∧
          client.Exhausts call)] := by
  rw [exhaustions, records_concat, List.map_append]
  rfl

/-- How many of the last calls in a row are marked. -/
def streak (marks : List Bool) : Nat := (marks.reverse.takeWhile id).length

theorem streak_concat (marks : List Bool) (mark : Bool) :
    streak (marks ++ [mark]) = if mark then streak marks + 1 else 0 := by
  cases mark <;> simp [streak]

/-- A streak is as long as a row of marks at the end. -/
theorem replicate_suffix_iff (marks : List Bool) (n : Nat) :
    List.replicate n true <:+ marks ↔ n ≤ streak marks := by
  induction marks using List.reverseRecOn generalizing n with
  | nil => simp [streak]
  | append_singleton marks mark ih =>
      cases n with
      | zero => simp
      | succ n =>
          rw [List.replicate_succ', List.suffix_concat_iff, streak_concat]
          cases mark with
          | true => simp [ih]
          | false => simp

/-- While the breaker is closed its counter is the current streak of calls that
spent their retries, and that is below the threshold. -/
def Counted (breaker : Breaker) (marks : List Bool) : Prop :=
  breaker.state = .closed →
    breaker.failCounter = streak marks ∧ streak marks < client.breaker.failMax

/-- What one call makes of the breaker and of its mark. -/
theorem perform_cases (breaker : Breaker) (call : Call β) :
    (breaker.Blocks client.breaker call.start ∧ (client.perform breaker call).breaker = breaker ∧
      (client.perform breaker call).attempts = 0) ∨
    (¬ client.Exhausts call ∧ (client.perform breaker call).breaker = ⟨.closed, 0⟩ ∧
      (client.perform breaker call).attempts = (client.callWithRetry call).2) ∨
    (client.Exhausts call ∧ breaker.state = .closed ∧
      breaker.failCounter + 1 < client.breaker.failMax ∧
      (client.perform breaker call).breaker = ⟨.closed, breaker.failCounter + 1⟩ ∧
      (client.perform breaker call).attempts = (client.callWithRetry call).2) ∨
    (client.Exhausts call ∧
      (breaker.state = .closed → client.breaker.failMax ≤ breaker.failCounter + 1) ∧
      (client.perform breaker call).breaker = ⟨.opened call.stop, breaker.failCounter + 1⟩ ∧
      (client.perform breaker call).attempts = (client.callWithRetry call).2) := by
  by_cases blocks : breaker.Blocks client.breaker call.start
  · obtain ⟨same, none, -⟩ := get_of_blocks breaker.isOpen blocks
    exact .inl ⟨blocks, same, none⟩
  · by_cases exhausts : client.Exhausts call
    · by_cases below : breaker.state = .closed ∧ breaker.failCounter + 1 < client.breaker.failMax
      · obtain ⟨counted, attempts, -⟩ :=
          get_of_counted breaker.isOpen below.1 exhausts below.2
        exact .inr (.inr (.inl ⟨exhausts, below.1, below.2, counted, attempts⟩))
      · have reached (closed : breaker.state = .closed) :
            client.breaker.failMax ≤ breaker.failCounter + 1 :=
          Nat.not_lt.mp fun less => below ⟨closed, less⟩
        obtain ⟨opened, attempts, -⟩ :=
          get_of_opening breaker.isOpen blocks exhausts (Breaker.opens_of_not_below below)
        exact .inr (.inr (.inr ⟨exhausts, reached, opened, attempts⟩))
    · obtain ⟨settled, attempts, -⟩ :=
        get_of_settled breaker.isOpen blocks exhausts
      exact .inr (.inl ⟨exhausts, settled, attempts⟩)

/-- One call keeps the counter and the streak together. -/
theorem counted_step {breaker : Breaker} {marks : List Bool}
    (counted : client.Counted breaker marks)
    (call : Call β) :
    client.Counted (client.perform breaker call).breaker
      (marks ++ [decide ((client.perform breaker call).attempts ≠ 0 ∧ client.Exhausts call)]) := by
  intro closed
  rw [streak_concat]
  rcases client.perform_cases breaker call with ⟨blocks, same, -⟩ | ⟨settled, result, attempts⟩ |
    ⟨exhausts, hstate, below, result, attempts⟩ | ⟨-, -, result, -⟩
  · -- a blocked call leaves the breaker open
    rw [same] at closed
    rw [Breaker.Blocks, closed] at blocks
    exact blocks.elim
  · have unmarked : ¬ ((client.perform breaker call).attempts ≠ 0 ∧ client.Exhausts call) :=
      fun mark => settled mark.2
    rw [decide_eq_false unmarked, result]
    exact ⟨rfl, client.breaker.failMax_pos⟩
  · have marked : (client.perform breaker call).attempts ≠ 0 ∧ client.Exhausts call :=
      ⟨attempts ▸ client.attempts_pos call, exhausts⟩
    rw [decide_eq_true marked, result]
    have streaks := counted hstate
    simp only [if_true]
    omega
  · rw [result] at closed
    cases closed

/-- Every run keeps them together. -/
theorem counted_after (calls : List (Call β)) :
    client.Counted (client.after .fresh calls) (client.exhaustions .fresh calls) := by
  induction calls using List.reverseRecOn with
  | nil => exact fun _ => ⟨rfl, client.breaker.failMax_pos⟩
  | append_singleton calls call ih =>
      rw [after_concat, exhaustions_concat]
      exact client.counted_step ih call

section Policy

variable (breaker : Breaker) (call : Call β)

theorem attempts_le_tried :
    (client.perform breaker call).attempts ≤ (client.callWithRetry call).2 := by
  rcases client.perform_cases breaker call with ⟨-, -, attempts⟩ | ⟨-, -, attempts⟩ |
    ⟨-, -, -, -, attempts⟩ | ⟨-, -, -, attempts⟩
  · rw [attempts]
    exact Nat.zero_le _
  all_goals exact attempts.le

theorem attempts_le : (client.perform breaker call).attempts ≤ client.maxAttempts := by
  apply (client.attempts_le_tried breaker call).trans
  have bound : (client.callWithRetry call).2 ≤ 0 + (client.maxAttempts - 1) + 1 := retrying_le
  have positive := client.maxAttempts_pos
  omega

/-- An attempt is repeated only after a transient failure. -/
theorem transient_of_repeated {n : Nat}
    (repeated : n + 1 < (client.perform breaker call).attempts) :
    (call.responses n).Transient :=
  fails_attempt_iff.mp (fails_of_lt_retrying (Nat.zero_le n)
    (lt_of_lt_of_le repeated (client.attempts_le_tried breaker call)))

theorem failCounter_le :
    (client.perform breaker call).breaker.failCounter ≤ breaker.failCounter + 1 := by
  rcases client.perform_cases breaker call with ⟨-, same, -⟩ | ⟨-, settled, -⟩ |
    ⟨-, -, -, counted, -⟩ | ⟨-, -, opened, -⟩
  · rw [same]
    exact Nat.le_succ _
  · rw [settled]
    exact Nat.zero_le _
  · rw [counted]
  · rw [opened]

/-- A call answered with a client error ends there and resets the count. -/
theorem settled_of_clientError {n status : Nat} {body : Option β}
    (made : n < (client.perform breaker call).attempts)
    (answered : call.responses n = .answered status body)
    (below : status < 500) :
    (client.perform breaker call).attempts = n + 1 ∧
      (client.perform breaker call).breaker = ⟨.closed, 0⟩ := by
  have calm : ¬ (call.responses n).Transient := by
    rw [answered]
    exact Nat.not_le.mpr below
  have last : (client.perform breaker call).attempts = n + 1 := by
    refine le_antisymm (Nat.not_lt.mp fun more => ?_) made
    exact calm (client.transient_of_repeated breaker call more)
  refine ⟨last, ?_⟩
  have settles (attempts : (client.perform breaker call).attempts =
      (client.callWithRetry call).2) : ¬ client.Exhausts call := by
    intro exhausts
    unfold Exhausts callWithRetry at exhausts
    rw [retrying_result] at exhausts
    have tried : (client.callWithRetry call).2 - 1 = n := by omega
    have same : (retrying (fun n => attempt client.dependency (call.responses n))
        (client.maxAttempts - 1) 0).2 - 1 = n := tried
    rw [same] at exhausts
    exact calm (fails_attempt_iff.mp exhausts)
  rcases client.perform_cases breaker call with ⟨-, -, none⟩ | ⟨-, settled, -⟩ |
    ⟨exhausts, -, -, -, attempts⟩ | ⟨exhausts, -, -, attempts⟩
  · omega
  · exact settled
  · exact absurd exhausts (settles attempts)
  · exact absurd exhausts (settles attempts)

/-- A closed breaker opens exactly on a full row of calls that spent their
retries. -/
theorem opens_iff {marks : List Bool} (counted : client.Counted breaker marks)
    (closed : breaker.state = .closed) :
    (client.perform breaker call).breaker.isOpen = true ↔
      List.replicate client.breaker.failMax true <:+
        marks ++ [decide ((client.perform breaker call).attempts ≠ 0 ∧ client.Exhausts call)] := by
  obtain ⟨counter, below⟩ := counted closed
  have positive := client.breaker.failMax_pos
  rw [replicate_suffix_iff, streak_concat]
  rcases client.perform_cases breaker call with ⟨blocks, -, -⟩ | ⟨settled, result, -⟩ |
    ⟨exhausts, -, less, result, attempts⟩ | ⟨exhausts, reached, result, attempts⟩
  · rw [Breaker.Blocks, closed] at blocks
    exact blocks.elim
  · have unmarked : ¬ ((client.perform breaker call).attempts ≠ 0 ∧ client.Exhausts call) :=
      fun mark => settled mark.2
    rw [decide_eq_false unmarked, result]
    exact iff_of_false Bool.false_ne_true (Nat.not_le.mpr positive)
  · have marked : (client.perform breaker call).attempts ≠ 0 ∧ client.Exhausts call :=
      ⟨attempts ▸ client.attempts_pos call, exhausts⟩
    rw [decide_eq_true marked, result]
    simp only [if_true]
    exact iff_of_false Bool.false_ne_true (by omega)
  · have marked : (client.perform breaker call).attempts ≠ 0 ∧ client.Exhausts call :=
      ⟨attempts ▸ client.attempts_pos call, exhausts⟩
    have full := reached closed
    rw [decide_eq_true marked, result]
    simp only [if_true]
    exact iff_of_true rfl (by omega)

end Policy

/-- What every call of every run keeps to: it makes no more attempts than
allowed, each after the first only because the one before failed transiently,
and counts once at most; a closed breaker opens exactly on a full row of calls
that spent their retries; a client error is not retried and resets the count; a
blocked call makes no attempt. -/
theorem run_keeps_policy (earlier : List (Call β)) (call : Call β) :
    let before := client.after .fresh earlier
    let got := client.perform before call
    got.attempts ≤ client.maxAttempts ∧
      (∀ n, n + 1 < got.attempts → (call.responses n).Transient) ∧
      got.breaker.failCounter ≤ before.failCounter + 1 ∧
      (before.state = .closed →
        (got.breaker.isOpen = true ↔
          List.replicate client.breaker.failMax true <:+
            client.exhaustions .fresh (earlier ++ [call]))) ∧
      (∀ n status body, n < got.attempts → call.responses n = .answered status body →
        400 ≤ status → status < 500 → got.attempts = n + 1 ∧ got.breaker = ⟨.closed, 0⟩) ∧
      (before.Blocks client.breaker call.start → got.attempts = 0) := by
  intro before got
  refine ⟨client.attempts_le before call, fun n => client.transient_of_repeated before call,
    client.failCounter_le before call, fun closed => ?_,
    fun n status body made answered _ => client.settled_of_clientError before call made answered,
    fun blocks => ?_⟩
  · rw [exhaustions_concat]
    exact client.opens_iff before call (client.counted_after earlier) closed
  · exact (get_of_blocks before.isOpen blocks).2.1

/-! ## Interleaved -/

/-- What one caller does next: read the state, or make its call. -/
inductive Action (β : Type)
  | read (caller : Nat)
  | call (caller : Nat) (call : Call β)

/-- The shared breaker, and what each caller that has not made its call yet has
read. -/
structure Shared where
  breaker : Breaker
  seen : Nat → Option Bool

/-- A call as it was made: the breaker it found, what its caller had read, and
what it left. -/
structure SharedRecord (β : Type) extends Record β where
  wasOpen : Bool

/-- One step; a call follows its caller's reading. -/
def act (shared : Shared) : Action β → Shared × List (SharedRecord β)
  | .read caller =>
      ⟨{ shared with seen := Function.update shared.seen caller (some shared.breaker.isOpen) }, []⟩
  | .call caller call =>
      match shared.seen caller with
      | none => (shared, [])
      | some wasOpen =>
          let got := client.get shared.breaker wasOpen call
          (⟨got.breaker, Function.update shared.seen caller none⟩,
            [⟨⟨call, shared.breaker, got⟩, wasOpen⟩])

/-- The records of an interleaving. -/
def interleaved (shared : Shared) : List (Action β) → List (SharedRecord β)
  | [] => []
  | action :: actions =>
      (client.act shared action).2 ++ interleaved (client.act shared action).1 actions

/-- A fresh breaker no one has read. -/
def Shared.fresh : Shared := ⟨.fresh, fun _ => none⟩

/-- A call that made no attempt left no failure on the stream. -/
def Silent (record : SharedRecord β) : Prop :=
  failures record.got.events ≠ [] → record.got.attempts ≠ 0

/-- The breaker blocks a call whose caller had read it as not open. -/
def Overtaken (record : SharedRecord β) : Prop :=
  record.wasOpen = false ∧ record.before.Blocks client.breaker record.call.start

instance (record : SharedRecord β) : Decidable (client.Overtaken record) :=
  inferInstanceAs (Decidable (_ ∧ _))

/-- Every record is a call made on the breaker it found. -/
theorem got_of_mem_interleaved {shared : Shared} {actions : List (Action β)}
    {record : SharedRecord β} (hrecord : record ∈ client.interleaved shared actions) :
    record.got = client.get record.before record.wasOpen record.call := by
  induction actions generalizing shared with
  | nil => cases hrecord
  | cons action actions ih =>
      rcases List.mem_append.mp hrecord with here | later
      · cases action with
        | read caller => cases here
        | call caller call =>
            rw [act] at here
            split at here
            · cases here
            · rw [List.mem_singleton.mp here]
      · exact ih later

/-- One call is silent unless it was overtaken. -/
theorem silent_iff_not_overtaken {record : SharedRecord β}
    (made : record.got = client.get record.before record.wasOpen record.call) :
    Silent record ↔ ¬ client.Overtaken record := by
  unfold Silent Overtaken
  rw [made]
  by_cases blocks : record.before.Blocks client.breaker record.call.start
  · obtain ⟨-, none, events⟩ := get_of_blocks record.wasOpen blocks
    rw [none, events]
    cases record.wasOpen with
    | true =>
        exact iff_of_true (fun found => absurd rfl found) fun overtaken => by cases overtaken.1
    | false =>
        exact iff_of_false (fun silent => silent (List.cons_ne_nil _ _) rfl)
          fun calm => calm ⟨rfl, blocks⟩
  · refine iff_of_true (fun _ => ?_) fun overtaken => blocks overtaken.2
    have reached : (client.get record.before record.wasOpen record.call).attempts =
        (client.callWithRetry record.call).2 := by
      by_cases exhausts : client.Exhausts record.call
      · by_cases below : record.before.state = .closed ∧
          record.before.failCounter + 1 < client.breaker.failMax
        · exact (get_of_counted record.wasOpen below.1 exhausts below.2).2.1
        · have opens := Breaker.opens_of_not_below below
          exact (get_of_opening record.wasOpen blocks exhausts opens).2.1
      · exact (get_of_settled record.wasOpen blocks exhausts).2.1
    rw [reached]
    exact client.attempts_pos record.call

/-- In an interleaving, a failure is reported only for calls that made an attempt
exactly while no call is overtaken. -/
theorem interleaving_silent_iff (actions : List (Action β)) :
    (∀ record ∈ client.interleaved .fresh actions, Silent record) ↔
      ∀ record ∈ client.interleaved .fresh actions, ¬ client.Overtaken record :=
  forall_congr' fun _ => forall_congr' fun hrecord =>
    client.silent_iff_not_overtaken (client.got_of_mem_interleaved hrecord)

/-- Four callers read a closed breaker; three of their calls open it, and the
fourth is suppressed and reported all the same. -/
theorem suppressed_reported :
    ¬ ∀ (client : ResilientClient) (actions : List (Action Unit)),
      ∀ record ∈ client.interleaved .fresh actions, Silent record := by
  intro silent
  have overtaken : ∃ record ∈ defaults.interleaved .fresh
      [.read 0, .read 1, .read 2, .read 3, .call 0 (lookupDown 0), .call 1 (lookupDown 1),
        .call 2 (lookupDown 2), .call 3 (lookupDown 3)], defaults.Overtaken record := by
    decide +kernel
  obtain ⟨record, hrecord, blocked⟩ := overtaken
  exact (defaults.silent_iff_not_overtaken (defaults.got_of_mem_interleaved hrecord)).mp
    (silent defaults _ record hrecord) blocked

end SentinelIR.Common.ResilientClient
