/-
# Retry and circuit breaker

The two libraries behind every call between services, as the client uses them.
A retry repeats an attempt while it fails transiently and attempts are left. A
breaker counts the calls whose retries are spent: at the threshold it opens, and
until its reset time has passed it refuses calls without making them; the first
call after that is a trial, whose outcome closes the breaker or opens it again.
-/

import SentinelIR.Common.Errors
import SentinelIR.Py.Datetime

namespace SentinelIR.Common

open SentinelIR.Py

variable {β : Type}

/-! ## Retry -/

/-- The exception class retry and breaker count. -/
def Exc.isTransient : Exc → Bool
  | .transient _ => true
  | _ => false

/-- The result is a transient failure. -/
def Fails (result : Except Exc β) : Prop :=
  match result with
  | .error raised => raised.isTransient = true
  | .ok _ => False

instance (result : Except Exc β) : Decidable (Fails result) :=
  match result with
  | .error raised => inferInstanceAs (Decidable (raised.isTransient = true))
  | .ok _ => inferInstanceAs (Decidable False)

/-- The attempts from number `tried` on, with `left` more after this one: the
last result, and how many attempts were made in all. -/
def retrying (attempt : Nat → Except Exc β) : (left tried : Nat) → Except Exc β × Nat
  | 0, tried => (attempt tried, tried + 1)
  | left + 1, tried =>
      if Fails (attempt tried) then retrying attempt left (tried + 1)
      else (attempt tried, tried + 1)

section Retry

variable {attempt : Nat → Except Exc β} {left tried : Nat}

/-- The result is that of the last attempt made. -/
theorem retrying_result :
    (retrying attempt left tried).1 = attempt ((retrying attempt left tried).2 - 1) := by
  induction left generalizing tried with
  | zero => rfl
  | succ left ih =>
      rw [retrying]
      split
      · exact ih
      · rfl

theorem lt_retrying : tried < (retrying attempt left tried).2 := by
  induction left generalizing tried with
  | zero => exact Nat.lt_succ_self tried
  | succ left ih =>
      rw [retrying]
      split
      · exact lt_trans (Nat.lt_succ_self tried) ih
      · exact Nat.lt_succ_self tried

theorem retrying_le : (retrying attempt left tried).2 ≤ tried + left + 1 := by
  induction left generalizing tried with
  | zero => exact le_rfl
  | succ left ih =>
      rw [retrying]
      split
      · exact le_trans ih (by omega)
      · change tried + 1 ≤ _
        omega

/-- Every attempt that another one follows failed transiently. -/
theorem fails_of_lt_retrying {n : Nat} (first : tried ≤ n)
    (followed : n + 1 < (retrying attempt left tried).2) : Fails (attempt n) := by
  induction left generalizing tried with
  | zero =>
      have last : n + 1 < tried + 1 := followed
      omega
  | succ left ih =>
      rw [retrying] at followed
      split at followed
      · next fails =>
          rcases Nat.eq_or_lt_of_le first with rfl | later
          · exact fails
          · exact ih later followed
      · have last : n + 1 < tried + 1 := followed
        omega

/-- A transient result means that all attempts are spent. -/
theorem spent_of_fails (fails : Fails (retrying attempt left tried).1) :
    (retrying attempt left tried).2 = tried + left + 1 := by
  induction left generalizing tried with
  | zero => rfl
  | succ left ih =>
      rw [retrying] at fails ⊢
      split at fails
      · next failed =>
          rw [if_pos failed, ih fails]
          omega
      · next done => exact absurd fails done

end Retry

/-! ## The breaker -/

/-- `STATE_CLOSED` and `STATE_OPEN`. The half-open state exists only inside the
call that is its trial. -/
inductive BreakerState
  | closed
  | opened (since : Micros)
  deriving DecidableEq

/-- A breaker: its state and its failure counter. -/
structure Breaker where
  state : BreakerState
  failCounter : Nat
  deriving DecidableEq

/-- The thresholds of a breaker, as `CircuitBreaker` takes them. -/
structure BreakerSettings where
  failMax : Nat
  resetTimeout : Micros
  failMax_pos : 0 < failMax

/-- What `breaker.call` ends with. -/
inductive Verdict (β : Type)
  /-- The call's own result, returned or raised again. -/
  | passed (result : Except Exc β)
  /-- `CircuitBreakerError` before the call was made. -/
  | refused
  /-- `CircuitBreakerError`, raised from the failure that opened the breaker. -/
  | tripped (cause : Exc)

/-- A state change the listeners hear of. -/
inductive Change
  | opened
  | closed
  deriving DecidableEq

namespace Breaker

/-- A breaker as it is constructed. -/
def fresh : Breaker := ⟨.closed, 0⟩

/-- `current_state == STATE_OPEN`. -/
def isOpen (breaker : Breaker) : Bool :=
  match breaker.state with
  | .closed => false
  | .opened _ => true

theorem isOpen_iff {breaker : Breaker} : breaker.isOpen = true ↔ breaker.state ≠ .closed := by
  unfold isOpen
  cases breaker.state <;> simp

/-- The breaker is open and its reset time has not elapsed. -/
def Blocks (settings : BreakerSettings) (breaker : Breaker) (now : Micros) : Prop :=
  match breaker.state with
  | .closed => False
  | .opened since => now < since + settings.resetTimeout

instance (settings : BreakerSettings) (breaker : Breaker) (now : Micros) :
    Decidable (breaker.Blocks settings now) := by
  unfold Blocks
  cases breaker.state <;> infer_instance

/-- What one call makes of the breaker. -/
structure Step (β : Type) where
  breaker : Breaker
  verdict : Verdict β
  changes : List Change

/-- `call`, at `start`, of a function that ends at `stop` with `result`. -/
def call (settings : BreakerSettings) (breaker : Breaker) (start stop : Micros)
    (result : Except Exc β) : Step β :=
  match breaker.state with
  | .closed =>
      match result with
      | .error raised =>
          if raised.isTransient then
            let counter := breaker.failCounter + 1
            if settings.failMax ≤ counter then
              ⟨⟨.opened stop, counter⟩, .tripped raised, [.opened]⟩
            else ⟨⟨.closed, counter⟩, .passed result, []⟩
          else ⟨⟨.closed, 0⟩, .passed result, []⟩
      | .ok _ => ⟨⟨.closed, 0⟩, .passed result, []⟩
  | .opened since =>
      if start < since + settings.resetTimeout then ⟨breaker, .refused, []⟩
      else
        match result with
        | .error raised =>
            if raised.isTransient then
              ⟨⟨.opened stop, breaker.failCounter + 1⟩, .tripped raised, [.opened]⟩
            else ⟨⟨.closed, 0⟩, .passed result, [.closed]⟩
        | .ok _ => ⟨⟨.closed, 0⟩, .passed result, [.closed]⟩

/-! ### What a call can do -/

section Call

variable {settings : BreakerSettings} {breaker : Breaker} {start stop : Micros}
  {result : Except Exc β}

/-- A blocked call leaves everything as it was. -/
theorem call_of_blocks (blocks : breaker.Blocks settings start) :
    breaker.call settings start stop result = ⟨breaker, .refused, []⟩ := by
  unfold Blocks at blocks
  unfold call
  cases hstate : breaker.state with
  | closed =>
      rw [hstate] at blocks
      exact blocks.elim
  | opened since =>
      rw [hstate] at blocks
      exact if_pos blocks

/-- A call that is made and does not fail transiently closes the breaker, or
leaves it closed, with nothing counted. -/
theorem call_of_settled (stop : Micros) (free : ¬ breaker.Blocks settings start)
    (settled : ¬ Fails result) :
    ∃ changes, breaker.call settings start stop result =
      ⟨⟨.closed, 0⟩, .passed result, changes⟩ := by
  unfold Blocks at free
  unfold call
  cases hstate : breaker.state with
  | closed =>
      cases result with
      | ok value => exact ⟨_, rfl⟩
      | error raised => exact ⟨_, if_neg settled⟩
  | opened since =>
      rw [hstate] at free
      simp only [if_neg free]
      cases result with
      | ok value => exact ⟨_, rfl⟩
      | error raised => exact ⟨_, if_neg settled⟩

/-- A transient failure below the threshold is counted and raised again. -/
theorem call_of_counted (closed : breaker.state = .closed) {raised : Exc}
    (fails : raised.isTransient = true) (below : breaker.failCounter + 1 < settings.failMax) :
    breaker.call settings start stop (.error raised : Except Exc β) =
      ⟨⟨.closed, breaker.failCounter + 1⟩, .passed (.error raised), []⟩ := by
  unfold call
  rw [closed]
  simp only [fails, if_true, if_neg (Nat.not_le.mpr below)]

/-- A transient failure at the threshold opens the breaker. -/
theorem call_of_tripped (closed : breaker.state = .closed) {raised : Exc}
    (fails : raised.isTransient = true) (reached : settings.failMax ≤ breaker.failCounter + 1) :
    breaker.call settings start stop (.error raised : Except Exc β) =
      ⟨⟨.opened stop, breaker.failCounter + 1⟩, .tripped raised, [.opened]⟩ := by
  unfold call
  rw [closed]
  simp only [fails, if_true, if_pos reached]

/-- A trial that fails transiently opens the breaker again. -/
theorem call_of_failed_trial (isOpen : breaker.isOpen = true)
    (free : ¬ breaker.Blocks settings start) {raised : Exc}
    (fails : raised.isTransient = true) :
    breaker.call settings start stop (.error raised : Except Exc β) =
      ⟨⟨.opened stop, breaker.failCounter + 1⟩, .tripped raised, [.opened]⟩ := by
  unfold Blocks at free
  unfold Breaker.isOpen at isOpen
  unfold call
  cases hstate : breaker.state with
  | closed =>
      rw [hstate] at isOpen
      cases isOpen
  | opened since =>
      rw [hstate] at free
      simp only [if_neg free, fails, if_true]

/-- A failure that is not counted below the threshold opens the breaker. -/
theorem opens_of_not_below
    (reached : ¬ (breaker.state = .closed ∧ breaker.failCounter + 1 < settings.failMax)) :
    breaker.isOpen = true ∨ settings.failMax ≤ breaker.failCounter + 1 := by
  by_cases closed : breaker.state = .closed
  · exact .inr (Nat.not_lt.mp fun less => reached ⟨closed, less⟩)
  · exact .inl (isOpen_iff.mpr closed)

/-- A transient failure of a trial or at the threshold opens the breaker. -/
theorem call_of_opening (free : ¬ breaker.Blocks settings start)
    (opens : breaker.isOpen = true ∨ settings.failMax ≤ breaker.failCounter + 1) {raised : Exc}
    (fails : raised.isTransient = true) :
    breaker.call settings start stop (.error raised : Except Exc β) =
      ⟨⟨.opened stop, breaker.failCounter + 1⟩, .tripped raised, [.opened]⟩ := by
  by_cases closed : breaker.state = .closed
  · have reached := opens.resolve_left fun trial => isOpen_iff.mp trial closed
    exact call_of_tripped closed fails reached
  · exact call_of_failed_trial (isOpen_iff.mpr closed) free fails

end Call

end Breaker

end SentinelIR.Common
