/-
# The history of a breaker

Every change a breaker goes through is announced by one event. Along a run the
announcements alternate as the states do: an opening may follow an opening, when
a trial fails, and a closing follows an opening only.
-/

import SentinelIR.Common.ClientRuns

namespace SentinelIR.Common

open SentinelIR.Py

variable {β : Type}

/-- The type of the event that announces a change. -/
def Change.eventType : Change → EventType
  | .opened => .circuitOpened
  | .closed => .circuitClosed

/-- The circuit events among some events, by their types. -/
def announced (events : List EventBody) : List EventType :=
  (events.map (·.eventType)).filter fun eventType =>
    eventType = .circuitOpened ∨ eventType = .circuitClosed

theorem announced_append (first second : List EventBody) :
    announced (first ++ second) = announced first ++ announced second := by
  rw [announced, List.map_append, List.filter_append]
  rfl

/-- What one call announces of a breaker. -/
theorem Breaker.call_changes (settings : BreakerSettings) (breaker : Breaker) (start stop : Micros)
    (result : Except Exc β) :
    let step := breaker.call settings start stop result
    (step.changes = [] ∧ step.breaker.isOpen = breaker.isOpen) ∨
      (step.changes = [.opened] ∧ step.breaker.isOpen = true) ∨
      (step.changes = [.closed] ∧ breaker.isOpen = true ∧ step.breaker.isOpen = false) := by
  intro step
  by_cases blocks : breaker.Blocks settings start
  · left
    simp only [step, Breaker.call_of_blocks blocks]
    exact ⟨trivial, trivial⟩
  · unfold Breaker.Blocks at blocks
    simp only [step, Breaker.call, Breaker.isOpen]
    cases hstate : breaker.state with
    | closed =>
        cases result with
        | ok value => exact .inl ⟨rfl, rfl⟩
        | error raised =>
            dsimp only
            split
            · split
              · exact .inr (.inl ⟨rfl, rfl⟩)
              · exact .inl ⟨rfl, rfl⟩
            · exact .inl ⟨rfl, rfl⟩
    | opened since =>
        rw [hstate] at blocks
        simp only [if_neg blocks]
        cases result with
        | ok value => exact .inr (.inr ⟨rfl, trivial, rfl⟩)
        | error raised =>
            dsimp only
            split
            · exact .inr (.inl ⟨rfl, rfl⟩)
            · exact .inr (.inr ⟨rfl, trivial, rfl⟩)

namespace ResilientClient

variable (client : ResilientClient)

theorem announced_changes (call : Call β) (changes : List Change) :
    announced (changes.map (client.changeEvent call)) = changes.map Change.eventType := by
  induction changes with
  | nil => rfl
  | cons change rest ih =>
      rw [List.map_cons, List.map_cons, ← ih]
      cases change <;> rfl

theorem announced_failure (call : Call β) (reason : Str) :
    announced [client.dependencyFailure call reason] = [] := rfl

/-- A call announces the changes of its breaker, and nothing else. -/
theorem announced_get (breaker : Breaker) (wasOpen : Bool) (call : Call β) :
    announced (client.get breaker wasOpen call).events =
      (breaker.call client.breaker call.start call.stop
        (client.callWithRetry call).1).changes.map Change.eventType := by
  have reported (reason : Str) :
      announced (if wasOpen then [] else [client.dependencyFailure call reason]) = [] := by
    cases wasOpen <;> rfl
  unfold get
  dsimp only
  split
  · rw [announced_append, announced_changes, reported, List.append_nil]
  · rw [announced_append, announced_changes, reported, List.append_nil]
  · split
    · exact client.announced_changes call _
    · split
      · rw [announced_append, announced_changes, announced_failure, List.append_nil]
      · exact client.announced_changes call _

/-- What one call by itself announces, and makes of the breaker. -/
theorem announced_perform (breaker : Breaker) (call : Call β) :
    (announced (client.perform breaker call).events = [] ∧
        (client.perform breaker call).breaker.isOpen = breaker.isOpen) ∨
      (announced (client.perform breaker call).events = [.circuitOpened] ∧
        (client.perform breaker call).breaker.isOpen = true) ∨
      (announced (client.perform breaker call).events = [.circuitClosed] ∧
        breaker.isOpen = true ∧ (client.perform breaker call).breaker.isOpen = false) := by
  have stepped : (client.perform breaker call).breaker =
      (breaker.call client.breaker call.start call.stop (client.callWithRetry call).1).breaker := by
    unfold perform get
    dsimp only
    split
    · rfl
    · rfl
    · split
      · rfl
      · split <;> rfl
  rw [stepped, perform, announced_get]
  rcases Breaker.call_changes client.breaker breaker call.start call.stop
    (client.callWithRetry call).1 with ⟨none, same⟩ | ⟨opened, isOpen⟩ | ⟨closed, was, now⟩
  · exact .inl ⟨by rw [none]; rfl, same⟩
  · exact .inr (.inl ⟨by rw [opened]; rfl, isOpen⟩)
  · exact .inr (.inr ⟨by rw [closed]; rfl, was, now⟩)

/-! ## Runs -/

/-- The circuit events of a run, in order. -/
def history (calls : List (Call β)) : List EventType :=
  announced ((client.records .fresh calls).flatMap fun record => record.got.events)

theorem history_concat (calls : List (Call β)) (call : Call β) :
    client.history (calls ++ [call]) = client.history calls ++
      announced (client.perform (client.after .fresh calls) call).events := by
  rw [history, records_concat, List.flatMap_append, announced_append, List.flatMap_cons,
    List.flatMap_nil, List.append_nil]
  rfl

/-- The history of a breaker that is open, or not: it ends in an opening exactly
when the breaker is open, and every closing in it follows an opening. -/
structure Tracks (types : List EventType) (isOpen : Bool) : Prop where
  latest : types.getLast? = some .circuitOpened ↔ isOpen = true
  closings : ∀ before after, types = before ++ .circuitClosed :: after →
    before.getLast? = some .circuitOpened

theorem tracks_nil : Tracks [] false where
  latest := by simp
  closings := by
    rintro before after split
    simp at split

theorem Tracks.opened {types : List EventType} {isOpen : Bool} (tracks : Tracks types isOpen) :
    Tracks (types ++ [.circuitOpened]) true where
  latest := by simp
  closings := by
    intro before after split
    rcases List.eq_nil_or_concat after with rfl | ⟨after, last, rfl⟩
    · have lasts := congrArg List.getLast? split
      simp at lasts
    · rw [List.concat_eq_append, ← List.cons_append, ← List.append_assoc] at split
      exact tracks.closings before after (List.append_inj_left' split rfl)

theorem Tracks.closed {types : List EventType} (tracks : Tracks types true) :
    Tracks (types ++ [.circuitClosed]) false where
  latest := by simp
  closings := by
    intro before after split
    rcases List.eq_nil_or_concat after with rfl | ⟨after, last, rfl⟩
    · rw [← List.append_inj_left' split rfl]
      exact tracks.latest.mpr rfl
    · rw [List.concat_eq_append, ← List.cons_append, ← List.append_assoc] at split
      exact tracks.closings before after (List.append_inj_left' split rfl)

/-- Every run keeps its history in step with the breaker. -/
theorem tracks_history (calls : List (Call β)) :
    Tracks (client.history calls) (client.after .fresh calls).isOpen := by
  induction calls using List.reverseRecOn with
  | nil => exact tracks_nil
  | append_singleton calls call ih =>
      rw [history_concat, after_concat]
      rcases client.announced_perform (client.after .fresh calls) call with
        ⟨none, same⟩ | ⟨opened, isOpen⟩ | ⟨closed, was, now⟩
      · rw [none, same, List.append_nil]
        exact ih
      · rw [opened, isOpen]
        exact ih.opened
      · rw [was] at ih
        rw [closed, now]
        exact ih.closed

/-- While no call has opened the breaker there is no circuit event. -/
theorem history_of_untripped (calls : List (Call β))
    (untripped : ∀ earlier later, calls = earlier ++ later →
      (client.after .fresh earlier).isOpen = false) : client.history calls = [] := by
  induction calls using List.reverseRecOn with
  | nil => rfl
  | append_singleton calls call ih =>
      have before := ih fun earlier later split =>
        untripped earlier (later ++ [call]) (by rw [split, List.append_assoc])
      have here := untripped (calls ++ [call]) [] (List.append_nil _).symm
      have was := untripped calls [call] rfl
      rw [after_concat] at here
      rw [history_concat, before, List.nil_append]
      rcases client.announced_perform (client.after .fresh calls) call with
        ⟨none, -⟩ | ⟨-, isOpen⟩ | ⟨-, isOpen, -⟩
      · exact none
      · rw [isOpen] at here
        cases here
      · rw [isOpen] at was
        cases was

/-- The circuit events of every run track its breaker: the latest says `OPENED`
exactly when the breaker is not closed, none comes before the breaker first trips,
and between two closings there is an opening. -/
theorem history_tracks (calls : List (Call β)) :
    ((client.history calls).getLast? = some .circuitOpened ↔
        (client.after .fresh calls).state ≠ .closed) ∧
      ((∀ earlier later, calls = earlier ++ later → (client.after .fresh earlier).state = .closed) →
        client.history calls = []) ∧
      ∀ before after, client.history calls = before ++ .circuitClosed :: after →
        ∃ earlier later, before = earlier ++ .circuitOpened :: later ∧ .circuitClosed ∉ later := by
  have tracks := client.tracks_history calls
  refine ⟨tracks.latest.trans Breaker.isOpen_iff, fun closed => ?_, fun before after split => ?_⟩
  · apply client.history_of_untripped calls
    intro earlier later split
    exact Bool.eq_false_iff.mpr fun trips => Breaker.isOpen_iff.mp trips (closed earlier later split)
  · obtain ⟨earlier, rfl⟩ := List.getLast?_eq_some_iff.mp (tracks.closings before after split)
    exact ⟨earlier, [], rfl, List.not_mem_nil⟩

end ResilientClient

end SentinelIR.Common
