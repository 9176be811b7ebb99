/-
# Computations on the event stream

What a request handler computes is a result or an exception, together with the
events it left on the stream before it got there.
-/

import SentinelIR.Common.Events

namespace SentinelIR.Common

open SentinelIR.Py

/-- A result or an exception, and the events emitted on the way. -/
structure Traced (α : Type) where
  result : Except Exc α
  emitted : List EventBody

namespace Traced

variable {α β : Type}

/-- Return without emitting. -/
protected def pure (value : α) : Traced α := ⟨.ok value, []⟩

/-- Raise without emitting. -/
def raise (raised : Exc) : Traced α := ⟨.error raised, []⟩

/-- `emit_event(build_event(…))`: nothing is emitted where validation fails. -/
def emit (fields : EventFields) : Traced Unit :=
  match buildEvent fields with
  | .ok body => ⟨.ok (), [body]⟩
  | .error raised => ⟨.error raised, []⟩

/-- Run one computation, then the next one on its result. -/
protected def bind (first : Traced α) (next : α → Traced β) : Traced β :=
  match first.result with
  | .ok value => ⟨(next value).result, first.emitted ++ (next value).emitted⟩
  | .error raised => ⟨.error raised, first.emitted⟩

instance : Monad Traced where
  pure := Traced.pure
  bind := Traced.bind

theorem bind_of_ok {first : Traced α} {value : α} (returned : first.result = .ok value)
    (next : α → Traced β) :
    first >>= next = ⟨(next value).result, first.emitted ++ (next value).emitted⟩ := by
  change Traced.bind first next = _
  rw [Traced.bind, returned]

theorem bind_of_error {first : Traced α} {raised : Exc} (failed : first.result = .error raised)
    (next : α → Traced β) : first >>= next = ⟨.error raised, first.emitted⟩ := by
  change Traced.bind first next = _
  rw [Traced.bind, failed]

/-- A result that is only wrapped. -/
theorem map_eq (wrap : α → β) (first : Traced α) :
    wrap <$> first = ⟨first.result.map wrap, first.emitted⟩ := by
  change Traced.bind first (fun value => Traced.pure (wrap value)) = _
  rw [Traced.bind]
  cases first.result with
  | error raised => rfl
  | ok value => exact congrArg (Traced.mk _) (List.append_nil _)

/-- Valid fields are emitted as they are. -/
theorem emit_of_valid {fields : EventFields} (valid : fields.Valid) :
    emit fields = ⟨.ok (), [⟨fields, valid⟩]⟩ := by
  have normal := normalised_of_valid valid
  have built : buildEvent fields = .ok ⟨fields, valid⟩ := by
    rw [buildEvent_eq_ok (by rw [normal]; exact valid)]
    simp only [normal]
  rw [emit, built]

end Traced

end SentinelIR.Common
