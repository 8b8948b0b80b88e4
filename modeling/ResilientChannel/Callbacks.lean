import ResilientChannel.Notice

/-!
The application's callbacks: one slot for each kind of notice, and the last registration wins.

`Callbacks.slot` is the view. `Callbacks.slot_register` says what a registration does to it: the
slot of its kind holds the new callback and the other two are untouched.
-/

namespace ResilientChannel

/-- One callback of type `α`, or none, for each kind of notice. -/
structure Callbacks (α : Type) where
  message : Option α := none
  connect : Option α := none
  disconnect : Option α := none

namespace Callbacks

variable {α : Type}

/-- The callback registered for a kind. -/
def slot (c : Callbacks α) : NoticeKind → Option α
  | .message => c.message
  | .connect => c.connect
  | .disconnect => c.disconnect

/-- Installs a callback for a kind in place of the one before it. -/
def register (c : Callbacks α) (kind : NoticeKind) (callback : α) : Callbacks α :=
  match kind with
  | .message => { c with message := some callback }
  | .connect => { c with connect := some callback }
  | .disconnect => { c with disconnect := some callback }

/-- The callback that receives a notice; without one the notice is dropped. -/
def receiver (c : Callbacks α) (notice : Notice) : Option α := c.slot notice.kind

theorem slot_register (c : Callbacks α) (kind other : NoticeKind) (callback : α) :
    (c.register kind callback).slot other =
      if other = kind then some callback else c.slot other := by
  cases kind <;> cases other <;> rfl

@[simp]
theorem slot_empty (kind : NoticeKind) : ({} : Callbacks α).slot kind = none := by
  cases kind <;> rfl

end Callbacks

end ResilientChannel
