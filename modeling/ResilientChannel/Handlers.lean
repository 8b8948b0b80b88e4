import ResilientChannel.TransportEvent

/-!
A transport's handlers: one slot for each kind of event, and the last registration wins.

`Handlers.slot` is the view; `Handlers.slot_register` says what a registration does to it.
-/

namespace ResilientChannel

/-- One handler of type `α`, or none, for each kind of transport event. -/
structure Handlers (α : Type) where
  connect : Option α := none
  disconnect : Option α := none
  error : Option α := none
  message : Option α := none
deriving Inhabited

namespace Handlers

variable {α : Type}

/-- The handler of a kind. -/
def slot (h : Handlers α) : TransportEventKind → Option α
  | .connect => h.connect
  | .disconnect => h.disconnect
  | .error => h.error
  | .message => h.message

/-- Installs a handler for a kind in place of the one before it. -/
def register (h : Handlers α) (kind : TransportEventKind) (handler : α) : Handlers α :=
  match kind with
  | .connect => { h with connect := some handler }
  | .disconnect => { h with disconnect := some handler }
  | .error => { h with error := some handler }
  | .message => { h with message := some handler }

/-- The handler that receives an event. -/
def receiver (h : Handlers α) (event : TransportEvent) : Option α := h.slot event.kind

/-- The same handler for every kind. -/
def uniform (handler : α) : Handlers α :=
  { connect := some handler, disconnect := some handler
    error := some handler, message := some handler }

theorem slot_register (h : Handlers α) (kind other : TransportEventKind) (handler : α) :
    (h.register kind handler).slot other = if other = kind then some handler else h.slot other := by
  cases kind <;> cases other <;> rfl

@[simp]
theorem slot_empty (kind : TransportEventKind) : ({} : Handlers α).slot kind = none := by
  cases kind <;> rfl

end Handlers

end ResilientChannel
