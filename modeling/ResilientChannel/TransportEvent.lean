import ResilientChannel.Parameters

/-!
What a transport reports: an opened connection, a lost one, a failure, or inbound data.
-/

namespace ResilientChannel

/-- The kinds of event a transport fires. -/
inductive TransportEventKind
  | connect
  | disconnect
  | error
  | message
deriving DecidableEq, Repr, Inhabited

namespace TransportEventKind

/-- Every kind. -/
def all : List TransportEventKind := [connect, disconnect, error, message]

/-- The name of a kind. -/
def name : TransportEventKind → String
  | connect => Parameters.connectEvent
  | disconnect => Parameters.disconnectEvent
  | error => Parameters.errorEvent
  | message => Parameters.messageEvent

/-- The kind of a given name. -/
def ofName? (s : String) : Option TransportEventKind := all.find? (·.name = s)

theorem ofName?_name (k : TransportEventKind) : ofName? k.name = some k := by
  cases k <;> decide

end TransportEventKind

/-- An event fired by a transport. -/
inductive TransportEvent
  | connect
  | disconnect
  | error (reason : String)
  | message (data : String)
deriving DecidableEq, Repr, Inhabited

namespace TransportEvent

/-- The kind of an event. -/
def kind : TransportEvent → TransportEventKind
  | connect => .connect
  | disconnect => .disconnect
  | error _ => .error
  | message _ => .message

/-- The event of a kind, with `data` for the two kinds that carry some. -/
def ofKind (kind : TransportEventKind) (data : String) : TransportEvent :=
  match kind with
  | .connect => .connect
  | .disconnect => .disconnect
  | .error => .error data
  | .message => .message data

end TransportEvent

end ResilientChannel
