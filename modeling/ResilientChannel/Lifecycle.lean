import ResilientChannel.Callbacks
import ResilientChannel.ConnectionState
import ResilientChannel.Heartbeat
import ResilientChannel.Presence
import ResilientChannel.Retry

/-!
The mutable state of a channel, and the view of it that the application may ask for.

A `Lifecycle` gathers what the channel's driver owns: whether the channel was started, the
callbacks, the attempt counter with its deadline, the heartbeat and the last reported connectivity.
A `Snapshot` is what it looks like from outside at one moment.
-/

namespace ResilientChannel

/-- The state owned by a channel's driver; `α` is the type of callbacks. -/
structure Lifecycle (α : Type) where
  started : Bool := false
  callbacks : Callbacks α := {}
  retry : Retry := {}
  heartbeat : Heartbeat := {}
  presence : Presence := {}

/-- A channel as seen from outside at one moment. -/
structure Snapshot where
  started : Bool
  transportState : ConnectionState
  attempts : Nat
  reconnectAt : Option Time
  heartbeatAt : Option Time
  lastActivity : Option Time
  heartbeatLate : Bool
  network : Option NetworkStatus
deriving DecidableEq, Repr

/-- The view of a lifecycle over a transport in the given state at `now`. -/
def Lifecycle.snapshot {α : Type} (l : Lifecycle α) (transportState : ConnectionState)
    (now : Time) : Snapshot where
  started := l.started
  transportState := transportState
  attempts := l.retry.attempts
  reconnectAt := l.retry.dueAt
  heartbeatAt := l.heartbeat.dueAt
  lastActivity := l.heartbeat.lastActivity
  heartbeatLate := l.heartbeat.isLate now
  network := l.presence.last

end ResilientChannel
