import ResilientChannel.Parameters

/-!
The heartbeat of an idle channel.

A `Heartbeat` remembers when the server was last heard and when the next beat is due. Activity
re-arms the beat; a beat re-arms itself and is a ping, or the finding that the server has been
silent for longer than `Parameters.staleAfter`. Before any activity the heartbeat is never late.
-/

namespace ResilientChannel

/-- The last inbound activity and the next beat. -/
structure Heartbeat where
  lastActivity : Option Time := none
  dueAt : Option Time := none
deriving DecidableEq, Repr, Inhabited

namespace Heartbeat

/-- What a beat calls for. -/
inductive Beat
  | ping
  | stale (silentFor : Time)
deriving DecidableEq, Repr

/-- The server was heard at `now`. -/
def recordActivity (_ : Heartbeat) (now : Time) : Heartbeat :=
  { lastActivity := some now, dueAt := some (now + Parameters.pingInterval) }

/-- The server has been silent for longer than the threshold. A clock that reads earlier than the
last activity counts as no silence. -/
def isLate (h : Heartbeat) (now : Time) : Bool :=
  h.lastActivity.any fun last => Parameters.staleAfter < now - last

/-- A beat at `now`. -/
def tick (h : Heartbeat) (now : Time) : Beat × Heartbeat :=
  let next := { h with dueAt := some (now + Parameters.pingInterval) }
  match h.lastActivity with
  | some last => (if h.isLate now then .stale (now - last) else .ping, next)
  | none => (.ping, next)

/-- A beat whose time has come at `now`. -/
def isDue (h : Heartbeat) (now : Time) : Bool := h.dueAt.any (· ≤ now)

/-- No further beat. -/
def stop (h : Heartbeat) : Heartbeat := { h with dueAt := none }

end Heartbeat

end ResilientChannel
