import ResilientChannel.ConnectionState
import ResilientChannel.TransportEvent

/-!
An in-memory transport that behaves as it is told.

A `Line` has a state and a `Reaction` to each of the two requests a channel makes of its transport,
to connect and to disconnect. A reaction moves the line to a state and fires some events; it may be
changed at any moment, and the line may also be moved from outside, so that lines show every
behaviour of a transport that a channel can tell apart.

The named reactions to a connect are `pending`, `accept`, `refuse` and `ignore`, those to a
disconnect `graceful`, `stubborn` and `linger`.
-/

namespace ResilientChannel

/-- What a line does when asked to connect or to disconnect: it moves to `target` and fires `fires`;
with `liveOnly` it does so only while it is live. -/
structure Reaction where
  liveOnly : Bool := false
  target : Option ConnectionState := none
  fires : List TransportEvent := []
deriving DecidableEq, Repr, Inhabited

namespace Reaction

/-- Connecting, with the outcome left open. -/
def pending : Reaction := { target := some .connecting }

/-- Open at once. -/
def accept : Reaction := { target := some .opened, fires := [.connect] }

/-- Failed at once. -/
def refuse : Reaction :=
  { target := some .idle, fires := [.error "connection refused", .disconnect] }

/-- Nothing happens. -/
def ignore : Reaction := {}

/-- A live line goes idle and reports it. -/
def graceful : Reaction := { liveOnly := true, target := some .idle, fires := [.disconnect] }

/-- A line that stays as it is. -/
def stubborn : Reaction := {}

/-- A live line starts to close and does not report it. -/
def linger : Reaction := { liveOnly := true, target := some .closing }

end Reaction

/-- An in-memory transport. -/
structure Line where
  state : ConnectionState := .idle
  onConnect : Reaction := .pending
  onDisconnect : Reaction := .graceful
deriving DecidableEq, Repr, Inhabited

namespace Line

/-- The URL under which an in-memory transport is known. -/
def url : String := "stub://channel"

/-- The line after a reaction, and the events it fires. -/
def react (l : Line) (r : Reaction) : Line × List TransportEvent :=
  if r.liveOnly && !l.state.isLive then (l, [])
  else ({ l with state := r.target.getD l.state }, r.fires)

/-- The line asked to connect. -/
def connect (l : Line) : Line × List TransportEvent := l.react l.onConnect

/-- The line asked to disconnect. -/
def disconnect (l : Line) : Line × List TransportEvent := l.react l.onDisconnect

theorem disconnect_of_isLive {l : Line} (h : l.onDisconnect = .graceful) (hlive : l.state.isLive) :
    l.disconnect = ({ l with state := .idle }, [.disconnect]) := by
  simp [disconnect, react, h, Reaction.graceful, hlive]

theorem disconnect_of_not_isLive {l : Line} (h : l.onDisconnect = .graceful)
    (hlive : l.state.isLive = false) : l.disconnect = (l, []) := by
  simp [disconnect, react, h, Reaction.graceful, hlive]

end Line

end ResilientChannel
