import ResilientChannel.Notice

/-!
A watcher forwards published connectivity to a channel.

The sender's side publishes values and may be dropped; the watcher's side takes turns. Values
published between two turns merge into the last one, an equal value counts as news, and the value
with which the sender was made does not. A turn reports unseen news before it reports the end of the
sender, and a watcher whose news cannot be delivered ends.
-/

namespace ResilientChannel

/-- A watcher: the news it has not seen, whether its sender still exists, whether it still runs. -/
structure Watcher where
  unseen : Option NetworkStatus := none
  hasSender : Bool := true
  running : Bool := true
deriving DecidableEq, Repr, Inhabited

namespace Watcher

/-- A value is published. -/
def publish (w : Watcher) (status : NetworkStatus) : Watcher := { w with unseen := some status }

/-- The sender is dropped. -/
def dropSender (w : Watcher) : Watcher := { w with hasSender := false }

/-- One turn: what is forwarded, and the watcher after it. -/
def turn (w : Watcher) (deliverable : Bool) : Option NetworkStatus × Watcher :=
  if !w.running then (none, w)
  else
    match w.unseen with
    | none => (none, { w with running := w.hasSender })
    | some status =>
      if deliverable then (some status, { w with unseen := none, running := w.hasSender })
      else (none, { w with unseen := none, running := false })

/-- A turn would change nothing. -/
def isIdle (w : Watcher) : Bool := !w.running || (w.unseen.isNone && w.hasSender)

end Watcher

end ResilientChannel
