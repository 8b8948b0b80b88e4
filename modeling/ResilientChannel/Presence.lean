import ResilientChannel.Notice

/-!
What a change of the host's connectivity means for the channel.

Going offline always calls for a forced reconnect. Coming online does so only when the channel is
in trouble, that is in backoff or with a late heartbeat, and then the backoff is cut short as well.
-/

namespace ResilientChannel

/-- The last reported connectivity. -/
structure Presence where
  last : Option NetworkStatus := none
deriving DecidableEq, Repr, Inhabited

namespace Presence

/-- What a reported status calls for. -/
inductive Decision
  | ignore
  | forceReconnect (accelerate : Bool)
deriving DecidableEq, Repr

/-- Records a status and decides. -/
def observe (_ : Presence) (status : NetworkStatus) (inBackoff late : Bool) :
    Decision × Presence :=
  let decision :=
    match status with
    | .offline => .forceReconnect false
    | .online => if inBackoff || late then .forceReconnect true else .ignore
  (decision, { last := some status })

end Presence

end ResilientChannel
