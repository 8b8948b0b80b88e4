/-!
What a channel is built from.

Every option has a default, so that a channel can be described by the options that matter.
-/

namespace ResilientChannel

/-- What the environment can do. -/
structure Capabilities where
  /-- Persistent sockets are available. -/
  websocket : Bool := true
deriving DecidableEq, Repr, Inhabited

/-- The configuration of a channel. -/
structure Options where
  /-- The URL of the hosting page, from which both endpoints derive. -/
  pageUrl : String := "http://localhost/"
  /-- What comes between the host and the mount on the socket endpoint. -/
  context : String := ""
  /-- Where the server has the channel mounted. -/
  mount : String := ""
  /-- The id sent to the server; without one, a fresh one is made. -/
  socketId : Option String := none
  capabilities : Capabilities := {}
deriving DecidableEq, Repr, Inhabited

end ResilientChannel
