import ResilientChannel.ConnectionState
import ResilientChannel.Handlers

/-!
Calls of a transport, as data.

A `Call` is one of the methods of a transport, a request for a handler to be registered, a few calls
in a row, or a setting of the peer at the other end, which the transport does not notice. A handler
is a tag and a script of calls that it makes on the same transport whenever it is run.
-/

namespace ResilientChannel.Transport

/-- What a test peer is told to do with later requests. -/
inductive PeerSetting
  | handshake (answer : String)
  | postStatus (code : Nat)
deriving DecidableEq, Repr, Inhabited

/-- A call of a transport. -/
inductive Call
  | connect
  | disconnect
  | send (message : String)
  | state
  | url
  | on (kind : TransportEventKind) (tag : String) (script : List Call)
  | batch (calls : List Call)
  | peer (setting : PeerSetting)
deriving Inhabited

/-- What a call answers. -/
inductive Reply
  | done
  | state (state : ConnectionState)
  | text (value : String)
  | many (replies : List Reply)
deriving Repr, Inhabited

/-- A handler: its tag and the calls it makes. -/
structure Handler where
  tag : String
  script : List Call

end ResilientChannel.Transport
