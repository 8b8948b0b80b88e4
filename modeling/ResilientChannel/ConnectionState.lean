/-!
The states of a transport.

A transport is live while it is connecting or open. The names are those under which states are
shown.
-/

namespace ResilientChannel

/-- The state of a transport. -/
inductive ConnectionState
  | idle
  | connecting
  | opened
  | closing
deriving DecidableEq, Repr, Inhabited

namespace ConnectionState

/-- Connecting or open. -/
def isLive : ConnectionState → Bool
  | connecting | opened => true
  | idle | closing => false

/-- Ready to carry frames. -/
def isOpen (s : ConnectionState) : Bool := s == opened

/-- The name of a state. -/
def name : ConnectionState → String
  | idle => "idle"
  | connecting => "connecting"
  | opened => "open"
  | closing => "closing"

/-- The state of a given name. -/
def ofName? (s : String) : Option ConnectionState :=
  if s = "idle" then some idle
  else if s = "connecting" then some connecting
  else if s = "open" then some opened
  else if s = "closing" then some closing
  else none

theorem ofName?_name (s : ConnectionState) : ofName? s.name = some s := by
  cases s <;> decide

end ConnectionState

end ResilientChannel
