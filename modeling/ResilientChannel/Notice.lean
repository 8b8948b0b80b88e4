import ResilientChannel.Parameters

/-!
What a channel tells the application, and what the host tells the channel.

* A `Notice` is handed to the callback registered for its `NoticeKind`. The three kinds have names;
  `NoticeKind.ofName?` reads exactly the names that `NoticeKind.name` writes.
* A `NetworkStatus` is the host's connectivity as reported from outside.
-/

namespace ResilientChannel

/-- The kinds of notice a channel delivers. -/
inductive NoticeKind
  | message
  | connect
  | disconnect
deriving DecidableEq, Repr, Inhabited

namespace NoticeKind

/-- The name under which callbacks for this kind are registered. -/
def name : NoticeKind → String
  | message => Parameters.messageEvent
  | connect => Parameters.connectEvent
  | disconnect => Parameters.disconnectEvent

/-- The kind of a given name. -/
def ofName? (s : String) : Option NoticeKind :=
  if s = Parameters.messageEvent then some message
  else if s = Parameters.connectEvent then some connect
  else if s = Parameters.disconnectEvent then some disconnect
  else none

theorem ofName?_name (k : NoticeKind) : ofName? k.name = some k := by
  cases k <;> decide

end NoticeKind

/-- A notice to the application: inbound data, the return of a lost connection, or an outage that
has lasted several attempts. -/
inductive Notice
  | message (data : String)
  | connect
  | disconnect
deriving DecidableEq, Repr, Inhabited

/-- The kind of a notice. -/
def Notice.kind : Notice → NoticeKind
  | message _ => .message
  | connect => .connect
  | disconnect => .disconnect

/-- Host connectivity as reported from outside. -/
inductive NetworkStatus
  | online
  | offline
deriving DecidableEq, Repr, Inhabited

namespace NetworkStatus

/-- The name of a status. -/
def name : NetworkStatus → String
  | online => "online"
  | offline => "offline"

/-- The status of a given name. -/
def ofName? (s : String) : Option NetworkStatus :=
  if s = "online" then some online else if s = "offline" then some offline else none

theorem ofName?_name (s : NetworkStatus) : ofName? s.name = some s := by
  cases s <;> decide

end NetworkStatus

end ResilientChannel
