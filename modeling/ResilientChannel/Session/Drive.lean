import ResilientChannel.Session.Act

/-!
What the driver does.

The driver alone changes the lifecycle, one deed at a time (`Session.drive?`): it handles the signal
at the head of the queue, and only with an empty queue a timer that is due, the reconnect timer
before the heartbeat.

* A lost connection, whether the line reported it or a forced reconnect stands in for the report,
  goes through one transition (`Session.lose`).
* A forced reconnect asks the line to disconnect. A line that is open afterwards, or that was not
  live before, will not report anything, so the transition is made at once (`Session.force`).
* After a shutdown nothing is handled any more (`Session.stop`).
-/

namespace ResilientChannel.Session

/-- Has the line connect. -/
def openLine (s : Session) : Session :=
  let (line, events) := s.line.connect
  ({ s with line }.note .opened).hear events

/-- Has the line disconnect. -/
def closeLine (s : Session) : Session :=
  let (line, events) := s.line.disconnect
  ({ s with line }.note .closed).hear events

/-- Calls the callback registered for a notice. -/
def dispatch (s : Session) (notice : Notice) : Session :=
  match s.life.callbacks.receiver notice with
  | none => s
  | some callback =>
    let (s, did) := s.performAll callback.script
    s.note (.called callback.tag callback.view notice did)

/-- The server was heard. -/
def recordActivity (s : Session) : Session :=
  { s with life.heartbeat := s.life.heartbeat.recordActivity s.now }

/-! ### Signals -/

/-- Starts the channel, once. -/
def start (s : Session) : Session :=
  if s.life.started then s else { s with life.started := true }.openLine

/-- The connection has opened: an outage is over, and the server gets a frame to confirm. -/
def greet (s : Session) : Session :=
  let s := s.recordActivity
  let (wasLost, retry) := s.life.retry.onConnect
  let s := { s with life.retry := retry }
  (if wasLost then s.dispatch .connect else s).handIfOpen .ping .sync

/-- The connection is lost, as reported or presumed. -/
def lose (s : Session) : Session :=
  if !s.life.started then s
  else
    let (outcome, retry) := s.life.retry.onDisconnect s.now
    let s := { s with life.retry := retry }.note (.lost outcome.attempts)
    if outcome.report then s.dispatch .disconnect else s

/-- Data has arrived. -/
def receive (s : Session) (data : String) : Session :=
  s.recordActivity.dispatch (.message data)

/-- Tears the line down and makes sure that the reconnect path runs. -/
def force (s : Session) : Session :=
  if !s.life.started then s
  else
    let wasLive := s.line.state.isLive
    let s := (s.note .forced).closeLine
    if s.line.state.isOpen || !wasLive then s.lose else s

/-- Cuts the backoff short. -/
def accelerate (s : Session) : Session :=
  { s with life.retry := s.life.retry.accelerate }.note .accelerated

/-- The host's connectivity is reported. -/
def observe (s : Session) (status : NetworkStatus) : Session :=
  let (decision, presence) :=
    s.life.presence.observe status s.life.retry.inBackoff (s.life.heartbeat.isLate s.now)
  let s := { s with life.presence := presence }
  match decision with
  | .ignore => s
  | .forceReconnect true => s.accelerate.force
  | .forceReconnect false => s.force

/-- Ends the driver: no timer stays armed, a started line is disconnected, and what is still queued
is lost. -/
def stop (s : Session) : Session :=
  let s := { s with
    running := false
    queue := []
    life.retry := s.life.retry.cancel
    life.heartbeat := s.life.heartbeat.stop }.note .ended
  if s.life.started then s.closeLine else s

/-- Handles a signal. -/
def handle (s : Session) : Signal → Session
  | .start => s.start
  | .transport .connect => s.greet
  | .transport .disconnect => s.lose
  | .transport (.error _) => s
  | .transport (.message data) => s.receive data
  | .register kind callback =>
    { s with life.callbacks := s.life.callbacks.register kind callback }
  | .forceReconnect => s.force
  | .network status => s.observe status
  | .inspect => s.note (.answered (s.life.snapshot s.line.state s.now))
  | .shutdown => s.stop

/-! ### Timers -/

/-- The pending attempt is due. -/
def retry (s : Session) : Session :=
  let (taken, retry) := s.life.retry.takeDue s.now
  let s := { s with life.retry := retry }
  if taken then s.openLine else s

/-- The heartbeat is due. A channel that is already down and recovering is left to its backoff. -/
def beat (s : Session) : Session :=
  let (beat, heartbeat) := s.life.heartbeat.tick s.now
  let s := { s with life.heartbeat := heartbeat }.note (.beat beat)
  match beat with
  | .ping => s.handIfOpen .ping .beat
  | .stale _ =>
    if !s.line.state.isOpen || s.life.retry.dueAt.isSome then s else s.force

/-! ### One deed -/

/-- The driver's next deed, if there is one. -/
def drive? (s : Session) : Option Session :=
  if !s.running then none
  else
    match s.queue with
    | signal :: rest => some (({ s with queue := rest }.note (.took signal)).handle signal)
    | [] =>
      if s.life.retry.isDue s.now then some s.retry
      else if s.life.heartbeat.isDue s.now then some s.beat
      else none

end ResilientChannel.Session
