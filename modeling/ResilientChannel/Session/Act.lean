import ResilientChannel.Session.Basic

/-!
What happens from outside.

`Session.perform` takes an action. A call of the application answers at once and leaves the rest to
the driver: it puts a signal on the queue, or hands a frame to the line if the line is open. Without
a handle there is nothing to call. A batch is its actions one after another.
-/

namespace ResilientChannel.Session

/-- A call on the latest handle. -/
def onHandle (s : Session) (call : Session → Session × Reply) : Session × Reply :=
  if s.handles = 0 then (s, .noHandle) else call s

/-- A call that leaves a signal for the driver. -/
def signal (s : Session) (signal : Signal) : Session × Reply :=
  if s.running then (s.post signal, .done) else (s, .failed .closed)

/-- A call that hands over a frame, and says whether the line was open. -/
def send (s : Session) (frame : Frame) : Session × Reply :=
  (s.handIfOpen frame .application, .flag s.line.state.isOpen)

/-- Changes a watcher and wakes it. -/
def stirWatcher (s : Session) (id : Nat) (change : Watcher → Watcher) : Session :=
  { s with watchers := s.watchers.modify id change }.wake (.watcher id)

/-- Drops the kept sender. -/
def releaseKept (s : Session) : Session :=
  match s.kept with
  | some id => { s.stirWatcher id (·.dropSender) with kept := none }
  | none => s

/-- Starts a watcher and keeps its sender. -/
def startWatcher (s : Session) : Session :=
  let s := s.releaseKept
  let id := s.watchers.length
  { s with watchers := s.watchers ++ [({} : Watcher)], kept := some id }.wake (.watcher id)

/-- Publishes a status on the kept sender, unless its watcher has ended. -/
def publish (s : Session) (status : NetworkStatus) : Session :=
  match s.kept with
  | some id =>
    if s.watchers[id]?.any (·.running) then s.stirWatcher id (·.publish status) else s
  | none => s

/-- Drops the latest handle; the last one takes the channel with it. -/
def dropHandle (s : Session) : Session × Reply :=
  match s.handles with
  | 0 => (s, .flag false)
  | 1 => ({ s with handles := 0 }.post .shutdown, .flag true)
  | n + 2 => ({ s with handles := n + 1 }, .flag true)

mutual

/-- Takes an action. -/
def perform (s : Session) : Action → Session × Reply
  | .connect => s.onHandle (·.signal .start)
  | .forceReconnect => s.onHandle (·.signal .forceReconnect)
  | .network status => s.onHandle (·.signal (.network status))
  | .send frame => s.onHandle (·.send frame)
  | .sync => s.onHandle (·.send .ping)
  | .isOpen => s.onHandle fun s => (s, .flag s.line.state.isOpen)
  | .url => s.onHandle fun s => (s, .text Line.url)
  | .shutdown => s.onHandle fun s => (s.post .shutdown, .done)
  | .inspect => s.onHandle fun s => (s.post .inspect, .done)
  | .on event tag script => s.onHandle fun s =>
    match NoticeKind.ofName? event with
    | some kind => s.signal (.register kind { tag, view := .notice, script })
    | none => (s, .failed (.unknownEvent event))
  | .onMessage tag script =>
    s.onHandle (·.signal (.register .message { tag, view := .data, script }))
  | .onReconnect tag script =>
    s.onHandle (·.signal (.register .connect { tag, view := .nothing, script }))
  | .onDisconnect tag script =>
    s.onHandle (·.signal (.register .disconnect { tag, view := .nothing, script }))
  | .clone => s.onHandle fun s => ({ s with handles := s.handles + 1 }, .done)
  | .drop => s.dropHandle
  | .watch => s.onHandle fun s => (s.startWatcher, .done)
  | .lineOpens => ({ s with line.state := .opened }.hear [.connect], .done)
  | .lineDrops => ({ s with line.state := .idle }.hear [.disconnect], .done)
  | .lineMoves state => ({ s with line.state := state }, .done)
  | .lineFires event => (s.hear [event], .done)
  | .lineReacts onConnect onDisconnect =>
    let line := { s.line with
      onConnect := onConnect.getD s.line.onConnect
      onDisconnect := onDisconnect.getD s.line.onDisconnect }
    ({ s with line }, .done)
  | .publish statuses => (statuses.foldl publish s, .done)
  | .endWatch => (s.releaseKept, .flag s.kept.isSome)
  | .batch actions =>
    let (s, replies) := s.performAll actions
    (s, .many replies)

/-- Takes actions one after another. -/
def performAll (s : Session) : List Action → Session × List Reply
  | [] => (s, [])
  | a :: as =>
    let (s, reply) := s.perform a
    let (s, replies) := s.performAll as
    (s, reply :: replies)

end

end ResilientChannel.Session
