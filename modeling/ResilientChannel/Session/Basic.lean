import ResilientChannel.Error
import ResilientChannel.Frame
import ResilientChannel.Lifecycle
import ResilientChannel.Line
import ResilientChannel.Watcher

/-!
A channel in use: the application above it, the line below it, and the driver in between.

* Whatever the application and the line do reaches the driver as a `Signal` in one queue. The driver
  takes signals in order and runs its timers in between.
* An `Action` is what can happen from outside: a call of the application on its latest handle, a
  move of the line, or news for the watcher. A `Callback` is registered with a script of actions
  that it takes whenever it is called.
* A `Session` is the whole: clock, line, driver state, queue, handles and watchers, with the
  `history` of everything that was done, the latest deed first.
-/

namespace ResilientChannel

namespace Session

/-- What can be done from outside. -/
inductive Action
  /-- Starts the channel. -/
  | connect
  /-- Closes the transport and goes through the reconnect path. -/
  | forceReconnect
  /-- Reports the host's connectivity. -/
  | network (status : NetworkStatus)
  /-- Sends a frame. -/
  | send (frame : Frame)
  /-- Sends the keep-alive frame. -/
  | sync
  /-- Asks whether frames can be sent. -/
  | isOpen
  /-- Asks for the transport's URL. -/
  | url
  /-- Stops the driver. -/
  | shutdown
  /-- Asks for a snapshot. -/
  | inspect
  /-- Registers a callback under an event name; it is shown the whole notice. -/
  | on (event : String) (tag : String) (script : List Action)
  /-- Registers a callback for messages; it is shown their data. -/
  | onMessage (tag : String) (script : List Action)
  /-- Registers a callback for reconnects; it is shown nothing. -/
  | onReconnect (tag : String) (script : List Action)
  /-- Registers a callback for disconnects; it is shown nothing. -/
  | onDisconnect (tag : String) (script : List Action)
  /-- Makes another handle. -/
  | clone
  /-- Drops the latest handle. -/
  | drop
  /-- Starts a watcher on a fresh sender, which takes the place of the kept one. -/
  | watch
  /-- The line opens and reports it. -/
  | lineOpens
  /-- The line goes idle and reports it. -/
  | lineDrops
  /-- The line changes its state and reports nothing. -/
  | lineMoves (state : ConnectionState)
  /-- The line fires an event and keeps its state. -/
  | lineFires (event : TransportEvent)
  /-- The line changes its reactions. -/
  | lineReacts (onConnect onDisconnect : Option Reaction)
  /-- Publishes statuses on the kept sender, one after another. -/
  | publish (statuses : List NetworkStatus)
  /-- Drops the kept sender. -/
  | endWatch
  /-- Takes several actions with nothing handled in between. -/
  | batch (actions : List Action)

/-- How much of a notice a callback is shown. -/
inductive View
  | notice
  | data
  | nothing
deriving DecidableEq, Repr, Inhabited

/-- A registered callback. -/
structure Callback where
  tag : String
  view : View
  script : List Action

/-- What the driver reacts to besides its timers. -/
inductive Signal
  | start
  | transport (event : TransportEvent)
  | register (kind : NoticeKind) (callback : Callback)
  | forceReconnect
  | network (status : NetworkStatus)
  | inspect
  | shutdown

/-- What an action answers. -/
inductive Reply
  | done
  | flag (value : Bool)
  | text (value : String)
  | failed (error : ChannelError)
  | noHandle
  | many (replies : List Reply)
deriving Repr, Inhabited

/-- On whose behalf a frame is handed to the line: the application's, a handled connect's, or a
heartbeat's. -/
inductive Origin
  | application
  | sync
  | beat
deriving DecidableEq, Repr, Inhabited

/-- Something that was done in a session. -/
inductive Deed
  /-- A signal was put on the queue. -/
  | posted (signal : Signal)
  /-- The driver took a signal from the queue. -/
  | took (signal : Signal)
  /-- The driver had the line connect. -/
  | opened
  /-- The driver had the line disconnect. -/
  | closed
  /-- The driver went through the disconnect transition, with the counter it led to. -/
  | lost (attempts : Nat)
  /-- The driver cut the backoff short. -/
  | accelerated
  /-- The driver forced a reconnect on a started channel. -/
  | forced
  /-- The driver ran a heartbeat. -/
  | beat (beat : Heartbeat.Beat)
  /-- A frame was handed to the line. -/
  | handed (frame : String) (origin : Origin)
  /-- A callback was called, with the replies to its script. -/
  | called (tag : String) (view : View) (notice : Notice) (did : List Reply)
  /-- A snapshot was answered. -/
  | answered (snapshot : Snapshot)
  /-- The driver ended. -/
  | ended

/-- A deed and when it was done. -/
structure Record where
  time : Time
  deed : Deed

/-- Who takes turns: the driver, and the watchers by number. -/
inductive Worker
  | driver
  | watcher (id : Nat)
deriving DecidableEq, Repr, Inhabited

end Session

open Session in
/-- A channel in use. -/
structure Session where
  now : Time := 0
  line : Line := {}
  life : Lifecycle Callback := {}
  /-- The driver has not ended. -/
  running : Bool := true
  queue : List Signal := []
  /-- How many handles the application holds. -/
  handles : Nat := 1
  watchers : List Watcher := []
  /-- The watcher whose sender the application keeps. -/
  kept : Option Nat := none
  /-- Who waits for a turn, in the order of waking. -/
  agenda : List Worker := []
  history : List Record := []

namespace Session

/-- Enters a deed into the history. -/
def note (s : Session) (deed : Deed) : Session :=
  { s with history := { time := s.now, deed } :: s.history }

/-- Puts a worker on the agenda unless it waits there already. -/
def wake (s : Session) (w : Worker) : Session :=
  if w ∈ s.agenda then s else { s with agenda := s.agenda ++ [w] }

/-- Puts a signal on the queue of a running driver; otherwise the signal is lost. -/
def post (s : Session) (signal : Signal) : Session :=
  if s.running then
    ({ s with queue := s.queue ++ [signal] }.note (.posted signal)).wake .driver
  else s

/-- Passes the line's events on to the driver. -/
def hear (s : Session) (events : List TransportEvent) : Session :=
  events.foldl (fun s e => s.post (.transport e)) s

/-- Hands a frame to an open line; otherwise the frame is dropped. -/
def handIfOpen (s : Session) (frame : Frame) (origin : Origin) : Session :=
  if s.line.state.isOpen then s.note (.handed frame.encode origin) else s

/-- What the application gets to see: nothing without a handle, otherwise a snapshot of a running
channel. -/
def view? (s : Session) : Option (Except ChannelError Snapshot) :=
  if s.handles = 0 then none
  else if s.running then some (.ok (s.life.snapshot s.line.state s.now))
  else some (.error .closed)

/-- Whether the watcher of the kept sender still runs. -/
def watching? (s : Session) : Option Bool :=
  s.kept.map fun id => s.watchers[id]?.any (·.running)

end Session

end ResilientChannel
