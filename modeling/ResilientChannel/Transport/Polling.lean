import ResilientChannel.Error
import ResilientChannel.Transport.Call

/-!
The long-polling transport.

A GET stays in flight until the server has something to say; every answer is delivered as a message
and re-arms the poll, and a failure ends it. Sends are requests of their own. The transport is open
while it counts at least one GET outstanding.

* Only the very first connect is reported straight away. A later one is reported by its first
  answer (`Polling.connect`, `Polling.complete`).
* A disconnect begins a new session and aborts every GET. A GET that was already being completed
  finds that its session is over, and its end is not reported again (`Polling.release`).
* Handlers run in the middle of all this and may call the transport again. What entering a handler
  does is a parameter of every transition that fires events; `Polling.enter` is the handler that
  makes the calls of its script, followed down to any depth.
-/

namespace ResilientChannel

namespace Polling

open Transport

/-- A GET in flight, with the session that it belongs to. -/
structure Get where
  id : Nat
  session : Nat
deriving DecidableEq, Repr, Inhabited

/-- Something that was done by or to the transport. -/
inductive Deed
  /-- A method was called. -/
  | called (call : Call)
  /-- An event was fired, in the state in which its handler is entered. -/
  | fired (event : TransportEvent) (state : ConnectionState)
  /-- A handler was entered. -/
  | handled (tag : String) (event : TransportEvent)
  /-- A handler finished a call of its script. -/
  | did (call : Call) (reply : Reply)
  /-- A GET was started. -/
  | began (get : Get)
  /-- A GET ended by itself. -/
  | ended (get : Get) (outcome : Except RequestFault String)
  /-- A frame was posted. -/
  | posted (message : String)

end Polling

/-- A long-polling transport. -/
structure Polling where
  url : String
  handlers : Handlers Transport.Handler := {}
  outstanding : Nat := 0
  /-- No connect has been made yet. -/
  first : Bool := true
  /-- The current run of polls has been reported as connected. -/
  announced : Bool := false
  session : Nat := 0
  /-- The GETs in flight, oldest first. -/
  inFlight : List Polling.Get := []
  /-- How many GETs were ever started. -/
  started : Nat := 0
  /-- Everything done so far, the latest first. -/
  history : List Polling.Deed := []

namespace Polling

open Transport

/-- Enters a deed into the history. -/
def note (p : Polling) (deed : Deed) : Polling := { p with history := deed :: p.history }

/-- Open while a GET is counted, idle otherwise. -/
def state (p : Polling) : ConnectionState := if 0 < p.outstanding then .opened else .idle

/-- What entering a handler does to the transport. -/
abbrev Entry : Type := Handler → Polling → Polling

/-- Fires an event: its handler, if there is one, is entered. -/
def fire (enter : Entry) (event : TransportEvent) (p : Polling) : Polling :=
  let p := p.note (.fired event p.state)
  match p.handlers.receiver event with
  | none => p
  | some handler => enter handler (p.note (.handled handler.tag event))

/-- Starts a GET of the current session. -/
def arm (p : Polling) : Polling :=
  let get : Get := { id := p.started, session := p.session }
  { p with
    outstanding := p.outstanding + 1
    inFlight := p.inFlight ++ [get]
    started := p.started + 1 }.note (.began get)

/-- Counts one GET of a session as ended, and says how many remain; nothing if a disconnect came
first. -/
def release (session : Nat) (p : Polling) : Option Nat × Polling :=
  match p.outstanding with
  | 0 => (none, p)
  | n + 1 =>
    let p := { p with outstanding := n }
    (if p.session = session then some n else none, p)

/-! ### The methods -/

/-- Starts polling, unless it is going on. -/
def connect (enter : Entry) (p : Polling) : Polling :=
  let p := p.note (.called .connect)
  if p.state.isOpen then p
  else
    let first := p.first
    let p := { p with first := false, announced := first }
    (if first then p.fire enter .connect else p).arm

/-- Stops polling. -/
def disconnect (enter : Entry) (p : Polling) : Polling :=
  let p := p.note (.called .disconnect)
  let wasOpen := 0 < p.outstanding
  let p := { p with session := p.session + 1, inFlight := [], outstanding := 0 }
  if wasOpen then p.fire enter .disconnect else p

/-- Posts a frame, if the transport is open. -/
def send (message : String) (p : Polling) : Polling :=
  let p := p.note (.called (.send message))
  if p.state.isOpen then p.note (.posted message) else p

/-- A GET ends with an outcome. -/
def complete (enter : Entry) (get : Get) (outcome : Except RequestFault String) (p : Polling) :
    Polling :=
  if get ∉ p.inFlight then p
  else
    let p := { p with inFlight := p.inFlight.erase get }.note (.ended get outcome)
    if p.session ≠ get.session then p
    else
      match outcome with
      | .ok body =>
        let p :=
          if p.announced then p else { p with announced := true }.fire enter .connect
        let (remaining, p) := (p.fire enter (.message body)).release get.session
        if remaining.any (· ≤ 1) then p.arm else p
      | .error fault =>
        let p := p.fire enter (.error (ChannelError.request fault).message)
        let (remaining, p) := p.release get.session
        if remaining = some 0 then p.fire enter .disconnect else p

/-! ### Calls as data -/

mutual

/-- Makes a call. -/
def perform (enter : Entry) (p : Polling) : Call → Polling × Reply
  | .connect => (p.connect enter, .done)
  | .disconnect => (p.disconnect enter, .done)
  | .send message => (p.send message, .done)
  | .state => (p, .state p.state)
  | .url => (p, .text p.url)
  | .on kind tag script =>
    ({ p with handlers := p.handlers.register kind { tag, script } }, .done)
  | .batch calls =>
    let (p, replies) := p.performAll enter calls
    (p, .many replies)
  | .peer _ => (p, .done)

/-- Makes calls one after another. -/
def performAll (enter : Entry) (p : Polling) : List Call → Polling × List Reply
  | [] => (p, [])
  | c :: cs =>
    let (p, reply) := p.perform enter c
    let (p, replies) := p.performAll enter cs
    (p, reply :: replies)

end

/-- Enters a handler, followed down to a depth: it makes the calls of its script, and each is noted
once it is done. -/
def enter : (depth : Nat) → Entry
  | 0, _, p => p
  | depth + 1, handler, p =>
    handler.script.foldl (fun p call =>
      let (p, reply) := p.perform (enter depth) call
      p.note (.did call reply)) p

/-! ### Runs -/

/-- The smallest step of a run: a call from outside the handlers, or the end of a GET. -/
inductive Move
  | call (call : Call)
  | complete (get : Get) (outcome : Except RequestFault String)

/-- Makes a move. -/
def move (depth : Nat) (p : Polling) : Move → Polling
  | .call call => (p.perform (enter depth) call).1
  | .complete get outcome => p.complete (enter depth) get outcome

/-- Makes moves one after another. -/
def run (depth : Nat) (p : Polling) (moves : List Move) : Polling := moves.foldl (move depth) p

/-- Ends the GETs in flight with one outcome, the oldest first, until none is left or until the
limit: handlers may start new ones for ever. -/
def drain (depth : Nat) (outcome : Except RequestFault String) : (limit : Nat) → Polling → Polling
  | 0, p => p
  | limit + 1, p =>
    match p.inFlight with
    | [] => p
    | get :: _ => drain depth outcome limit (p.complete (enter depth) get outcome)

end Polling

end ResilientChannel
