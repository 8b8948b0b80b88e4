import ResilientChannel.Error
import ResilientChannel.Transport.Call

/-!
The persistent socket transport.

Every connect opens a conduit of its own, owned by one task: it waits for the handshake, then writes
the queued frames and delivers the inbound ones, and whatever ends it is reported once.

* Conduits are numbered by epoch. Only the newest one may fire events or change the state; an older
  one ends in silence (`Socket.fire`, `Socket.finish`).
* What a task finds ready is open: the outcome of the handshake, a queued command, an inbound frame.
  Each is a move of its own, and moves may come in any order (`Socket.Move`).
* Neither connecting nor disconnecting fires anything, so handlers that call the transport again do
  not nest.
-/

namespace ResilientChannel

namespace Socket

open Transport

/-- What the transport asks of a conduit's task. -/
inductive Command
  | frame (message : String)
  | close
deriving DecidableEq, Repr, Inhabited

/-- One connection: its epoch, whether the handshake is done, the commands queued for its task,
whether the transport still holds the queue's other end, and the frames written so far. -/
structure Conduit where
  epoch : Nat
  established : Bool := false
  commands : List Command := []
  hasSender : Bool := true
  written : List String := []
deriving DecidableEq, Repr, Inhabited

/-- What a conduit's task may read. -/
inductive Inbound
  | text (data : String)
  /-- A frame that is not for the application. -/
  | other
  | closed
  | failed (reason : String)
deriving DecidableEq, Repr, Inhabited

/-- Something that was done by or to the transport. -/
inductive Deed
  /-- A method was called, in the given state. -/
  | called (call : Call) (state : ConnectionState)
  /-- A conduit was opened. -/
  | began (epoch : Nat)
  /-- The handshake of a conduit succeeded. -/
  | established (epoch : Nat)
  /-- An event was fired for a conduit, in the state in which its handler is entered. -/
  | fired (epoch : Nat) (event : TransportEvent) (state : ConnectionState)
  /-- A handler was entered. -/
  | handled (tag : String) (event : TransportEvent)
  /-- A handler finished a call of its script. -/
  | did (call : Call) (reply : Reply)
  /-- A frame was accepted for a conduit. -/
  | queued (epoch : Nat) (message : String)
  /-- A frame was written by a conduit. -/
  | wrote (epoch : Nat) (message : String)
  /-- A conduit began its closing handshake. -/
  | closing (epoch : Nat)
  /-- A conduit ended. -/
  | ended (epoch : Nat)

end Socket

/-- A persistent socket transport. -/
structure Socket where
  url : String
  handlers : Handlers Transport.Handler := {}
  state : ConnectionState := .idle
  /-- The epoch of the conduit whose queue the transport holds. -/
  outbound : Option Nat := none
  epoch : Nat := 0
  /-- The conduits whose tasks have not ended, oldest first. -/
  conduits : List Socket.Conduit := []
  /-- Everything done so far, the latest first. -/
  history : List Socket.Deed := []

namespace Socket

open Transport

/-- Enters a deed into the history. -/
def note (s : Socket) (deed : Deed) : Socket := { s with history := deed :: s.history }

/-- Changes the conduit of an epoch. -/
def modify (s : Socket) (epoch : Nat) (change : Conduit → Conduit) : Socket :=
  { s with conduits := s.conduits.map fun c => if c.epoch = epoch then change c else c }

/-- The running conduit of an epoch. -/
def conduit? (s : Socket) (epoch : Nat) : Option Conduit := s.conduits.find? (·.epoch = epoch)

/-- Lets go of the held queue. -/
def letGo (s : Socket) : Socket :=
  match s.outbound with
  | some epoch => { s.modify epoch ({ · with hasSender := false }) with outbound := none }
  | none => s

/-! ### The methods -/

/-- Opens a conduit, unless one is connecting or open. -/
def connect (s : Socket) : Socket :=
  let s := s.note (.called .connect s.state)
  if s.state.isLive then s
  else
    let s := s.letGo
    let epoch := s.epoch + 1
    { s with
      epoch
      outbound := some epoch
      state := .connecting
      conduits := s.conduits ++ [({ epoch } : Conduit)] }.note (.began epoch)

/-- Asks the current conduit to close. -/
def disconnect (s : Socket) : Socket :=
  let s := s.note (.called .disconnect s.state)
  match s.outbound with
  | none => s
  | some epoch =>
    let s := s.modify epoch fun c => { c with commands := c.commands ++ [.close] }
    { s with state := .closing }.letGo

/-- Queues a frame, if the transport is open. -/
def send (message : String) (s : Socket) : Socket :=
  let s := s.note (.called (.send message) s.state)
  match s.state.isOpen, s.outbound with
  | true, some epoch =>
    (s.modify epoch fun c => { c with commands := c.commands ++ [.frame message] }).note
      (.queued epoch message)
  | _, _ => s

/-! ### Calls as data -/

mutual

/-- Makes a call. -/
def perform (s : Socket) : Call → Socket × Reply
  | .connect => (s.connect, .done)
  | .disconnect => (s.disconnect, .done)
  | .send message => (s.send message, .done)
  | .state => (s, .state s.state)
  | .url => (s, .text s.url)
  | .on kind tag script =>
    ({ s with handlers := s.handlers.register kind { tag, script } }, .done)
  | .batch calls =>
    let (s, replies) := s.performAll calls
    (s, .many replies)
  | .peer _ => (s, .done)

/-- Makes calls one after another. -/
def performAll (s : Socket) : List Call → Socket × List Reply
  | [] => (s, [])
  | c :: cs =>
    let (s, reply) := s.perform c
    let (s, replies) := s.performAll cs
    (s, reply :: replies)

end

/-- Enters a handler: it makes the calls of its script, and each is noted once it is done. -/
def enter (handler : Handler) (s : Socket) : Socket :=
  handler.script.foldl (fun s call =>
    let (s, reply) := s.perform call
    s.note (.did call reply)) s

/-! ### The conduit's task -/

/-- Fires an event for a conduit, if it is the newest. -/
def fire (epoch : Nat) (event : TransportEvent) (s : Socket) : Socket :=
  if s.epoch ≠ epoch then s
  else
    let s := s.note (.fired epoch event s.state)
    match s.handlers.receiver event with
    | none => s
    | some handler => enter handler (s.note (.handled handler.tag event))

/-- Ends a conduit; the newest one leaves the transport idle and reports it. -/
def finish (epoch : Nat) (s : Socket) : Socket :=
  let s := { s with conduits := s.conduits.filter (·.epoch ≠ epoch) }.note (.ended epoch)
  if s.epoch ≠ epoch then s
  else { s.letGo with state := .idle }.fire epoch .disconnect

/-- The handshake of a conduit has an outcome. -/
def handshake (epoch : Nat) (outcome : Except SocketFault Unit) (s : Socket) : Socket :=
  match s.conduit? epoch with
  | some { established := false, .. } =>
    match outcome with
    | .error fault =>
      (s.fire epoch (.error (ChannelError.socket fault).message)).finish epoch
    | .ok () =>
      if s.epoch ≠ epoch then
        { s with conduits := s.conduits.filter (·.epoch ≠ epoch) }.note (.ended epoch)
      else
        ({ s.modify epoch ({ · with established := true }) with state := .opened }.note
          (.established epoch)).fire epoch .connect
  | _ => s

/-- A conduit has a command to see to, or will never get another one. -/
def Conduit.hasCommand (c : Conduit) : Bool := !c.commands.isEmpty || !c.hasSender

/-- A conduit gives up its handshake for a command. -/
def abandon (epoch : Nat) (s : Socket) : Socket :=
  match s.conduit? epoch with
  | some c => if !c.established && c.hasCommand then s.finish epoch else s
  | none => s

/-- A conduit sees to its next command; a write may fail with a reason. -/
def obey (epoch : Nat) (failure : Option String) (s : Socket) : Socket :=
  match s.conduit? epoch with
  | some c =>
    if !c.established then s
    else
      match c.commands with
      | .frame message :: rest =>
        let s := s.modify epoch ({ · with commands := rest })
        match failure with
        | some reason => (s.fire epoch (.error reason)).finish epoch
        | none =>
          (s.modify epoch fun c => { c with written := c.written ++ [message] }).note
            (.wrote epoch message)
      | .close :: _ => (s.note (.closing epoch)).finish epoch
      | [] => if c.hasSender then s else (s.note (.closing epoch)).finish epoch
  | none => s

/-- A conduit reads something. -/
def read (epoch : Nat) (inbound : Inbound) (s : Socket) : Socket :=
  match s.conduit? epoch with
  | some { established := true, .. } =>
    match inbound with
    | .text data => s.fire epoch (.message data)
    | .other => s
    | .closed => s.finish epoch
    | .failed reason => (s.fire epoch (.error reason)).finish epoch
  | _ => s

/-! ### Runs -/

/-- The smallest step of a run: a call from outside the handlers, or what the task of a conduit
finds ready. -/
inductive Move
  | call (call : Call)
  | handshake (epoch : Nat) (outcome : Except SocketFault Unit)
  | abandon (epoch : Nat)
  | obey (epoch : Nat) (failure : Option String)
  | read (epoch : Nat) (inbound : Inbound)

/-- Makes a move. -/
def move (s : Socket) : Move → Socket
  | .call call => (s.perform call).1
  | .handshake epoch outcome => s.handshake epoch outcome
  | .abandon epoch => s.abandon epoch
  | .obey epoch failure => s.obey epoch failure
  | .read epoch inbound => s.read epoch inbound

/-- Makes moves one after another. -/
def run (s : Socket) (moves : List Move) : Socket := moves.foldl move s

/-- Lets every handshake in progress end, the oldest first: given up if there is a command, and
failed otherwise. Handlers may open new conduits for ever, so there is a limit. -/
def drain (fault : SocketFault) : (limit : Nat) → Socket → Socket
  | 0, s => s
  | limit + 1, s =>
    match s.conduits.find? (!·.established) with
    | none => s
    | some c =>
      drain fault limit
        (if c.hasCommand then s.abandon c.epoch else s.handshake c.epoch (.error fault))

end Socket

end ResilientChannel
