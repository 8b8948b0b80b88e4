import ResilientChannel.Session.Drive

/-!
Runs of a session.

* A `Move` is the smallest step of a run: something from outside, a deed of the driver, a turn of a
  watcher, or time passing. Moves may come in any order, and `Session.run` follows them.
* The scheduler is one way to order them. Workers take turns in the order in which they were woken,
  and the driver keeps its turn while it has something to do (`Session.turn`). `Session.settle` goes
  on until nobody waits. Callbacks may keep the driver busy for ever, so it is given a limit.
* The clock moves at once (`Session.jump`), or smoothly, stopping at every deadline on its way
  (`Session.sleep`).
-/

namespace ResilientChannel.Session

/-- A turn of a watcher. -/
def watch (s : Session) (id : Nat) : Session :=
  match s.watchers[id]? with
  | none => s
  | some w =>
    let (news, w) := w.turn s.running
    let s := { s with watchers := s.watchers.set id w }
    match news with
    | some status => s.post (.network status)
    | none => s

/-- Time passes, and the driver gets to see its timers. -/
def pass (s : Session) (duration : Time) : Session :=
  { s with now := s.now + duration }.wake .driver

/-! ### Moves in any order -/

/-- The smallest step of a run. -/
inductive Move
  | act (action : Action)
  | drive
  | watch (id : Nat)
  | pass (duration : Time)

/-- Makes a move. A driver with nothing to do stays as it is. -/
def move (s : Session) : Move → Session
  | .act action => (s.perform action).1
  | .drive => s.drive?.getD s
  | .watch id => s.watch id
  | .pass duration => s.pass duration

/-- Makes moves one after another. -/
def run (s : Session) (moves : List Move) : Session := moves.foldl move s

/-- Nothing is left to do: no signal queued, no timer due, no news for a watcher. -/
def isSettled (s : Session) : Bool := s.drive?.isNone && s.watchers.all (·.isIdle)

/-! ### The scheduler -/

/-- The turn of whoever is first on the agenda. -/
def turn (s : Session) : Session :=
  match s.agenda with
  | [] => s
  | .driver :: rest => s.drive?.getD { s with agenda := rest }
  | .watcher id :: rest => { s with agenda := rest }.watch id

/-- Goes on until nobody waits for a turn, or until the limit. -/
def settle : (limit : Nat) → Session → Session
  | 0, s => s
  | limit + 1, s => if s.agenda.isEmpty then s else settle limit s.turn

/-! ### The clock -/

/-- Moves the clock at once, `times` times. -/
def jump (limit : Nat) (duration : Time) : (times : Nat) → Session → Session
  | 0, s => s
  | times + 1, s => jump limit duration times ((s.pass duration).settle limit)

/-- The earlier of the two deadlines. -/
def nextDeadline? (s : Session) : Option Time :=
  match s.life.retry.dueAt, s.life.heartbeat.dueAt with
  | some a, some b => some (min a b)
  | some a, none => some a
  | none, b => b

/-- Moves the clock to `target`, stopping at the deadlines on its way, of which there are at most
`stops`. -/
def sleepUntil (limit : Nat) (target : Time) : (stops : Nat) → Session → Session
  | 0, s => (s.pass (target - s.now)).settle limit
  | stops + 1, s =>
    match s.nextDeadline? with
    | some deadline =>
      if s.now < deadline ∧ deadline ≤ target then
        sleepUntil limit target stops ((s.pass (deadline - s.now)).settle limit)
      else (s.pass (target - s.now)).settle limit
    | none => (s.pass (target - s.now)).settle limit

/-- Moves the clock smoothly. Every stop on the way moves it on, so there are no more stops than
instants. -/
def sleep (limit : Nat) (duration : Time) (s : Session) : Session :=
  let s := s.settle limit
  sleepUntil limit (s.now + duration) duration s

end ResilientChannel.Session
