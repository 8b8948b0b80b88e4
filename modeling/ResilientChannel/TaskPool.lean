/-!
A pool of background tasks that can be aborted together.

* A `TaskPool` knows every task ever spawned by its number, and keeps track of those that an abort
  would reach. Spawning forgets the finished ones (`TaskPool.spawn`); aborting counts and marks the
  unfinished ones and tracks none afterwards (`TaskPool.abortAll`).
* Tasks get to run in turns. In a turn a marked task is destroyed, and of the others those end that
  the turn lets end (`TaskPool.turn`).
* A `TaskPool.Behaviour` decides on its own when a task ends: at once, never, or behind a gate that
  has to be released after the task was spawned. `TaskPool.Gated` runs a pool of such tasks.
-/

namespace ResilientChannel

/-- Where a task stands: still to run, marked by an abort, ended by itself, or destroyed. -/
inductive TaskStatus
  | running
  | aborting
  | finished
  | destroyed
deriving DecidableEq, Repr, Inhabited

namespace TaskStatus

/-- A task that will not run again. -/
def isEnded : TaskStatus → Bool
  | finished | destroyed => true
  | running | aborting => false

/-- What a turn makes of a task, given whether it may end by itself. -/
def afterTurn (s : TaskStatus) (mayEnd : Bool) : TaskStatus :=
  match s with
  | running => if mayEnd then finished else running
  | aborting => destroyed
  | finished => finished
  | destroyed => destroyed

end TaskStatus

/-- Every task by its number, and the numbers of the tracked ones. -/
structure TaskPool where
  tasks : List TaskStatus := []
  tracked : List Nat := []
deriving DecidableEq, Repr, Inhabited

namespace TaskPool

/-- A task of this number has not ended. -/
def isUnfinished (p : TaskPool) (id : Nat) : Bool := p.tasks[id]?.any (!·.isEnded)

/-- Adds a task under the next number and forgets the ended ones. -/
def spawn (p : TaskPool) : TaskPool where
  tasks := p.tasks ++ [.running]
  tracked := p.tracked.filter p.isUnfinished ++ [p.tasks.length]

/-- Marks every tracked task that has not ended: how many there were, and the pool with nothing
tracked. -/
def abortAll (p : TaskPool) : Nat × TaskPool :=
  let marked := p.tracked.filter p.isUnfinished
  (marked.length,
    { tasks := p.tasks.mapIdx fun id s => if id ∈ marked then .aborting else s
      tracked := [] })

/-- One turn of every task. -/
def turn (p : TaskPool) (mayEnd : Nat → Bool) : TaskPool :=
  { p with tasks := p.tasks.mapIdx fun id s => s.afterTurn (mayEnd id) }

/-- How many tasks have ended or been destroyed. -/
def endedCount (p : TaskPool) : Nat := p.tasks.countP (·.isEnded)

/-! ### Tasks that decide for themselves -/

/-- When a task ends by itself: the first time it runs, never, or once the gate has been released
more often than it had been when the task was spawned. -/
inductive Behaviour
  | ready
  | never
  | behind (releases : Nat)
deriving DecidableEq, Repr, Inhabited

/-- The task may end after this many releases of the gate. -/
def Behaviour.mayEnd (b : Behaviour) (releases : Nat) : Bool :=
  match b with
  | .ready => true
  | .never => false
  | .behind before => before < releases

/-- A pool of tasks with their behaviours, and the releases of the gate so far. -/
structure Gated where
  pool : TaskPool := {}
  behaviours : List Behaviour := []
  releases : Nat := 0
deriving Repr, Inhabited

namespace Gated

/-- Spawns a task. -/
def spawn (g : Gated) (b : Behaviour) : Gated :=
  { g with pool := g.pool.spawn, behaviours := g.behaviours ++ [b] }

/-- Spawns a task behind the gate as it stands. -/
def spawnBehindGate (g : Gated) : Gated := g.spawn (.behind g.releases)

/-- Releases the gate. -/
def release (g : Gated) : Gated := { g with releases := g.releases + 1 }

/-- Lets everything run that can. -/
def settle (g : Gated) : Gated :=
  { g with pool := g.pool.turn fun id => g.behaviours[id]?.any (·.mayEnd g.releases) }

/-- Aborts every tracked task and says how many had not ended. -/
def abortAll (g : Gated) : Nat × Gated :=
  let (count, pool) := g.pool.abortAll
  (count, { g with pool })

end Gated

end TaskPool

end ResilientChannel
