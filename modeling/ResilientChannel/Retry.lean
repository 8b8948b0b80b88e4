import ResilientChannel.Parameters

/-!
When to try again after a lost connection.

* `Retry.delay` is the backoff law: the cube of the attempt counter, in units of a tenth of a
  second. The cube is computed in 32 bits and the product in 64 bits; where one of them does not fit,
  a fixed fallback takes the place of the law.
* A `Retry` holds the counter and the one pending deadline. Losing the connection advances the
  counter up to its cap and sets the deadline anew (`Retry.onDisconnect`); an opened connection
  clears both (`Retry.onConnect`).
-/

namespace ResilientChannel

/-- The attempt counter and the pending attempt, if any. -/
structure Retry where
  attempts : Nat := 0
  dueAt : Option Time := none
deriving DecidableEq, Repr, Inhabited

namespace Retry

/-! ### The backoff law -/

/-- The cube of a counter, if it fits in 32 bits. -/
def cube? (n : Nat) : Option Nat :=
  if n * n * n < UInt32.size then some (n * n * n) else none

/-- The product of two numbers, if it fits in 64 bits. -/
def product? (a b : Nat) : Option Nat :=
  if a * b < UInt64.size then some (a * b) else none

/-- The time to wait after the `n`-th failure in a row. -/
def delay (n : Nat) : Time :=
  match (cube? n).bind (product? · Parameters.backoffUnit) with
  | some m => .ms m
  | none => .ms Parameters.backoffFallback

/-! ### The controller -/

/-- What losing a connection leads to. -/
structure Outcome where
  attempts : Nat
  report : Bool
  delay : Time
deriving DecidableEq, Repr

/-- More than one failure in a row. -/
def inBackoff (r : Retry) : Bool := 1 < r.attempts

/-- A connection has opened: whether it followed a failure, and the cleared controller. -/
def onConnect (r : Retry) : Bool × Retry :=
  (0 < r.attempts, { attempts := 0, dueAt := none })

/-- A connection has been lost at `now`: the counter advances up to its cap, and the next attempt
replaces any pending one. -/
def onDisconnect (r : Retry) (now : Time) : Outcome × Retry :=
  let attempts := if r.attempts < Parameters.attemptCap then r.attempts + 1 else r.attempts
  ({ attempts, report := Parameters.reportThreshold < attempts, delay := delay attempts },
    { attempts, dueAt := some (now + delay attempts) })

/-- The counter starts over as after a first failure; the pending attempt stands. -/
def accelerate (r : Retry) : Retry := { r with attempts := 1 }

/-- A pending attempt whose time has come at `now`. -/
def isDue (r : Retry) (now : Time) : Bool := r.dueAt.any (· ≤ now)

/-- Takes the pending attempt if its time has come. -/
def takeDue (r : Retry) (now : Time) : Bool × Retry :=
  if r.isDue now then (true, { r with dueAt := none }) else (false, r)

/-- Drops the pending attempt. -/
def cancel (r : Retry) : Retry := { r with dueAt := none }

end Retry

end ResilientChannel
