/-!
Time on the channel's clock.

* `Time` counts microseconds from an arbitrary start. Durations are counted in the same unit, so a
  deadline is a sum and a silence is a truncated difference.
* `Time.ms` and `Time.toMs` convert from and to milliseconds, the unit in which every parameter of
  the channel is stated; `Time.toMs_ms` says that nothing is lost on the way.
-/

namespace ResilientChannel

/-- A point in time or a duration, in microseconds. -/
abbrev Time : Type := Nat

namespace Time

/-- The duration of `n` milliseconds. -/
def ms (n : Nat) : Time := 1000 * n

/-- The whole milliseconds in a duration. -/
def toMs (t : Time) : Nat := t / 1000

@[simp]
theorem toMs_ms (n : Nat) : toMs (ms n) = n := by
  simp [toMs, ms]

end Time

end ResilientChannel
