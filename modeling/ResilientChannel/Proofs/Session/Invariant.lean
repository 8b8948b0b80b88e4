import ResilientChannel.Proofs.Session.Touch

/-!
Invariants of runs.

* **One deed.** `drive?_cases` says all that the driver may do next: it handles the signal at the head
  of its queue or, with an empty queue, runs one of the timers that is due.
* **Invariants.** An `Invariant` for a class of actions is kept by the touches of the class, by the
  driver's deeds and by passing time. Then it is kept by every run whose actions lie in the class
  (`Invariant.run`).
-/

namespace ResilientChannel.Session

variable {p : Action → Prop} {I : Session → Prop} {s t : Session}

/-- A session as it begins, at any time and over any line. -/
def fresh (now : Time) (line : Line) : Session := { now, line }

/-! ### One deed -/

/-- A running driver takes the signal at the head of the queue. -/
lemma drive?_of_queue {x : Signal} {rest : List Signal} (hrunning : s.running)
    (hqueue : s.queue = x :: rest) :
    s.drive? = some (({ s with queue := rest }.note (.took x)).handle x) := by
  rw [drive?, if_neg (by simp [hrunning]), hqueue]

/-- The driver's next deed is to handle a signal, to retry or to beat, in this order. -/
lemma drive?_cases (h : s.drive? = some t) :
    s.running ∧
      ((∃ x rest, s.queue = x :: rest ∧ t = ({ s with queue := rest }.note (.took x)).handle x) ∨
        (s.queue = [] ∧ s.life.retry.isDue s.now ∧ t = s.retry) ∨
        (s.queue = [] ∧ s.life.retry.isDue s.now = false ∧ s.life.heartbeat.isDue s.now ∧
          t = s.beat)) := by
  rw [drive?] at h
  split at h
  next => cases h
  next hrunning =>
    refine ⟨by simpa using hrunning, ?_⟩
    split at h
    next x rest hqueue => exact .inl ⟨x, rest, hqueue, (Option.some.inj h).symm⟩
    next hqueue =>
      split at h
      next hdue => exact .inr (.inl ⟨hqueue, hdue, (Option.some.inj h).symm⟩)
      next hdue =>
        split at h
        next hbeat =>
          exact .inr (.inr ⟨hqueue, by simpa using hdue, hbeat, (Option.some.inj h).symm⟩)
        next => cases h

/-! ### Invariants -/

/-- The move does nothing outside of a class of actions. -/
def Move.Within (p : Action → Prop) : Move → Prop
  | .act action => action.Within p
  | _ => True

lemma Move.within_of_forall (h : ∀ a, p a) (m : Move) : m.Within p := by
  cases m with
  | act action => exact Action.within_of_forall h action
  | _ => trivial

/-- What actions of a class, the driver and the clock all keep. -/
structure Invariant (p : Action → Prop) (I : Session → Prop) : Prop where
  touch {s t : Session} : I s → Touch p s t → I t
  drive {s t : Session} : I s → s.drive? = some t → I t
  pass {s : Session} (duration : Time) : I s → I { s with now := s.now + duration }

namespace Invariant

variable (hI : Invariant p I)

include hI

lemma move (h : I s) {m : Move} (hm : m.Within p) : I (s.move m) := by
  cases m with
  | act action => exact (perform_touches s action hm).keeps hI.touch h
  | drive =>
      rw [Session.move]
      cases hd : s.drive? with
      | none => exact h
      | some t => exact hI.drive h hd
  | watch id => exact (watch_touches s id).keeps hI.touch h
  | pass duration => exact (wake_touches _ _).keeps hI.touch (hI.pass duration h)

/-- An invariant holds throughout a run. -/
lemma run (h : I s) {moves : List Move} (hmoves : ∀ m ∈ moves, m.Within p) : I (s.run moves) := by
  induction moves generalizing s with
  | nil => exact h
  | cons m moves ih =>
      exact ih (hI.move h (hmoves m (by simp))) fun m' hm' => hmoves m' (by simp [hm'])

end Invariant

end ResilientChannel.Session
