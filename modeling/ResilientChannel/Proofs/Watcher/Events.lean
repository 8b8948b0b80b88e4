import Mathlib.Data.List.Basic
import ResilientChannel.Watcher

/-!
What a watcher makes of the values published to it.

A watcher lives through events: a value is published, its sender is dropped, or it takes a turn, at which a
signal can be delivered or not. Of the values published between two turns it sees the last one.

* **The events.** `afterAll` is the watcher after events, `forwarded` and `undelivered` are what it made of
  the values `published`. Values are published only to a watcher that runs and has a sender (`Proper`).
* **Thinning out.** `Thins xs ys` says that `xs` leaves out some of `ys`, but not the last one.
* `thins_published`: what was forwarded, could not be delivered, or is unseen thins out what was published.
* `undelivered_cases`: a watcher fails to deliver once at most, and then it has ended.
* `after_ended_iff`: a watcher ends at a turn, and when.
-/

namespace ResilientChannel.Watcher

/-! ### The events -/

/-- What can happen to a watcher. -/
inductive Event
  /-- A value is published on its sender. -/
  | published (status : NetworkStatus)
  /-- Its sender is dropped. -/
  | released
  /-- It takes a turn. -/
  | turned (deliverable : Bool)
deriving DecidableEq, Repr

/-- The value that is published. -/
def Event.status? : Event → Option NetworkStatus
  | .published status => some status
  | _ => none

/-- It is a turn of the watcher. -/
def Event.isTurn : Event → Bool
  | .turned _ => true
  | _ => false

/-- The watcher after an event. -/
def after (w : Watcher) : Event → Watcher
  | .published status => w.publish status
  | .released => w.dropSender
  | .turned deliverable => (w.turn deliverable).2

/-- The watcher after events. -/
def afterAll (w : Watcher) (es : List Event) : Watcher := es.foldl after w

/-- What the watcher forwards. -/
def forwards? (w : Watcher) : Event → Option NetworkStatus
  | .turned deliverable => (w.turn deliverable).1
  | _ => none

/-- What the watcher has seen and cannot deliver. -/
def fails? (w : Watcher) : Event → Option NetworkStatus
  | .turned false => if w.running then w.unseen else none
  | _ => none

/-- What comes of events, one after another. -/
def gather (what : Watcher → Event → Option NetworkStatus) : Watcher → List Event → List NetworkStatus
  | _, [] => []
  | w, e :: es => (what w e).toList ++ gather what (w.after e) es

/-- The values that a watcher forwards. -/
def forwarded : Watcher → List Event → List NetworkStatus := gather forwards?

/-- The values that a watcher fails to deliver. -/
def undelivered : Watcher → List Event → List NetworkStatus := gather fails?

/-- The values published. -/
def published (es : List Event) : List NetworkStatus := es.filterMap Event.status?

/-- Values are published only while the watcher runs and has a sender. -/
def Proper : Watcher → List Event → Prop
  | _, [] => True
  | w, e :: es => (e.status?.isSome → w.running ∧ w.hasSender) ∧ Proper (w.after e) es

/-- An ended watcher has no news. -/
def Quiet (w : Watcher) : Prop := w.running = false → w.unseen = none

variable {w : Watcher} {e : Event} {es es' : List Event}
  {what : Watcher → Event → Option NetworkStatus}

@[simp] lemma afterAll_nil (w : Watcher) : w.afterAll [] = w := rfl

@[simp] lemma afterAll_cons (w : Watcher) (e : Event) (es : List Event) :
    w.afterAll (e :: es) = (w.after e).afterAll es := rfl

lemma afterAll_append (w : Watcher) (es es' : List Event) :
    w.afterAll (es ++ es') = (w.afterAll es).afterAll es' := List.foldl_append

@[simp] lemma gather_nil (w : Watcher) : gather what w [] = [] := rfl

@[simp] lemma gather_cons (w : Watcher) (e : Event) (es : List Event) :
    gather what w (e :: es) = (what w e).toList ++ gather what (w.after e) es := rfl

lemma gather_append (w : Watcher) (es es' : List Event) :
    gather what w (es ++ es') = gather what w es ++ gather what (w.afterAll es) es' := by
  induction es generalizing w with
  | nil => rfl
  | cons e es ih => rw [List.cons_append, gather_cons, ih, gather_cons, afterAll_cons, List.append_assoc]

lemma forwarded_append (w : Watcher) (es es' : List Event) :
    forwarded w (es ++ es') = forwarded w es ++ forwarded (w.afterAll es) es' := gather_append w es es'

lemma proper_append (w : Watcher) (es es' : List Event) :
    Proper w (es ++ es') ↔ Proper w es ∧ Proper (w.afterAll es) es' := by
  induction es generalizing w with
  | nil => simp [Proper]
  | cons e es ih => simp only [List.cons_append, Proper, ih, afterAll_cons, and_assoc]

/-- A turn is what it takes to end. -/
lemma after_running_of_not_isTurn (h : e.isTurn = false) : (w.after e).running = w.running := by
  cases e with
  | published status => rfl
  | released => rfl
  | turned d => cases h

/-- Without a turn the watcher neither ends nor sees anything. -/
lemma afterAll_running_of_not_isTurn (h : ∀ e ∈ es, e.isTurn = false) :
    (w.afterAll es).running = w.running := by
  induction es generalizing w with
  | nil => rfl
  | cons e es ih =>
      rw [afterAll_cons, ih fun e' he' => h e' (List.mem_cons_of_mem _ he'),
        after_running_of_not_isTurn (h e List.mem_cons_self)]

lemma forwarded_of_not_isTurn (h : ∀ e ∈ es, e.isTurn = false) (w : Watcher) : forwarded w es = [] := by
  induction es generalizing w with
  | nil => rfl
  | cons e es ih =>
      have hnone : w.forwards? e = none := by
        cases e with
        | turned d => exact absurd (h _ List.mem_cons_self) Bool.true_eq_false.mp
        | _ => rfl
      rw [forwarded, gather_cons, hnone]
      exact ih (fun e' he' => h e' (List.mem_cons_of_mem _ he')) _

/-- Whoever can deliver at every turn does. -/
lemma undelivered_of_deliverable (h : Event.turned false ∉ es) (w : Watcher) : undelivered w es = [] := by
  induction es generalizing w with
  | nil => rfl
  | cons e es ih =>
      rw [List.mem_cons, not_or] at h
      have hnone : w.fails? e = none := by
        match e with
        | .turned false => exact absurd rfl h.1
        | .turned true | .published _ | .released => rfl
      rw [undelivered, gather_cons, hnone]
      exact ih h.2 _

/-- **The end.** A watcher ends at a turn at which its sender is gone, once its news is forwarded, or at which
its news cannot be delivered. -/
lemma after_ended_iff :
    (w.after e).running = false ↔
      w.running = false ∨
        ∃ d, e = .turned d ∧ (w.hasSender = false ∨ (w.unseen.isSome ∧ d = false)) := by
  cases e with
  | published status => simp [after, publish]
  | released => simp [after, dropSender]
  | turned d =>
      rw [after, turn]
      cases hrunning : w.running <;> cases w.unseen <;> cases d <;> simp [hrunning]

/-- What cannot be delivered is not forwarded. -/
lemma turn_undeliverable (w : Watcher) : (w.turn false).1 = none := by
  rw [turn]
  cases w.running <;> cases w.unseen <;> rfl

/-- The sender is there until it is dropped. -/
lemma after_hasSender : (w.after e).hasSender = (w.hasSender && e != .released) := by
  cases e with
  | published status => simp [after, publish]
  | released => simp [after, dropSender]
  | turned d =>
      rw [after, turn]
      cases w.running <;> cases w.unseen <;> cases d <;> simp

/-- Once it has ended, nothing comes of its events. -/
lemma gather_of_ended {what : Watcher → Event → Option NetworkStatus}
    (hwhat : ∀ (w : Watcher) e, w.running = false → what w e = none) (h : w.running = false)
    (es : List Event) : gather what w es = [] := by
  induction es generalizing w with
  | nil => rfl
  | cons e es ih =>
      rw [gather_cons, hwhat w e h, ih (after_ended_iff.mpr (.inl h))]
      rfl

lemma forwards?_of_ended (w : Watcher) (e : Event) (h : w.running = false) : w.forwards? e = none := by
  cases e with
  | turned d => simp [forwards?, turn, h]
  | _ => rfl

lemma fails?_of_ended (w : Watcher) (e : Event) (h : w.running = false) : w.fails? e = none := by
  cases e with
  | turned d => cases d <;> simp [fails?, h]
  | _ => rfl

lemma afterAll_ended (h : w.running = false) (es : List Event) : (w.afterAll es).running = false := by
  induction es generalizing w with
  | nil => exact h
  | cons e es ih => exact ih (after_ended_iff.mpr (.inl h))

lemma after_ended_of_fails? {status : NetworkStatus} (h : w.fails? e = some status) :
    (w.after e).running = false := by
  match e with
  | .turned false =>
      simp only [fails?] at h
      split at h
      · exact after_ended_iff.mpr (.inr ⟨false, rfl, .inr ⟨by rw [h]; rfl, rfl⟩⟩)
      · cases h
  | .turned true | .published _ | .released => cases h

/-- Of statuses published one after another the last one is unseen. -/
lemma afterAll_published (w : Watcher) (statuses : List NetworkStatus) (status : NetworkStatus) :
    w.afterAll ((statuses ++ [status]).map .published) = w.publish status := by
  induction statuses generalizing w with
  | nil => rfl
  | cons earlier statuses ih => exact ih (w.publish earlier)

/-- An unseen status is forwarded at the next turn, whatever was forwarded before. -/
lemma forwards?_publish (h : w.running) (status : NetworkStatus) :
    (w.publish status).forwards? (.turned true) = some status := by
  simp [forwards?, turn, publish, h]

/-! ### Thinning out -/

/-- Some of the values may be left out, but not the last one. -/
structure Thins (xs ys : List NetworkStatus) : Prop where
  sublist : xs.Sublist ys
  last : xs.getLast? = ys.getLast?

namespace Thins

variable {xs ys zs : List NetworkStatus}

lemma refl (xs : List NetworkStatus) : Thins xs xs := ⟨.refl xs, rfl⟩

lemma trans (h : Thins xs ys) (h' : Thins ys zs) : Thins xs zs :=
  ⟨h.sublist.trans h'.sublist, h.last.trans h'.last⟩

lemma append_left (h : Thins xs ys) (zs : List NetworkStatus) : Thins (zs ++ xs) (zs ++ ys) :=
  ⟨h.sublist.append_left zs, by rw [List.getLast?_append, List.getLast?_append, h.last]⟩

/-- What stands in front of a value may be left out. -/
lemma skip (xs : List NetworkStatus) (x : NetworkStatus) (ys : List NetworkStatus) :
    Thins (x :: ys) (xs ++ x :: ys) :=
  ⟨List.sublist_append_right .., by rw [List.getLast?_append, List.getLast?_cons, Option.some_or]⟩

end Thins

/-! ### What becomes of the values -/

lemma Quiet.after (h : w.Quiet) (hpublished : e.status?.isSome → w.running ∧ w.hasSender) :
    (w.after e).Quiet := by
  intro hended
  cases e with
  | published status =>
      obtain ⟨hrunning, -⟩ := hpublished rfl
      simp [Watcher.after, publish, hrunning] at hended
  | released => exact h hended
  | turned d =>
      rw [Watcher.after, turn] at hended ⊢
      cases hrunning : w.running with
      | false => simpa [hrunning] using h hrunning
      | true => cases w.unseen <;> cases d <;> simp

lemma Quiet.afterAll (h : w.Quiet) (hproper : Proper w es) : (w.afterAll es).Quiet := by
  induction es generalizing w with
  | nil => exact h
  | cons e es ih => exact ih (h.after hproper.1) hproper.2

/-- An idle watcher has seen everything. -/
lemma Quiet.unseen_of_isIdle (h : w.Quiet) (hidle : w.isIdle) : w.unseen = none := by
  cases hrunning : w.running with
  | false => exact h hrunning
  | true =>
      rw [isIdle, hrunning, Bool.not_true, Bool.false_or, Bool.and_eq_true] at hidle
      exact Option.isNone_iff_eq_none.mp hidle.1

/-- At a turn nothing is seen, or the unseen value is forwarded, or it cannot be delivered and the watcher
ends. -/
lemma turn_cases (w : Watcher) (d : Bool) :
    (w.forwards? (.turned d) = none ∧ w.fails? (.turned d) = none ∧
        (w.after (.turned d)).unseen = w.unseen) ∨
      ∃ status, w.unseen = some status ∧ (w.after (.turned d)).unseen = none ∧
        ((w.forwards? (.turned d) = some status ∧ w.fails? (.turned d) = none) ∨
          (w.forwards? (.turned d) = none ∧ w.fails? (.turned d) = some status ∧
            (w.after (.turned d)).running = false)) := by
  cases hrunning : w.running with
  | false =>
      left
      cases d <;> simp [forwards?, fails?, Watcher.after, turn, hrunning]
  | true =>
      cases hunseen : w.unseen with
      | none =>
          left
          cases d <;> simp [forwards?, fails?, Watcher.after, turn, hrunning, hunseen]
      | some status =>
          right
          refine ⟨status, rfl, ?_⟩
          cases d <;> simp [forwards?, fails?, Watcher.after, turn, hrunning, hunseen]

/-- **Nothing is lost but what is overtaken.** The values forwarded, the one that could not be delivered and
the one that is unseen are values published, in order, and with the last of them. -/
lemma thins_published (hquiet : w.Quiet) (hproper : Proper w es) :
    Thins (forwarded w es ++ (undelivered w es ++ (w.afterAll es).unseen.toList))
      (w.unseen.toList ++ published es) := by
  induction es generalizing w with
  | nil => simpa [forwarded, undelivered, published] using Thins.refl _
  | cons e es ih =>
      have hrest := ih (hquiet.after hproper.1) hproper.2
      rw [forwarded, undelivered, gather_cons, gather_cons, afterAll_cons]
      cases e with
      | published status => exact hrest.trans (.skip _ _ _)
      | released => exact hrest
      | turned d =>
          -- What is unseen before the turn is unseen, forwarded or undelivered after it.
          have hnone : published (.turned d :: es) = published es := rfl
          rw [hnone]
          rcases turn_cases w d with ⟨hforwards, hfails, hunseen⟩ |
            ⟨status, hunseen, hseen, ⟨hforwards, hfails⟩ | ⟨hforwards, hfails, hended⟩⟩
          · rw [hforwards, hfails, ← hunseen]
            exact hrest
          · rw [hforwards, hfails, hunseen]
            rw [hseen] at hrest
            exact hrest.append_left [status]
          · rw [hseen, forwarded, gather_of_ended forwards?_of_ended hended] at hrest
            rw [hforwards, hfails, hunseen, gather_of_ended forwards?_of_ended hended]
            exact hrest.append_left [status]

/-- **One failure.** A watcher fails to deliver at most one value, the last one published, and then it has
ended. -/
lemma undelivered_cases (hquiet : w.Quiet) (hproper : Proper w es) :
    undelivered w es = [] ∨
      ∃ status, undelivered w es = [status] ∧ (w.afterAll es).running = false ∧
        (w.unseen.toList ++ published es).getLast? = some status := by
  have hlast := (thins_published hquiet hproper).last
  have hsingle : undelivered w es = [] ∨
      ∃ status, undelivered w es = [status] ∧ (w.afterAll es).running = false := by
    clear hlast
    induction es generalizing w with
    | nil => exact .inl rfl
    | cons e es ih =>
        rw [undelivered, gather_cons, afterAll_cons]
        cases hfails : w.fails? e with
        | none => exact ih (hquiet.after hproper.1) hproper.2
        | some status =>
            have hended := after_ended_of_fails? hfails
            right
            refine ⟨status, ?_, afterAll_ended hended es⟩
            rw [gather_of_ended fails?_of_ended hended, List.append_nil]
            rfl
  rcases hsingle with hnone | ⟨status, hsome, hended⟩
  · exact .inl hnone
  · refine .inr ⟨status, hsome, hended, ?_⟩
    rw [← hlast, hsome, (hquiet.afterAll hproper) hended]
    simp

end ResilientChannel.Watcher
