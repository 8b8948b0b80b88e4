import Mathlib.Algebra.BigOperators.Intervals
import ResilientChannel.Proofs.Session.Attempts
import ResilientChannel.Proofs.Session.HalfOpen

/-!
The attempts of an outage of any length.

* **The schedule.** `attemptAt` is when the `k`-th attempt of an outage is made: the delays before it are
  those of the counters from one up to the cap, and then of the cap. `rounds` is everything that is done up
  to then, apart from signals that pass through the queue and from beats (`doings`).
* **The two phases.** A line has gone idle for the `k`-th time, and the driver has yet to hear of it
  (`Down`), or it has, and the next attempt is pending (`Pausing`). One deed leads from one to the other
  (`Down.drive`, `Pausing.drive`), so a smooth run is always in one of them (`Smooth.inOutage`).
* **Progress.** From either of them the driver comes to rest without letting time pass (`InOutage.rest`), and
  the clock moves on to the next deadline, so a smooth run reaches every later moment (`InOutage.reach`).
-/

namespace ResilientChannel.Session

variable {s t u : Session} {k : Nat}

/-! ### The schedule -/

/-- When the `k`-th attempt of an outage is made that began at `start`. -/
def attemptAt (start : Time) (k : Nat) : Time :=
  start + .ms (100 * ∑ i ∈ Finset.Icc 1 k, min i 8 ^ 3)

lemma attemptAt_zero (start : Time) : attemptAt start 0 = start := by
  simp [attemptAt, Time.ms]

lemma attemptAt_succ (start : Time) (k : Nat) :
    attemptAt start (k + 1) = attemptAt start k + Retry.delay (min 8 (k + 1)) := by
  have hms : ∀ a b : Nat, Time.ms (100 * (a + b)) = Time.ms (100 * a) + Time.ms (b * 100) := by
    intro a b
    show 1000 * (100 * (a + b)) = 1000 * (100 * a) + 1000 * (b * 100)
    omega
  calc attemptAt start (k + 1)
      = start + .ms (100 * (∑ i ∈ Finset.Icc 1 k, min i 8 ^ 3 + min (k + 1) 8 ^ 3)) := by
        rw [attemptAt, Finset.sum_Icc_succ_top (by omega)]
    _ = attemptAt start k + .ms (min (k + 1) 8 ^ 3 * 100) := by
        rw [hms, attemptAt]
        exact (Nat.add_assoc ..).symm
    _ = attemptAt start k + Retry.delay (min 8 (k + 1)) := by
        rw [Retry.delay_of_le (by omega), min_comm]

lemma attemptAt_lt (start : Time) (k : Nat) : attemptAt start k < attemptAt start (k + 1) := by
  have hpos : 0 < Retry.delay (min 8 (k + 1)) := Retry.delay_pos (by omega)
  rw [attemptAt_succ]
  exact Nat.lt_add_of_pos_right hpos

/-- The loss after the `k`-th attempt sets the time of the next one. -/
lemma onDisconnect_of_attempts {r : Retry} (h : r.attempts = min 8 k) (start : Time) :
    (r.onDisconnect (attemptAt start k)).2 =
      { attempts := min 8 (k + 1), dueAt := some (attemptAt start (k + 1)) } := by
  have hcount : (r.onDisconnect (attemptAt start k)).2.attempts = min 8 (k + 1) := by
    have hnext := Retry.attempts_onDisconnect (r := r) (by omega) (attemptAt start k)
    omega
  rw [attemptAt_succ, ← hcount]
  rfl

/-- An entry that is more than a signal passing through the queue, or a beat. -/
def Deed.isDoing : Deed → Bool
  | .posted _ | .took _ | .beat _ => false
  | _ => true

/-- What was done, apart from signals passing through the queue and from beats. -/
def doings (h : List Record) : List Record := h.filter (·.deed.isDoing)

/-- What the loss after the `k`-th attempt leads to in an outage that begins in `s`, the latest first: its
counter is one more than the number of attempts, up to the cap, and from the third attempt on the disconnect
callback is called. -/
def loss (s : Session) (k : Nat) : List Record :=
  (if 3 ≤ k then
    (s.life.callbacks.receiver .disconnect).toList.map fun c =>
      { time := attemptAt s.now k, deed := .called c.tag c.view .disconnect [] }
  else []) ++ [{ time := attemptAt s.now k, deed := .lost (min 8 (k + 1)) }]

/-- What is done in an outage that begins in `s` up to the `k`-th attempt, the latest first: the losses and
the attempts in turn. -/
def attempted (s : Session) : Nat → List Record
  | 0 => []
  | k + 1 => { time := attemptAt s.now (k + 1), deed := .opened } :: (loss s k ++ attempted s k)

/-- The same up to the loss that follows the `k`-th attempt. -/
def rounds (s : Session) (k : Nat) : List Record := loss s k ++ attempted s k

/-- A call for the notice of a disconnect. -/
def Deed.isReport : Deed → Bool
  | .called _ _ .disconnect _ => true
  | _ => false

lemma countP_doings (h : List Record) : (doings h).countP (·.deed.isReport) = h.countP (·.deed.isReport) := by
  rw [doings, List.countP_filter]
  refine List.countP_congr fun r _ => ?_
  obtain ⟨time, deed⟩ := r
  cases deed <;> simp [Deed.isReport, Deed.isDoing]

/-- If there is a disconnect callback, every loss from the third attempt on is reported once. -/
lemma countP_attempted {c : Callback} (hc : s.life.callbacks.receiver .disconnect = some c) (k : Nat) :
    (attempted s k).countP (·.deed.isReport) = k - 3 := by
  induction k with
  | zero => rfl
  | succ k ih =>
      rw [attempted, List.countP_cons, List.countP_append, ih, loss, List.countP_append]
      split
      · simp [hc, Deed.isReport]
        omega
      · simp [Deed.isReport]
        omega

lemma countP_rounds {c : Callback} (hc : s.life.callbacks.receiver .disconnect = some c) (k : Nat) :
    (rounds s k).countP (·.deed.isReport) = k - 2 := by
  have hnext := countP_attempted hc (k + 1)
  rw [attempted, List.countP_cons] at hnext
  rw [rounds]
  simpa [Deed.isReport] using hnext

/-! ### What is done -/

lemma doings_cons_of_isDoing {r : Record} (hr : r.deed.isDoing) (h : List Record) :
    doings (r :: h) = r :: doings h := List.filter_cons_of_pos hr

lemma doings_cons_of_not_isDoing {r : Record} (hr : r.deed.isDoing = false) (h : List Record) :
    doings (r :: h) = doings h := List.filter_cons_of_neg (by simp [hr])

/-- The line's events are only put on the queue. -/
lemma doings_hear (s : Session) (events : List TransportEvent) :
    doings (s.hear events).history = doings s.history := by
  obtain ⟨new, hnew, -, hposted⟩ :=
    (Flow.hear (q := fun d => !d.isDoing) s (fun _ => rfl) events).entries
  have hnone : doings new = [] :=
    List.filter_eq_nil_iff.mpr fun r hr => by simpa using hposted r hr
  rw [hnew, doings, List.filter_append]
  exact (congrArg (· ++ _) hnone).trans (List.nil_append _)

/-- A call of an idle callback is one entry. -/
lemma dispatch_history_of_idles {notice : Notice} (h : s.Idles notice) :
    (s.dispatch notice).history =
      ((s.life.callbacks.receiver notice).toList.map fun c =>
        { time := s.now, deed := .called c.tag c.view notice [] }) ++ s.history := by
  cases hc : s.life.callbacks.receiver notice with
  | none => simp [dispatch_of_none hc]
  | some c => simp [dispatch, hc, h c hc, performAll]

/-- What a loss leads to that is reported to an idle callback. -/
lemma doings_lose (hs : s.life.started = true) (h : s.Idles .disconnect) :
    doings s.lose.history =
      (if 3 < s.lossNoted.life.retry.attempts then
        (s.life.callbacks.receiver .disconnect).toList.map fun c =>
          { time := s.now, deed := .called c.tag c.view .disconnect [] }
      else []) ++
        { time := s.now, deed := .lost s.lossNoted.life.retry.attempts } :: doings s.history := by
  have hnoted : doings s.lossNoted.history =
      { time := s.now, deed := .lost s.lossNoted.life.retry.attempts } :: doings s.history :=
    doings_cons_of_isDoing rfl _
  rw [lose_of_started hs]
  split
  next htold =>
    have hidle : s.lossNoted.Idles .disconnect := h
    rw [dispatch_history_of_idles hidle, doings, List.filter_append]
    refine congrArg₂ (· ++ ·) (List.filter_eq_self.mpr fun r hr => ?_) hnoted
    obtain ⟨c, -, rfl⟩ := List.mem_map.mp hr
    rfl
  next htold => exact hnoted

/-! ### The two phases -/

/-- The line of a started channel is idle and refuses to connect, and nobody has anything to tell the
channel; its callbacks are those of `s`. -/
structure Idle (s t : Session) : Prop where
  running : t.running
  started : t.life.started = true
  watchers : t.watchers.all (·.isIdle)
  state : t.line.state = .idle
  refuses : t.line.onConnect = .refuse
  callbacks : t.life.callbacks = s.life.callbacks

lemma Idle.isOpen (h : Idle s t) : t.line.state.isOpen = false := by
  rw [h.state]
  rfl

/-- A handled event leaves the line, the watchers and the callbacks as they are. -/
lemma Idle.attends (h : Idle s t) {event : TransportEvent} (ht : Attends event t u) : Idle s u where
  running := ht.running ▸ h.running
  started := ht.started.trans h.started
  watchers := ht.watchers ▸ h.watchers
  state := ht.line ▸ h.state
  refuses := ht.line ▸ h.refuses
  callbacks := ht.callbacks.trans h.callbacks

/-- The report of a line that has gone idle, after errors for the given reasons. -/
def goneIdle (reasons : List String) : List Signal :=
  reasons.map (.transport ∘ .error) ++ [.transport .disconnect]

/-- The line has gone idle, and the driver has yet to take in that it reported this; nothing else is queued,
apart from errors. The channel is in the `k`-th round of an outage that began in `s`. -/
structure Down (s : Session) (k : Nat) (t : Session) : Prop extends Idle s t where
  queue : ∃ reasons, t.queue = goneIdle reasons
  attempts : t.life.retry.attempts = min 8 k
  now : t.now = attemptAt s.now k
  done : doings t.history = attempted s k ++ doings s.history

/-- The loss after the `k`-th attempt has been put down, and the next attempt is pending. -/
structure Pausing (s : Session) (k : Nat) (t : Session) : Prop extends Idle s t where
  queue : t.queue = []
  retry : t.life.retry = { attempts := min 8 (k + 1), dueAt := some (attemptAt s.now (k + 1)) }
  le_now : attemptAt s.now k ≤ t.now
  now_le : t.now ≤ attemptAt s.now (k + 1)
  done : doings t.history = rounds s k ++ doings s.history

/-- The loss is put down, and reported if it is the fourth or a later one. -/
lemma Down.lose (h : Down s k t) (hreticent : s.Reticent) :
    Pausing s k ({ t with queue := [] }.note (.took (.transport .disconnect))).lose := by
  generalize htook : { t with queue := [] }.note (.took (.transport .disconnect)) = took
  have hidle : Idle s took := htook ▸ { h.toIdle with }
  have hnow : took.now = attemptAt s.now k := htook ▸ h.now
  have hretry : (took.life.retry.onDisconnect took.now).2 =
      { attempts := min 8 (k + 1), dueAt := some (attemptAt s.now (k + 1)) } := by
    rw [hnow]
    exact onDisconnect_of_attempts (htook ▸ h.attempts) s.now
  have hcount : took.lossNoted.life.retry.attempts = min 8 (k + 1) := congrArg Retry.attempts hretry
  have hquiet : ∀ notice, took.Idles notice := by
    intro notice
    rw [Idles, hidle.callbacks]
    exact hreticent.idles notice
  have hlost : Attends .disconnect took took.lose :=
    attends .disconnect hidle.started fun notice _ => hquiet notice
  exact { hidle.attends hlost with
    queue := hlost.queue.trans (htook ▸ rfl)
    retry := hlost.retry.trans hretry
    le_now := by rw [hlost.now, hnow]
    now_le := by rw [hlost.now, hnow]; exact Nat.le_of_lt (attemptAt_lt s.now k)
    done := by
      have hdone : doings took.history = attempted s k ++ doings s.history :=
        htook ▸ (doings_cons_of_not_isDoing rfl _).trans h.done
      rw [doings_lose hidle.started (hquiet .disconnect), hcount, hdone, hnow, hidle.callbacks, rounds,
        loss, List.append_assoc, List.append_assoc]
      refine congrArg (· ++ _) (if_congr ?_ rfl rfl)
      omega }

/-- An error changes nothing. -/
lemma Down.error (h : Down s k t) (reason : String) (reasons : List String) :
    Down s k ({ t with queue := goneIdle reasons }.note (.took (.transport (.error reason)))) :=
  { h with
    queue := ⟨reasons, rfl⟩
    done := (doings_cons_of_not_isDoing rfl _).trans h.done }

/-- The driver takes in an error, or the loss. -/
lemma Down.drive (h : Down s k t) (hreticent : s.Reticent) (hu : t.drive? = some u) :
    Down s k u ∨ Pausing s k u := by
  obtain ⟨reasons, hreasons⟩ := h.queue
  cases reasons with
  | nil =>
      rw [drive?_of_queue h.running hreasons, Option.some.injEq] at hu
      exact .inr (hu ▸ h.lose hreticent)
  | cons reason reasons =>
      rw [drive?_of_queue h.running hreasons, Option.some.injEq] at hu
      exact .inl (hu ▸ h.error reason reasons)

/-- A line that refuses to connect goes idle and reports an error and a loss. -/
lemma openLine_of_refuse (h : s.line.onConnect = .refuse) :
    s.openLine = ({ s with line.state := .idle }.note .opened).hear
      [.error "connection refused", .disconnect] := by
  simp [openLine, Line.connect, Line.react, h, Reaction.refuse]

/-- At its time the attempt is made, and refused. -/
lemma Pausing.attempt (h : Pausing s k t) (hnow : t.now = attemptAt s.now (k + 1)) :
    Down s (k + 1) t.retry := by
  have hdue : t.life.retry.isDue t.now := by
    rw [Retry.isDue, h.retry, hnow]
    simp
  rw [retry_of_isDue hdue, openLine_of_refuse (by exact h.refuses)]
  generalize hopened : { { t with life.retry := { t.life.retry with dueAt := none } } with
    line.state := .idle }.note .opened = opened
  have hrunning : opened.running := hopened ▸ h.running
  have hqueue : opened.queue = [] := hopened ▸ h.queue
  have hdone : doings opened.history = attempted s (k + 1) ++ doings s.history := by
    have hentry : doings opened.history = { time := t.now, deed := .opened } :: doings t.history :=
      hopened ▸ doings_cons_of_isDoing rfl _
    rw [hentry, hnow, h.done]
    rfl
  exact {
    running := by simpa using hrunning
    started := by simpa [← hopened] using h.started
    watchers := by
      rw [hear_watchers, ← hopened]
      exact h.watchers
    state := by simp [← hopened]
    refuses := by simpa [← hopened] using h.refuses
    callbacks := by simpa [← hopened] using h.callbacks
    queue := ⟨["connection refused"], by rw [hear_queue hrunning, hqueue]; rfl⟩
    attempts := by simp [← hopened, h.retry]
    now := by simpa [← hopened] using hnow
    done := by rw [doings_hear, hdone] }

/-- A beat sets the next one, and that is all. -/
lemma Pausing.beat (h : Pausing s k t) (beat : Heartbeat.Beat) : Pausing s k (t.beatNoted beat) :=
  { h with done := (doings_cons_of_not_isDoing rfl _).trans h.done }

/-- While the channel pauses, the driver makes the attempt once it is due, and beats until then. -/
lemma Pausing.drive (h : Pausing s k t) (hu : t.drive? = some u) :
    t.now = attemptAt s.now (k + 1) ∧ Down s (k + 1) u ∨
      u = t.beatNoted (t.life.heartbeat.tick t.now).1 ∧ Pausing s k u := by
  obtain ⟨-, ⟨x, rest, hqueue, -⟩ | ⟨-, hdue, rfl⟩ | ⟨-, -, -, rfl⟩⟩ := drive?_cases hu
  · simp [h.queue] at hqueue
  · have hnow : t.now = attemptAt s.now (k + 1) := by
      refine Nat.le_antisymm h.now_le ?_
      simpa [Retry.isDue, h.retry] using hdue
    exact .inl ⟨hnow, h.attempt hnow⟩
  · rw [beat_of_not_isOpen h.isOpen]
    exact .inr ⟨rfl, h.beat _⟩

/-- The clock stops at the next attempt. -/
lemma Pausing.pass (h : Pausing s k t) {duration : Time}
    (hstops : ∀ due ∈ t.nextDeadline?, t.now + duration ≤ due) : Pausing s k (t.pass duration) where
  running := by simpa using h.running
  started := by simpa using h.started
  watchers := by simpa using h.watchers
  state := by simpa using h.state
  refuses := by simpa using h.refuses
  callbacks := by simpa using h.callbacks
  queue := by simpa using h.queue
  retry := by simpa using h.retry
  le_now := by simpa using Nat.le_add_right_of_le h.le_now
  now_le := by
    obtain ⟨due, hdue, hle⟩ : ∃ due ∈ t.nextDeadline?, due ≤ attemptAt s.now (k + 1) := by
      rw [nextDeadline?, h.retry]
      cases hbeat : t.life.heartbeat.dueAt with
      | none => exact ⟨_, rfl, Nat.le_refl _⟩
      | some due => exact ⟨_, rfl, Nat.min_le_left ..⟩
    simpa using Nat.le_trans (hstops due hdue) hle
  done := by simpa using h.done

/-! ### Smooth runs -/

/-- An outage that began in `s` goes on. -/
def InOutage (s t : Session) : Prop := ∃ k, Down s k t ∨ Pausing s k t

/-- The line of a started channel with a counter of zero has gone idle, and the driver has yet to take in
that it reported this; nothing else is queued, no watcher has news, no callback takes any action, and the
line will refuse to connect. -/
structure Dropped (s : Session) : Prop where
  running : s.running
  started : s.life.started = true
  attempts : s.life.retry.attempts = 0
  queue : s.queue = [.transport .disconnect]
  watchers : s.watchers.all (·.isIdle)
  reticent : s.Reticent
  state : s.line.state = .idle
  refuses : s.line.onConnect = .refuse

/-- A settled channel with a counter of zero whose line drops. -/
lemma Dropped.of_isSettled (h : s.isSettled) (hrunning : s.running) (hstarted : s.life.started = true)
    (hattempts : s.life.retry.attempts = 0) (hreticent : s.Reticent)
    (hrefuses : s.line.onConnect = .refuse) : Dropped (s.move (.act .lineDrops)) where
  running := by simpa [move, perform] using hrunning
  started := by simpa [move, perform] using hstarted
  attempts := by simpa [move, perform] using hattempts
  queue := by
    have hdropped : { s with line.state := .idle }.running := hrunning
    rw [move, perform, hear_queue hdropped, (rest_of_isSettled h hrunning).1]
    rfl
  watchers := by
    rw [isSettled, Bool.and_eq_true] at h
    simpa [move, perform] using h.2
  reticent := by simpa [move, perform, Reticent] using hreticent
  state := by simp [move, perform]
  refuses := by simpa [move, perform] using hrefuses

lemma Dropped.down (h : Dropped s) : Down s 0 s :=
  { h with
    callbacks := rfl
    queue := ⟨[], h.queue⟩
    now := (attemptAt_zero s.now).symm
    done := rfl }

lemma Down.not_isSettled (h : Down s k t) : t.isSettled = false := by
  obtain ⟨reasons, hreasons⟩ := h.queue
  cases reasons <;> simp [isSettled, drive?_of_queue h.running hreasons]

/-- While the channel is left to itself, the outage goes on. -/
lemma Smooth.inOutage (h : Smooth t u) (ht : InOutage s t) (hreticent : s.Reticent) : InOutage s u := by
  induction h with
  | refl => exact ht
  | drive _ hu ih =>
      obtain ⟨k, hdown | hpausing⟩ := ih
      · exact ⟨k, hdown.drive hreticent hu⟩
      · rcases hpausing.drive hu with ⟨-, hdown⟩ | ⟨-, hpausing⟩
        · exact ⟨k + 1, .inl hdown⟩
        · exact ⟨k, .inr hpausing⟩
  | watch _ id ih =>
      obtain ⟨k, h⟩ := ih
      have hidle := h.elim (·.watchers) (·.watchers)
      exact (watch_of_idle hidle id).symm ▸ ⟨k, h⟩
  | pass _ duration hsettled hstops ih =>
      obtain ⟨k, hdown | hpausing⟩ := ih
      · simp [hdown.not_isSettled] at hsettled
      · exact ⟨k, .inr (hpausing.pass hstops)⟩

/-- At rest the next attempt is still to come. -/
lemma InOutage.of_isSettled (h : InOutage s t) (hsettled : t.isSettled) :
    ∃ k, Pausing s k t ∧ t.now < attemptAt s.now (k + 1) := by
  obtain ⟨k, hdown | hpausing⟩ := h
  · simp [hdown.not_isSettled] at hsettled
  · obtain ⟨-, hretry, -⟩ := rest_of_isSettled hsettled hpausing.running
    refine ⟨k, hpausing, ?_⟩
    simpa [Retry.isDue, hpausing.retry] using hretry

/-! ### Progress -/

/-- Before the attempt is due, there is at most a beat to come. -/
lemma Pausing.rest (h : Pausing s k t) (hnow : t.now < attemptAt s.now (k + 1)) :
    ∃ u, Smooth t u ∧ u.isSettled ∧ u.now = t.now := by
  have hsettled : ∀ {u : Session}, Pausing s k u → u.now = t.now →
      u.life.heartbeat.isDue u.now = false → u.isSettled := by
    intro u hu hsame hbeat
    have hretry : u.life.retry.isDue u.now = false := by
      simpa [Retry.isDue, hu.retry, hsame] using hnow
    have hundue : Undue u := ⟨hu.running, hu.started, hretry, hbeat⟩
    rw [isSettled, hundue.drive?_eq_none hu.queue, hu.watchers]
    rfl
  cases hbeat : t.life.heartbeat.isDue t.now with
  | false => exact ⟨t, .refl, hsettled h rfl hbeat, rfl⟩
  | true =>
      have hretry : t.life.retry.isDue t.now = false := by
        simpa [Retry.isDue, h.retry] using hnow
      have hdrive : t.drive? = some t.beat := by simp [drive?, h.running, h.queue, hretry, hbeat]
      rw [beat_of_not_isOpen h.isOpen] at hdrive
      exact ⟨_, Smooth.refl.drive hdrive,
        hsettled (h.beat _) rfl (Heartbeat.not_isDue_of_dueAt rfl), rfl⟩

/-- The driver takes in what the line has reported. -/
lemma Down.exists_pausing (h : Down s k t) (hreticent : s.Reticent) :
    ∃ u, Smooth t u ∧ Pausing s k u ∧ u.now = t.now := by
  obtain ⟨reasons, hreasons⟩ := h.queue
  induction reasons generalizing t with
  | nil =>
      have hdrive := drive?_of_queue h.running hreasons
      exact ⟨_, Smooth.refl.drive hdrive, h.lose hreticent, drive?_now hdrive⟩
  | cons reason reasons ih =>
      have hdrive := drive?_of_queue h.running hreasons
      obtain ⟨u, hsmooth, hpausing, hnow⟩ := ih (h.error reason reasons) rfl
      exact ⟨u, (Smooth.refl.drive hdrive).trans hsmooth, hpausing, hnow⟩

/-- The driver comes to rest without letting time pass. -/
lemma InOutage.rest (h : InOutage s t) (hreticent : s.Reticent) :
    ∃ u, Smooth t u ∧ u.isSettled ∧ u.now = t.now := by
  have hdown : ∀ {k : Nat} {t : Session}, Down s k t → ∃ u, Smooth t u ∧ u.isSettled ∧ u.now = t.now := by
    intro k t h
    obtain ⟨u, hsmooth, hpausing, hnow⟩ := h.exists_pausing hreticent
    have hearly : u.now < attemptAt s.now (k + 1) := by
      rw [hnow, h.now]
      exact attemptAt_lt s.now k
    obtain ⟨v, hsmooth', hsettled, hnow'⟩ := hpausing.rest hearly
    exact ⟨v, hsmooth.trans hsmooth', hsettled, hnow'.trans hnow⟩
  obtain ⟨k, h | h⟩ := h
  · exact hdown h
  · rcases Nat.lt_or_eq_of_le h.now_le with hearly | hdue
    · exact h.rest hearly
    · -- the attempt is made and refused at once, and the next one is later
      have hdrive : t.drive? = some t.retry := by
        simp [drive?, h.running, h.queue, Retry.isDue, h.retry, hdue]
      obtain ⟨u, hsmooth, hsettled, hnow⟩ := hdown (h.attempt hdue)
      exact ⟨u, (Smooth.refl.drive hdrive).trans hsmooth, hsettled, hnow.trans (drive?_now hdrive)⟩

/-- At rest there is a next deadline, and it is later. -/
lemma Pausing.exists_deadline (h : Pausing s k t) (hsettled : t.isSettled) :
    ∃ next, t.nextDeadline? = some next ∧ t.now < next := by
  obtain ⟨-, hretry, hbeat⟩ := rest_of_isSettled hsettled h.running
  have hattempt : t.now < attemptAt s.now (k + 1) := by
    simpa [Retry.isDue, h.retry] using hretry
  rw [nextDeadline?, h.retry]
  cases hdue : t.life.heartbeat.dueAt with
  | none => exact ⟨_, rfl, hattempt⟩
  | some due =>
      refine ⟨_, rfl, Nat.lt_min.mpr ⟨hattempt, ?_⟩⟩
      simpa [Heartbeat.isDue, hdue] using hbeat

/-- Every later time is reached: the clock moves on at every deadline on the way. -/
lemma InOutage.reach (h : InOutage s t) (hreticent : s.Reticent) {later : Time} (hle : t.now ≤ later) :
    ∃ u, Smooth t u ∧ u.isSettled ∧ u.now = later := by
  induction hleft : later - t.now using Nat.strong_induction_on generalizing t with
  | _ left ih =>
      obtain ⟨u, hsmooth, hsettled, hnow⟩ := h.rest hreticent
      rcases Nat.eq_or_lt_of_le hle with heq | hlt
      · exact ⟨u, hsmooth, hsettled, hnow.trans heq⟩
      · obtain ⟨k, hpausing, -⟩ := (hsmooth.inOutage h hreticent).of_isSettled hsettled
        obtain ⟨next, hnext, hlater⟩ := hpausing.exists_deadline hsettled
        rw [hnow] at hlater
        have hstop : t.now < min next later := Nat.lt_min.mpr ⟨hlater, hlt⟩
        have hsum : u.now + (min next later - t.now) = min next later := by
          rw [hnow]
          exact Nat.add_sub_of_le (Nat.le_of_lt hstop)
        have hpass : Smooth t (u.pass (min next later - t.now)) := by
          refine hsmooth.pass _ hsettled fun due hdue => ?_
          obtain rfl : next = due := Option.some.inj (hnext.symm.trans hdue)
          exact Nat.le_trans (Nat.le_of_eq hsum) (Nat.min_le_left ..)
        have hpassed : (u.pass (min next later - t.now)).now = min next later := by
          simpa using hsum
        obtain ⟨v, hsmooth', hsettled', hnow'⟩ := ih (later - min next later)
          (hleft ▸ Nat.sub_lt_sub_left hlt hstop) (hpass.inOutage h hreticent)
          (Nat.le_trans (Nat.le_of_eq hpassed) (Nat.min_le_right ..)) (by rw [hpassed])
        exact ⟨v, hpass.trans hsmooth', hsettled', hnow'⟩

/-- **The attempts of an outage are made on schedule, however long it lasts.** The line of a started channel
with a counter of zero goes idle and reports it, and refuses to connect from then on; nothing else is
queued, and nobody has anything to tell the channel. Then, while it is left to itself,

* in every settled state the losses, the attempts and the calls of the disconnect callback so far are those
  of `rounds`, and apart from beats and signals nothing else was done: at the time of the `k`-th attempt and
  up to the next one, `k` attempts were made, each at its time, and each was followed in the same instant by
  a loss with a counter of one more than the number of attempts, up to eight; the disconnect callback was
  called `k - 2` times; the counter and the pending attempt are those of the last loss;
* every later time is reached, so every one of these attempts is made;
* a beat, also in the instant of an attempt, leaves its entry, sets the next beat and does nothing else. -/
theorem outage_on_schedule (h : Dropped s) :
    (∀ t, Smooth s t → t.isSettled → ∃ k,
      attemptAt s.now k ≤ t.now ∧ t.now < attemptAt s.now (k + 1) ∧
      t.life.retry = { attempts := min 8 (k + 1), dueAt := some (attemptAt s.now (k + 1)) } ∧
      doings t.history = rounds s k ++ doings s.history ∧
      ∀ c, s.life.callbacks.receiver .disconnect = some c →
        t.history.countP (·.deed.isReport) = s.history.countP (·.deed.isReport) + (k - 2)) ∧
    (∀ t, Smooth s t → ∀ later, t.now ≤ later → ∃ u, Smooth t u ∧ u.isSettled ∧ u.now = later) ∧
    ∀ t u beat newer, Smooth s t → t.drive? = some u →
      u.history = newer ++ { time := t.now, deed := .beat beat } :: t.history → u = t.beatNoted beat := by
  have houtage : ∀ {t : Session}, Smooth s t → InOutage s t := fun ht =>
    ht.inOutage ⟨0, .inl h.down⟩ h.reticent
  refine ⟨fun t ht hsettled => ?_, fun t ht later hle => (houtage ht).reach h.reticent hle, ?_⟩
  · obtain ⟨k, hpausing, hearly⟩ := (houtage ht).of_isSettled hsettled
    refine ⟨k, hpausing.le_now, hearly, hpausing.retry, hpausing.done, fun c hc => ?_⟩
    rw [← countP_doings, hpausing.done, List.countP_append, countP_rounds hc, countP_doings, Nat.add_comm]
  · intro t u beat newer ht hu hhistory
    obtain ⟨hrunning, hqueue, -, -, rfl⟩ := drive?_of_beat hu hhistory
    have hclosed : t.line.state.isOpen = false := by
      obtain ⟨k, hdown | hpausing⟩ := houtage ht
      · exact hdown.isOpen
      · exact hpausing.isOpen
    rw [beat_of_not_isOpen hclosed] at hhistory ⊢
    change [] ++ { time := t.now, deed := _ } :: t.history = _ at hhistory
    have hentry := (List.append_inj' hhistory rfl).2
    simp only [List.cons.injEq, Record.mk.injEq, Deed.beat.injEq, true_and, and_true] at hentry
    rw [hentry]

/-- A line that has been heard of at the start drops after 21.4 s, and its third attempt is made in the same
instant in which the heartbeat beats: it is made first, and the fourth loss is the first to be reported. -/
theorem outage_on_schedule_with_beat :
    let before := (fresh 0 {}).run [.act .connect, .drive, .act (.onDisconnect "down" []), .drive,
      .act .lineOpens, .drive, .act (.lineReacts (some .refuse) none), .pass (.ms 21400)]
    let s := before.move (.act .lineDrops)
    let t := s.run [.drive, .pass (.ms 100), .drive, .drive, .drive, .pass (.ms 800), .drive, .drive, .drive,
      .pass (.ms 2700), .drive, .drive, .drive, .drive]
    before.isSettled ∧ Dropped s ∧ Smooth s t ∧ t.isSettled ∧ t.now = .ms 25000 ∧
      t.life.heartbeat.dueAt = some (.ms 50000) ∧ ∃ k,
        attemptAt s.now k ≤ t.now ∧ t.now < attemptAt s.now (k + 1) ∧
        t.life.retry = { attempts := min 8 (k + 1), dueAt := some (attemptAt s.now (k + 1)) } ∧
        doings t.history = rounds s k ++ doings s.history ∧
        ∀ c, s.life.callbacks.receiver .disconnect = some c →
          t.history.countP (·.deed.isReport) = s.history.countP (·.deed.isReport) + (k - 2) := by
  intro before s t
  have hsettled : before.isSettled := by decide +kernel
  have hreticent : before.Reticent := by
    intro kind c hc
    cases kind with
    | message | connect => cases hc
    | disconnect =>
        obtain rfl := Option.some.inj hc
        rfl
  have hdropped : Dropped s := .of_isSettled hsettled rfl rfl rfl hreticent rfl
  have hsmooth : Smooth s t := Smooth.refl.run (by decide +kernel)
  have hrest : t.isSettled := by decide +kernel
  exact ⟨hsettled, hdropped, hsmooth, hrest, by decide +kernel, by decide +kernel,
    (outage_on_schedule hdropped).1 t hsmooth hrest⟩

end ResilientChannel.Session
