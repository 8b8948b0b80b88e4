import ResilientChannel.Proofs.Session.Exchange
import ResilientChannel.Proofs.Session.Recovery

/-!
A session that is left to itself.

* **Idle callbacks.** A callback may do anything when it is called. `Idles` says that the one in force
  for a notice does nothing, `Reticent` that none does, and `Calm` that none did that was called
  between two sessions.
* **Handled events.** `Retry.hear` and `Heartbeat.hear` say what an event of the line does to a started
  channel. That is all that it does, apart from the entries that it leads to, when no callback takes
  any action (`Attends`, `attends`).
* **Coming to rest.** The driver works until it has nothing left to do (`ComesToRest`), and there is at
  most one way to do so (`ComesToRest.unique`). A channel to which nothing is due (`Undue`) handles the
  events in its queue one after another (`exists_rest`).
* **Smooth runs.** In a run from `s` to `t` nothing is done from outside, and the clock stands still while
  there is something to do and stops at every deadline (`Smooth`). For given moves this can be computed
  (`runsSmoothly`).
-/

namespace ResilientChannel

namespace Retry

/-- The controller after an event of the line that a started channel handles at `now`. -/
def hear (r : Retry) (now : Time) : TransportEvent → Retry
  | .connect => r.onConnect.2
  | .disconnect => (r.onDisconnect now).2
  | .error _ | .message _ => r

lemma isDue_onDisconnect (r : Retry) (now : Time) : (r.onDisconnect now).2.isDue now = false := by
  have hpos := delay_pos (one_le_attempts_onDisconnect r now)
  have hdue : (r.onDisconnect now).2.dueAt =
      some (now + delay (r.onDisconnect now).2.attempts) := rfl
  rw [isDue, hdue, Option.any_some, decide_eq_false_iff_not]
  grind

/-- No event makes an attempt due at once. -/
lemma isDue_hear {r : Retry} {now : Time} (h : r.isDue now = false) (event : TransportEvent) :
    (r.hear now event).isDue now = false := by
  cases event with
  | connect => rfl
  | disconnect => exact isDue_onDisconnect r now
  | error | message => exact h

end Retry

namespace Heartbeat

/-- The heartbeat after an event of the line was handled at `now`. -/
def hear (h : Heartbeat) (now : Time) : TransportEvent → Heartbeat
  | .connect | .message _ => h.recordActivity now
  | .disconnect | .error _ => h

/-- A beat that was just armed is not due yet. -/
lemma not_isDue_of_dueAt {h : Heartbeat} {now : Time}
    (hdue : h.dueAt = some (now + Parameters.pingInterval)) : h.isDue now = false := by
  have hpos : 0 < Parameters.pingInterval := by decide
  rw [isDue, hdue, Option.any_some, decide_eq_false_iff_not]
  grind

/-- No event makes a beat due at once. -/
lemma isDue_hear {h : Heartbeat} {now : Time} (hdue : h.isDue now = false) (event : TransportEvent) :
    (h.hear now event).isDue now = false := by
  cases event with
  | connect | message => exact not_isDue_of_dueAt rfl
  | disconnect | error => exact hdue

end Heartbeat

/-- A graceful line is down once it was asked to disconnect. -/
lemma Line.isLive_disconnect {line : Line} (h : line.onDisconnect = .graceful) :
    line.disconnect.1.state.isLive = false := by
  cases hlive : line.state.isLive with
  | true => rw [Line.disconnect_of_isLive h hlive]; rfl
  | false => rw [Line.disconnect_of_not_isLive h hlive, hlive]

namespace Session

variable {s t u : Session} {event : TransportEvent} {notice : Notice}

/-! ### Idle callbacks -/

/-- The callback in force for a notice takes no action. -/
def Idles (s : Session) (notice : Notice) : Prop :=
  ∀ c, s.life.callbacks.receiver notice = some c → c.script = []

/-- No callback in force takes any action. -/
def Reticent (s : Session) : Prop := ∀ kind c, s.life.callbacks.slot kind = some c → c.script = []

lemma Reticent.of_callbacks_eq_empty (h : s.life.callbacks = {}) : s.Reticent := by
  simp [Reticent, h]

lemma Reticent.idles (h : s.Reticent) (notice : Notice) : s.Idles notice := h notice.kind

/-- A callback that was called, if this is what the entry says, took no action. -/
def Deed.isCalm : Deed → Bool
  | .called _ _ _ did => did.isEmpty
  | _ => true

/-- From one session to the other no callback took any action. -/
def Calm (s t : Session) : Prop := ∃ new, t.history = new ++ s.history ∧ ∀ r ∈ new, r.deed.isCalm

/-- Calm reigns at every moment in between. -/
lemma Calm.split (h : Calm s u) (hst : s.history <:+ t.history) (htu : t.history <:+ u.history) :
    Calm s t ∧ Calm t u := by
  obtain ⟨new, hnew, hcalm⟩ := h
  obtain ⟨first, hfirst⟩ := hst
  obtain ⟨second, hsecond⟩ := htu
  have hsplit : new = second ++ first := by
    rw [← hsecond, ← hfirst, ← List.append_assoc] at hnew
    exact (List.append_cancel_right hnew).symm
  subst hsplit
  exact ⟨⟨first, hfirst.symm, fun r hr => hcalm r (by simp [hr])⟩,
    ⟨second, hsecond.symm, fun r hr => hcalm r (by simp [hr])⟩⟩

lemma Traffic.suffix (h : Traffic s t) : s.history <:+ t.history := by
  obtain ⟨new, hnew, -⟩ := h.history
  exact ⟨new, hnew.symm⟩

/-- Every action is answered. -/
lemma length_performAll (s : Session) (actions : List Action) :
    (s.performAll actions).2.length = actions.length := by
  induction actions generalizing s with
  | nil => simp [performAll]
  | cons a actions ih => simp [performAll, ih]

/-- A call is calm only if the callback takes no action. -/
lemma Calm.idles (h : Calm s (s.dispatch notice)) : s.Idles notice := by
  intro c hc
  have hcalled : (s.dispatch notice).history =
      { time := (s.performAll c.script).1.now
        deed := .called c.tag c.view notice (s.performAll c.script).2 } ::
          (s.performAll c.script).1.history := by
    simp [dispatch, hc]
  obtain ⟨new, hnew, -⟩ := (performAll_flow s c.script).entries
  obtain ⟨all, hall, hcalm⟩ := h
  rw [hcalled, hnew, ← List.cons_append] at hall
  have hdid := hcalm _ (List.append_cancel_right hall ▸ List.mem_cons_self ..)
  rw [Deed.isCalm, List.isEmpty_iff_length_eq_zero, length_performAll] at hdid
  exact List.eq_nil_of_length_eq_zero hdid

/-- A call of an idle callback leaves its entry and nothing else. -/
lemma dispatch_of_idles (h : s.Idles notice) :
    s.dispatch notice = s ∨
      ∃ c : Callback, s.dispatch notice = s.note (.called c.tag c.view notice []) := by
  cases hc : s.life.callbacks.receiver notice with
  | none => exact .inl (dispatch_of_none hc)
  | some c => exact .inr ⟨c, by simp [dispatch, hc, h c hc, performAll]⟩

/-! ### Handled events -/

/-- The session after an event of the line had its effect on a started channel, before anybody is told. -/
def struck (s : Session) : TransportEvent → Session
  | .connect => { s.recordActivity with life.retry := {} }
  | .disconnect => s.lossNoted
  | .error _ => s
  | .message _ => s.recordActivity

/-- The notice that an event of the line leads to on a started channel. -/
def noticeOf (s : Session) : TransportEvent → Option Notice
  | .connect => if 0 < s.life.retry.attempts then some .connect else none
  | .disconnect => if 3 < s.lossNoted.life.retry.attempts then some .disconnect else none
  | .error _ => none
  | .message data => some (.message data)

/-- The event has its effect, the notice is given, and a `Connect` is confirmed to the server. -/
lemma handle_transport (hs : s.life.started = true) (event : TransportEvent) :
    s.handle (.transport event) =
      let told := (s.noticeOf event).elim (s.struck event) (s.struck event).dispatch
      if event = .connect then told.handIfOpen .ping .sync else told := by
  cases event with
  | connect =>
      rw [handle, greet, if_pos rfl]
      refine congrArg (handIfOpen · .ping .sync) ?_
      rcases Nat.eq_zero_or_pos s.life.retry.attempts with hzero | hpos
      · simp [noticeOf, struck, recordActivity, hzero]
      · simp [noticeOf, struck, recordActivity, hpos]
  | disconnect =>
      rw [handle, lose_of_started hs, noticeOf]
      split <;> rfl
  | error => rfl
  | message => rfl

/-- An entry that an event of the line leads to. -/
def Deed.isResponse : Deed → Bool
  | .lost _ | .called .. | .handed _ .sync => true
  | _ => false

/-- From one session to the other an event of the line was handled on a started channel, and no callback
took any action. -/
structure Attends (event : TransportEvent) (s t : Session) : Prop where
  now : t.now = s.now
  line : t.line = s.line
  running : t.running = s.running
  queue : t.queue = s.queue
  watchers : t.watchers = s.watchers
  started : t.life.started = s.life.started
  callbacks : t.life.callbacks = s.life.callbacks
  retry : t.life.retry = s.life.retry.hear s.now event
  heartbeat : t.life.heartbeat = s.life.heartbeat.hear s.now event
  history : ∃ new, t.history = new ++ s.history ∧ ∀ r ∈ new, r.deed.isResponse

namespace Attends

lemma note (h : Attends event s t) {d : Deed} (hd : d.isResponse) : Attends event s (t.note d) :=
  { h with
    history := by
      obtain ⟨new, hnew, hr⟩ := h.history
      exact ⟨{ time := t.now, deed := d } :: new, by rw [note_history, hnew, List.cons_append],
        by simpa using ⟨hd, hr⟩⟩ }

lemma dispatch (h : Attends event s t) (hidle : t.Idles notice) :
    Attends event s (t.dispatch notice) := by
  rcases dispatch_of_idles hidle with heq | ⟨c, heq⟩
  · exact heq.symm ▸ h
  · exact heq.symm ▸ h.note rfl

lemma handIfOpen (h : Attends event s t) (f : Frame) : Attends event s (t.handIfOpen f .sync) := by
  rw [Session.handIfOpen]
  split
  · exact h.note rfl
  · exact h

end Attends

/-- What an event of the line does to a started channel if the callback that it leads to is idle. -/
lemma attends (event : TransportEvent) (hs : s.life.started = true)
    (hidle : ∀ notice, s.noticeOf event = some notice → s.Idles notice) :
    Attends event s (s.handle (.transport event)) := by
  have hstruck : Attends event s (s.struck event) := by
    cases event with
    | disconnect =>
        exact ⟨rfl, rfl, rfl, rfl, rfl, rfl, rfl, rfl, rfl,
          [{ time := s.now, deed := .lost s.lossNoted.life.retry.attempts }], rfl, by
            simp [Deed.isResponse]⟩
    | connect | error | message =>
        exact ⟨rfl, rfl, rfl, rfl, rfl, rfl, rfl, rfl, rfl, [], rfl, by simp⟩
  have htold : Attends event s ((s.noticeOf event).elim (s.struck event) (s.struck event).dispatch) := by
    cases hnotice : s.noticeOf event with
    | none => exact hstruck
    | some notice =>
        have hidle' := hidle notice hnotice
        exact hstruck.dispatch (by rwa [Idles, hstruck.callbacks])
  rw [handle_transport hs]
  dsimp only
  split
  · exact htold.handIfOpen _
  · exact htold

/-- If all was calm while the event was handled, then the callback that it leads to is idle. -/
lemma Calm.idles_of_noticeOf (hs : s.life.started = true)
    (h : Calm s (s.handle (.transport event))) (hnotice : s.noticeOf event = some notice) :
    s.Idles notice := by
  have hstruck : s.history <:+ (s.struck event).history := by
    cases event with
    | disconnect => exact List.suffix_cons ..
    | connect | error | message => exact List.suffix_rfl
  have hcallbacks : (s.struck event).life.callbacks = s.life.callbacks := by
    cases event <;> rfl
  have htold : (s.struck event).history <:+ ((s.struck event).dispatch notice).history := by
    have hex : Exchange (fun _ => True) (s.struck event) ((s.struck event).dispatch notice) :=
      dispatch_exchange _ fun _ _ _ => trivial
    obtain ⟨new, hnew, -⟩ := hex.flow.entries
    exact ⟨new, hnew.symm⟩
  have hhandled : ((s.struck event).dispatch notice).history <:+
      (s.handle (.transport event)).history := by
    rw [handle_transport hs, hnotice]
    dsimp only [Option.elim_some]
    split
    · exact (handIfOpen_traffic _ _ _).suffix
    · exact List.suffix_rfl
  have hcalm := ((h.split hstruck (htold.trans hhandled)).2.split htold hhandled).1
  have hidle := hcalm.idles
  rwa [Idles, hcallbacks] at hidle

/-! ### The watchers -/

@[simp] lemma wake_watchers (s : Session) (w : Worker) : (s.wake w).watchers = s.watchers := by
  rw [wake]; split <;> rfl

@[simp] lemma post_watchers (s : Session) (x : Signal) : (s.post x).watchers = s.watchers := by
  rw [post]; split <;> simp [note]

@[simp] lemma hear_watchers (s : Session) (es : List TransportEvent) :
    (s.hear es).watchers = s.watchers := by
  induction es generalizing s with
  | nil => rfl
  | cons e es ih => rw [hear_cons, ih, post_watchers]

/-! ### The clock -/

section Pass

variable (s : Session) (duration : Time)

@[simp] lemma pass_now : (s.pass duration).now = s.now + duration := by simp [pass]

@[simp] lemma pass_line : (s.pass duration).line = s.line := by simp [pass]

@[simp] lemma pass_life : (s.pass duration).life = s.life := by simp [pass]

@[simp] lemma pass_running : (s.pass duration).running = s.running := by simp [pass]

@[simp] lemma pass_queue : (s.pass duration).queue = s.queue := by simp [pass]

@[simp] lemma pass_watchers : (s.pass duration).watchers = s.watchers := by simp [pass]

@[simp] lemma pass_history : (s.pass duration).history = s.history := by simp [pass]

end Pass

@[simp] lemma dispatch_now (s : Session) (notice : Notice) : (s.dispatch notice).now = s.now := by
  cases hc : s.life.callbacks.receiver notice with
  | none => rw [dispatch_of_none hc]
  | some c =>
      obtain ⟨t, did, ht, heq⟩ := dispatch_traffic hc
      rw [heq, note_now, ht.now]

@[simp] lemma openLine_now (s : Session) : s.openLine.now = s.now := by simp [openLine]

@[simp] lemma closeLine_now (s : Session) : s.closeLine.now = s.now := by simp [closeLine]

@[simp] lemma lose_now (s : Session) : s.lose.now = s.now := by
  rw [lose]; split
  · rfl
  · dsimp only; split <;> simp

@[simp] lemma force_now (s : Session) : s.force.now = s.now := by
  rw [force]; split
  · rfl
  · dsimp only; split <;> simp

@[simp] lemma observe_now (s : Session) (status : NetworkStatus) : (s.observe status).now = s.now := by
  rw [observe]; dsimp only; split <;> simp [accelerate]

@[simp] lemma stop_now (s : Session) : s.stop.now = s.now := by
  rw [stop_eq]; dsimp only; split <;> rfl

@[simp] lemma handle_now (s : Session) (x : Signal) : (s.handle x).now = s.now := by
  match x with
  | .start => rw [handle, start]; split <;> simp
  | .transport .connect => rw [handle, greet]; dsimp only; split <;> simp [recordActivity]
  | .transport (.message data) => simp [handle, receive, recordActivity]
  | .transport .disconnect | .forceReconnect | .network _ | .shutdown => simp [handle]
  | .transport (.error _) | .register .. | .inspect => rfl

/-- The driver's deeds take no time. -/
lemma drive?_now (h : s.drive? = some t) : t.now = s.now := by
  obtain ⟨-, ⟨x, rest, -, rfl⟩ | ⟨-, hdue, rfl⟩ | ⟨-, -, -, rfl⟩⟩ := drive?_cases h
  · simp
  · simp [retry_of_isDue hdue]
  · rw [beat]; dsimp only
    split
    · simp
    · split <;> simp

/-! ### Coming to rest -/

/-- Nothing is due to a started channel but the signals in its queue. -/
structure Undue (s : Session) : Prop where
  running : s.running
  started : s.life.started = true
  retry : s.life.retry.isDue s.now = false
  heartbeat : s.life.heartbeat.isDue s.now = false

/-- A settled channel has nothing in its queue, and neither timer is due. -/
lemma rest_of_isSettled (h : s.isSettled) (hrunning : s.running) :
    s.queue = [] ∧ s.life.retry.isDue s.now = false ∧ s.life.heartbeat.isDue s.now = false := by
  have hnone : s.drive? = none := by simp_all [isSettled]
  have hqueue : s.queue = [] := by
    cases hqueue : s.queue with
    | nil => rfl
    | cons x rest => simp [drive?_of_queue hrunning hqueue] at hnone
  simp only [drive?, hrunning, hqueue, Bool.not_true, Bool.false_eq_true, if_false] at hnone
  grind

/-- Nothing is due to a settled channel that was started. -/
lemma Undue.of_isSettled (h : s.isSettled) (hrunning : s.running) (hstarted : s.life.started = true) :
    Undue s ∧ s.queue = [] := by
  obtain ⟨hqueue, hretry, hheartbeat⟩ := rest_of_isSettled h hrunning
  exact ⟨⟨hrunning, hstarted, hretry, hheartbeat⟩, hqueue⟩

lemma Undue.hear (h : Undue s) (events : List TransportEvent) : Undue (s.hear events) where
  running := by simpa using h.running
  started := by simpa using h.started
  retry := by simpa using h.retry
  heartbeat := by simpa using h.heartbeat

lemma Undue.drive?_eq_none (h : Undue s) (hqueue : s.queue = []) : s.drive? = none := by
  simp [drive?, hqueue, h.retry, h.heartbeat]

/-- No event makes anything due at once. -/
lemma Undue.attends (h : Undue s) (ht : Attends event s t) : Undue t where
  running := ht.running ▸ h.running
  started := ht.started.trans h.started
  retry := by rw [ht.retry, ht.now, Retry.isDue_hear h.retry]
  heartbeat := by rw [ht.heartbeat, ht.now, Heartbeat.isDue_hear h.heartbeat]

/-- Taking a signal makes nothing due. -/
lemma Undue.pop (h : Undue s) (rest : List Signal) (x : Signal) :
    Undue ({ s with queue := rest }.note (.took x)) :=
  ⟨h.running, h.started, h.retry, h.heartbeat⟩

/-- The driver works until it has nothing left to do, with nothing done from outside and no time
passing. -/
def ComesToRest (s t : Session) : Prop :=
  Relation.ReflTransGen (fun a b => a.drive? = some b) s t ∧ t.drive? = none

lemma ComesToRest.drive (h : ComesToRest t u) (ht : s.drive? = some t) : ComesToRest s u :=
  ⟨.head ht h.1, h.2⟩

/-- There is at most one way to come to rest. -/
lemma ComesToRest.unique (ht : ComesToRest s t) (hu : ComesToRest s u) : t = u := by
  have hright : Relator.RightUnique fun a b : Session => a.drive? = some b :=
    fun a b c hb hc => Option.some.inj (hb.symm.trans hc)
  rcases ht.1.total_of_right_unique hright hu.1 with htu | hut
  · rcases htu.cases_head with heq | ⟨c, hc, -⟩
    · exact heq
    · simp [ht.2] at hc
  · rcases hut.cases_head with heq | ⟨c, hc, -⟩
    · exact heq.symm
    · simp [hu.2] at hc

/-- Events of the line that wait in the queue are handled one after another. -/
lemma exists_rest (h : Undue s) (hreticent : s.Reticent) {events : List TransportEvent}
    (hqueue : s.queue = events.map .transport) :
    ∃ t, ComesToRest s t ∧ t.now = s.now ∧ t.line = s.line ∧
      t.life.retry = events.foldl (·.hear s.now ·) s.life.retry := by
  induction events generalizing s with
  | nil => exact ⟨s, ⟨.refl, h.drive?_eq_none hqueue⟩, rfl, rfl, rfl⟩
  | cons event events ih =>
      have hdrive := drive?_of_queue h.running hqueue
      have htook := h.pop (events.map .transport) (.transport event)
      have hhandled := Session.attends event htook.started
        fun notice _ => hreticent.idles notice
      obtain ⟨t, hrest, hnow, hline, hretry⟩ :=
        ih (htook.attends hhandled) (by rwa [Reticent, hhandled.callbacks]) hhandled.queue
      refine ⟨t, hrest.drive hdrive, hnow.trans hhandled.now, hline.trans hhandled.line, ?_⟩
      rw [hretry, hhandled.retry, hhandled.now, List.foldl_cons]
      rfl

/-! ### Smooth runs -/

/-- Nothing is done from outside, and the clock stands still while there is something to do and stops at
every deadline. -/
inductive Smooth (s : Session) : Session → Prop
  | refl : Smooth s s
  | drive {t u : Session} (h : Smooth s t) (hu : t.drive? = some u) : Smooth s u
  | watch {t : Session} (h : Smooth s t) (id : Nat) : Smooth s (t.watch id)
  | pass {t : Session} (h : Smooth s t) (duration : Time) (hsettled : t.isSettled)
      (hstops : ∀ due ∈ t.nextDeadline?, t.now + duration ≤ due) : Smooth s (t.pass duration)

lemma Smooth.trans (h : Smooth s t) (h' : Smooth t u) : Smooth s u := by
  induction h' with
  | refl => exact h
  | drive _ hu ih => exact ih.drive hu
  | watch _ id ih => exact ih.watch id
  | pass _ duration hsettled hstops ih => exact ih.pass duration hsettled hstops

/-- The driver's deeds are entered after what was entered before. -/
lemma drive?_suffix (h : s.drive? = some t) : s.history <:+ t.history := by
  obtain ⟨-, ⟨rest, -, rfl⟩ | ⟨x, rest, -, -, hex⟩ | ⟨-, hex⟩⟩ := drive?_exchange h
  · rw [stop_history, note_history]
    exact (List.suffix_cons ..).trans ((List.suffix_cons ..).trans (List.suffix_append ..))
  · obtain ⟨new, hnew, -⟩ := hex.flow.entries
    exact (List.suffix_cons ..).trans ⟨new, hnew.symm⟩
  · obtain ⟨new, hnew, -⟩ := hex.flow.entries
    exact ⟨new, hnew.symm⟩

lemma Smooth.suffix (h : Smooth s t) : s.history <:+ t.history := by
  induction h with
  | refl => exact List.suffix_rfl
  | drive _ hu ih => exact ih.trans (drive?_suffix hu)
  | @watch t _ id ih =>
      exact ih.trans (watch_touches (p := fun _ => True) t id).traffic.suffix
  | pass _ _ _ _ ih => simpa using ih

/-- The move may be made in a smooth run. -/
def movesSmoothly (s : Session) : Move → Bool
  | .act _ => false
  | .drive | .watch _ => true
  | .pass duration => s.isSettled && decide (∀ due ∈ s.nextDeadline?, s.now + duration ≤ due)

lemma Smooth.move (h : Smooth s t) {m : Move} (hm : t.movesSmoothly m) : Smooth s (t.move m) := by
  cases m with
  | act => simp [movesSmoothly] at hm
  | drive =>
      rw [Session.move]
      cases hu : t.drive? with
      | none => exact h
      | some u => exact h.drive hu
  | watch id => exact h.watch id
  | pass duration =>
      rw [movesSmoothly, Bool.and_eq_true, decide_eq_true_iff] at hm
      exact h.pass duration hm.1 hm.2

/-- The moves may be made in a smooth run, one after another. -/
def runsSmoothly (s : Session) : List Move → Bool
  | [] => true
  | m :: moves => s.movesSmoothly m && (s.move m).runsSmoothly moves

lemma Smooth.run (h : Smooth s t) {moves : List Move} (hmoves : t.runsSmoothly moves) :
    Smooth s (t.run moves) := by
  induction moves generalizing t with
  | nil => exact h
  | cons m moves ih =>
      rw [runsSmoothly, Bool.and_eq_true] at hmoves
      exact ih (h.move hmoves.1) hmoves.2

/-- A watcher without news has nothing to do in its turn. -/
lemma watch_of_idle (h : s.watchers.all (·.isIdle)) (id : Nat) : s.watch id = s := by
  rw [watch]
  split
  · rfl
  next w hw =>
    have hidle : w.isIdle := List.all_eq_true.mp h w (List.mem_of_getElem? hw)
    have hturn : w.turn s.running = (none, w) := by
      obtain ⟨unseen, hasSender, running⟩ := w
      cases running <;> cases unseen <;> simp_all [Watcher.isIdle, Watcher.turn]
    have hsame : s.watchers.set id w = s.watchers := by
      obtain ⟨hlt, heq⟩ := List.getElem?_eq_some_iff.mp hw
      rw [← heq, List.set_getElem_self]
    simp [hturn, hsame]

end Session

end ResilientChannel
