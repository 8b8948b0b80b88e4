import ResilientChannel.Proofs.Session.Messages
import ResilientChannel.Proofs.Session.Shutdown

/-!
Watchers lose no final status.

* **The events of a run.** `Attended id s moves es` says that the events `es` are what the moves do to a
  watcher: the actions that the application takes, in callbacks and from outside, and the watcher's turns.
  `enqueued` says what was put on the queue in these turns.
* **One move.** It makes of the watcher what its events say, and puts on the queue what the watcher forwards
  (`exists_attended_move`); so does a run (`exists_attended`).
* **The channel's view.** The last status that the channel knows is the last that it took from its queue
  (`Informed`).
* `final_status_forwarded`: what is enqueued of the values published, when a watcher ends, and what the
  channel knows in the end.
-/

namespace ResilientChannel.Session

open Watcher

variable {s t u : Session} {id : Nat} {m : Move} {moves : List Move} {es : List Watcher.Event}

/-! ### The events of a run -/

/-- The status that a signal reports. -/
def Signal.network? : Signal → Option NetworkStatus
  | .network status => some status
  | _ => none

/-- The statuses reported by signals, in order. -/
def networks (xs : List Signal) : List NetworkStatus := xs.filterMap Signal.network?

/-- The turn that a move gives to a watcher. -/
def turned (s : Session) (id : Nat) : Move → List Watcher.Event
  | .watch other => if other = id then [.turned s.running] else []
  | _ => []

/-- What the moves of a run do to a watcher. -/
inductive Attended (id : Nat) : Session → List Move → List Watcher.Event → Prop
  | nil {s : Session} : Attended id s [] []
  | cons {s : Session} {m : Move} {moves : List Move} {script : List Action}
      {es : List Watcher.Event} (does : Does s m script) (rest : Attended id (s.move m) moves es) :
      Attended id s (m :: moves) (s.turned id m ++ Action.eventsAll id script s.desk ++ es)

/-- The statuses that a move puts on the queue by giving a turn to a watcher. -/
def enqueues (s : Session) (id : Nat) : Move → List NetworkStatus
  | .watch other =>
    if other = id then
      networks ((postings (s.watch id).history).drop (postings s.history).length)
    else []
  | _ => []

/-- The statuses that a watcher puts on the queue in the moves of a run. -/
def enqueued (id : Nat) : Session → List Move → List NetworkStatus
  | _, [] => []
  | s, m :: moves => s.enqueues id m ++ enqueued id (s.move m) moves

lemma enqueued_append (id : Nat) (s : Session) (moves later : List Move) :
    enqueued id s (moves ++ later) = enqueued id s moves ++ enqueued id (s.run moves) later := by
  induction moves generalizing s with
  | nil => rfl
  | cons m moves ih =>
      rw [List.cons_append, enqueued, ih, enqueued, List.append_assoc]
      rfl

/-! ### One move -/

lemma governed_desk : Governed desk Action.tendAll where
  nil k := by rw [Action.tendAll]
  script _ actions := desk_performAll _ actions
  strokes h := h.spared Stroke.desk
  call _ _ _ _ _ := rfl
  take _ _ _ := rfl
  stop s := stop_desk s
  pass _ _ := wake_desk _ _

/-- Whatever the move but for the turn of a watcher, the desk is what the application's actions make of it. -/
lemma exists_does_desk (s : Session) {m : Move} (hm : ∀ id, m ≠ .watch id) :
    ∃ script, Does s m script ∧ (s.move m).desk = Action.tendAll script s.desk := by
  cases hrunning : s.running with
  | true => exact governed_desk.exists_does hrunning hm
  | false =>
      cases m with
      | act a => exact ⟨[a], .act a, by simp [move, Action.tendAll, desk_perform]⟩
      | drive =>
          have hsame : s.move .drive = s := by simp [move, drive?, hrunning]
          exact governed_desk.nothing (by simp) ⟨[], by rw [hsame, List.nil_append], by simp⟩
            (by rw [hsame])
      | watch id => exact absurd rfl (hm id)
      | pass duration =>
          exact governed_desk.nothing (by simp) ⟨[], by simp [move, pass], by simp⟩ (wake_desk _ _)

mutual

/-- The application gives no turns. -/
lemma Action.events_not_isTurn (id : Nat) (k : Desk) :
    ∀ a : Action, ∀ e ∈ a.events id k, e.isTurn = false
  | .watch => by
      simp only [Action.events, Desk.released]
      split <;> [simp; (split <;> simp [Event.isTurn])]
  | .endWatch => by
      simp only [Action.events, Desk.released]
      split <;> simp [Event.isTurn]
  | .publish statuses => by
      simp only [Action.events, Desk.published]
      split <;> simp [Event.isTurn]
  | .batch actions => by
      simp only [Action.events]
      exact Action.eventsAll_not_isTurn id k actions
  | .connect | .forceReconnect | .network _ | .send _ | .sync | .isOpen | .url | .shutdown | .inspect
  | .on .. | .onMessage .. | .onReconnect .. | .onDisconnect .. | .clone | .drop | .lineOpens | .lineDrops
  | .lineMoves _ | .lineFires _ | .lineReacts .. => by
      simp [Action.events]

lemma Action.eventsAll_not_isTurn (id : Nat) (k : Desk) :
    ∀ actions : List Action, ∀ e ∈ Action.eventsAll id actions k, e.isTurn = false
  | [] => by simp [Action.eventsAll]
  | a :: actions => by
      simp only [Action.eventsAll]
      intro e he
      rcases List.mem_append.mp he with he | he
      · exact Action.events_not_isTurn id k a e he
      · exact Action.eventsAll_not_isTurn id _ actions e he

end

/-- What the watcher forwards at its turn is put on the queue. -/
lemma networks_watch (s : Session) (id : Nat) :
    networks ((postings (s.watch id).history).drop (postings s.history).length) =
      ((s.desk.watcher id).forwards? (.turned s.running)).toList := by
  rw [watch, Desk.watcher, forwards?]
  cases hw : s.watchers[id]? with
  | none =>
      have hfresh : (({} : Watcher).turn s.running).1 = none := by cases s.running <;> rfl
      simp [desk, hw, hfresh, networks]
  | some w =>
      have hget : s.desk.watchers[id]?.getD {} = w := by rw [show s.desk.watchers[id]? = some w from hw]; rfl
      rw [hget]
      dsimp only
      cases hnews : (w.turn s.running).1 with
      | none => simp [networks]
      | some status =>
          have hrunning : s.running := by
            cases hrunning : s.running with
            | true => rfl
            | false => rw [hrunning, turn_undeliverable] at hnews; cases hnews
          have hset : { s with watchers := s.watchers.set id (w.turn s.running).2 }.running := hrunning
          dsimp only
          rw [postings_post hset]
          simp [networks, Signal.network?]

/-- **One move.** What it does to a watcher makes of it what it becomes, and what the watcher forwards is put
on the queue. -/
lemma exists_attended_move (hs : s.desk.Sound) (id : Nat) (m : Move) :
    ∃ script, Does s m script ∧
      Desk.Leads id s.desk (s.turned id m ++ Action.eventsAll id script s.desk) (s.move m).desk ∧
      s.enqueues id m =
        forwarded (s.desk.watcher id) (s.turned id m ++ Action.eventsAll id script s.desk) ∧
      (s.running → .turned false ∉ s.turned id m ++ Action.eventsAll id script s.desk) := by
  have hwatch : (∃ other, m = .watch other) ∨ ∀ other, m ≠ .watch other := by
    cases m with
    | watch other => exact .inl ⟨other, rfl⟩
    | _ => exact .inr (by simp)
  -- A turn is the watcher's own doing; in any other move only the application's actions reach it.
  rcases hwatch with ⟨other, rfl⟩ | hm
  · obtain ⟨new, hnew, hr⟩ :=
      (Touches.traffic (p := fun _ => True) (watch_touches s other)).uncalled
    refine ⟨[], .nothing (by simp) hnew hr, ?_⟩
    simp only [Action.eventsAll, List.append_nil]
    refine ⟨?_, ?_, fun hrunning => ?_⟩
    · have hturn : Desk.Leads id s.desk _ (s.desk.turn other s.running) :=
        Desk.leads_turn hs other s.running
      rw [move, desk_watch]
      exact hturn
    · rw [enqueues, turned]
      split
      next hid =>
        rw [networks_watch, forwarded, gather_cons, gather_nil, List.append_nil]
      next => rfl
    · rw [turned]
      split <;> simp [hrunning]
  · obtain ⟨script, hdoes, hdesk⟩ := exists_does_desk s hm
    have hnone : s.turned id m = [] ∧ s.enqueues id m = [] := by
      cases m with
      | watch other => exact absurd rfl (hm other)
      | _ => exact ⟨rfl, rfl⟩
    have hturns := Action.eventsAll_not_isTurn id s.desk script
    refine ⟨script, hdoes, ?_⟩
    rw [hnone.1, hnone.2, List.nil_append, forwarded_of_not_isTurn hturns, hdesk]
    exact ⟨leads_tendAll hs script, rfl, fun _ hmem => by cases hturns _ hmem⟩

/-- A driver that runs has run all the time. -/
lemma running_of_run (moves : List Move) (h : (s.run moves).running) : s.running := by
  cases hrunning : s.running with
  | true => rfl
  | false => rw [(aftermath_run hrunning moves).running] at h; cases h

/-- **A run.** Its events make of a watcher what it becomes, and what the watcher forwards is put on the queue;
while the driver runs, every signal can be delivered. -/
lemma exists_attended (hs : s.desk.Sound) (id : Nat) (moves : List Move) :
    ∃ es, Attended id s moves es ∧ Desk.Leads id s.desk es (s.run moves).desk ∧
      enqueued id s moves = forwarded (s.desk.watcher id) es ∧
      ((s.run moves).running → .turned false ∉ es) := by
  induction moves generalizing s with
  | nil => exact ⟨[], .nil, .refl hs, rfl, fun _ => List.not_mem_nil⟩
  | cons m moves ih =>
      obtain ⟨script, hdoes, hleads, henqueues, hdelivers⟩ := exists_attended_move hs id m
      obtain ⟨es, hattended, hrest, hqueued, hrun⟩ := ih hleads.sound
      refine ⟨_, .cons hdoes hattended, hleads.trans hrest, ?_, fun hrunning hmem => ?_⟩
      · rw [enqueued, henqueues, hqueued, hleads.watcher]
        exact (forwarded_append _ _ _).symm
      · rcases List.mem_append.mp hmem with hmem | hmem
        · exact hdelivers (running_of_run (m :: moves) hrunning) hmem
        · exact hrun hrunning hmem

/-- **When a watcher ends.** At its turn, when its sender is gone or its news cannot be delivered. -/
lemma watcher_ended_move_iff (hs : s.desk.Sound) (id : Nat) (m : Move) :
    ((s.move m).desk.watcher id).running = false ↔
      (s.desk.watcher id).running = false ∨
        m = .watch id ∧ ((s.desk.watcher id).hasSender = false ∨
          (s.desk.watcher id).unseen.isSome ∧ s.running = false) := by
  obtain ⟨script, -, hleads, -, -⟩ := exists_attended_move hs id m
  have hturns := Action.eventsAll_not_isTurn id s.desk script
  rw [hleads.watcher, afterAll_append, afterAll_running_of_not_isTurn hturns]
  by_cases hm : m = .watch id
  · subst hm
    rw [turned, if_pos rfl, afterAll_cons, afterAll_nil, after_ended_iff]
    simp
  · have hnone : s.turned id m = [] := by
      cases m with
      | watch other => exact if_neg fun heq => hm (by rw [heq])
      | _ => rfl
    simp [hnone, hm]

/-! ### The channel's view -/

lemma observe_presence (s : Session) (status : NetworkStatus) :
    (s.observe status).life.presence.last = some status := by
  have hlast : (s.life.presence.observe status s.life.retry.inBackoff
      (s.life.heartbeat.isLate s.now)).2.last = some status := rfl
  have hforce (s : Session) : s.force.life.presence = s.life.presence :=
    (force_exchange s).spared fun step => step.presence nofun
  rw [observe]
  generalize s.life.presence.observe status _ _ = decided at hlast ⊢
  obtain ⟨decision, presence⟩ := decided
  cases decision with
  | ignore => exact hlast
  | forceReconnect cut => cases cut <;> simpa [hforce, accelerate] using hlast

/-- A status that is handled is the last one known; nothing else tells of the network. -/
lemma handle_presence (s : Session) (rest : List Signal) (x : Signal) :
    (({ s with queue := rest }.note (.took x)).handle x).life.presence.last =
      x.network?.or s.life.presence.last := by
  have hkept (hshutdown : x.isShutdown = false) (hnetwork : ∀ status, x ≠ .network status) :
      (({ s with queue := rest }.note (.took x)).handle x).life.presence = s.life.presence :=
    (handle_exchange s rest hshutdown).spared fun step =>
      step.presence fun status hd => hnetwork status hd.eq_of_took.symm
  cases x with
  | network status => exact observe_presence _ status
  | shutdown => simp [handle, Signal.network?]
  | start | transport | register | forceReconnect | inspect =>
      rw [hkept rfl (by simp)]
      rfl

/-- The last status known is the last one taken from the queue. -/
def Informed (s : Session) : Prop := s.life.presence.last = (networks (taken s.history)).getLast?

lemma Informed.congr (h : Informed s) (hpresence : t.life.presence = s.life.presence)
    (htaken : taken t.history = taken s.history) : Informed t := by
  rw [Informed, hpresence, htaken]
  exact h

lemma networks_concat (xs : List Signal) (x : Signal) :
    (networks (xs ++ [x])).getLast? = x.network?.or (networks xs).getLast? := by
  cases hx : x.network? <;> simp [networks, hx]

lemma informed_invariant : Invariant (fun _ => True) Informed where
  touch h ht := h.congr (by rw [ht.traffic.life])
    (ht.flow.taken_eq fun _ => Deed.took?_of_isErrand)
  drive {s t} h ht := by
    obtain ⟨-, ⟨x, rest, -, rfl⟩ | ⟨-, hdue, rfl⟩ | ⟨-, -, -, rfl⟩⟩ := drive?_cases ht
    · rw [Informed, handle_presence, taken_handle, networks_concat, ← h]
    · have hretry := retry_exchange hdue
      exact h.congr (hretry.spared fun step => step.presence nofun)
        (hretry.flow.taken_eq fun _ => Deed.took?_of_isOngoing)
    · have hbeat := beat_exchange s
      exact h.congr (hbeat.spared fun step => step.presence nofun)
        (hbeat.flow.taken_eq fun _ => Deed.took?_of_isOngoing)
  pass _ h := h

lemma informed_run (now : Time) (line : Line) (moves : List Move) :
    Informed ((fresh now line).run moves) :=
  informed_invariant.run (s := fresh now line) rfl fun m _ => m.within_of_forall fun _ => trivial

/-- A running driver that has come to rest has taken everything from its queue. -/
lemma taken_of_isSettled (h : InTurn s) (hrunning : s.running) (hsettled : s.isSettled) :
    taken s.history = postings s.history := by
  rw [isSettled, Bool.and_eq_true, Option.isNone_iff_eq_none] at hsettled
  obtain ⟨waiting, hsplit, hwaiting⟩ := h
  cases hqueue : s.queue with
  | nil => rw [hsplit, ← hwaiting hrunning, hqueue, List.append_nil]
  | cons x rest => rw [drive?_of_queue hrunning hqueue] at hsettled; cases hsettled.1

/-! ### The final status -/

/-- What is published last is what the watcher forwards at its next turn. -/
lemma enqueued_burst (hs : s.desk.Sound) (hrunning : s.running) (hkept : s.kept = some id)
    (hwatcher : (s.desk.watcher id).running) (statuses : List NetworkStatus) (status : NetworkStatus) :
    enqueued id s [.act (.publish (statuses ++ [status])), .watch id] = [status] := by
  have hpublished : (s.move (.act (.publish (statuses ++ [status])))).desk.watcher id =
      (s.desk.watcher id).publish status := by
    have hleads : Desk.Leads id s.desk _ _ := leads_tend hs (.publish (statuses ++ [status]))
    rw [move, desk_perform, hleads.watcher, Action.events, Desk.published, if_pos ⟨hkept, hwatcher⟩,
      afterAll_published]
  have hstill : (s.move (.act (.publish (statuses ++ [status])))).running = true := by
    rw [move, (perform_traffic s _).running, hrunning]
  have hact : s.enqueues id (.act (.publish (statuses ++ [status]))) = [] := rfl
  have hwatch : (s.move (.act (.publish (statuses ++ [status])))).enqueues id (.watch id) = [status] := by
    rw [enqueues, if_pos rfl, networks_watch, hpublished, hstill, forwards?_publish hwatcher]
    rfl
  rw [enqueued, enqueued, enqueued, hact, hwatch]
  rfl

/-- **No final status is lost.** In every run, over any line and with whatever the application does, for every
watcher the statuses that it puts on the queue are some of those published to it, in order, and

* whenever it is idle, be it that it waits or that it has ended, the last one that it put on the queue is the
  last one published, or this one could not be delivered because the driver had ended, and so did the watcher;
* its sender is there as long as the application keeps it, and it ends at its own turn, when its sender is gone
  or its news cannot be delivered, and at no other moment;
* of any number of statuses published together, equal to earlier ones or not, it puts the last one on the
  queue at its next turn.

The last status that the channel knows is the last that its driver took from the queue, and once nothing is
left to do it is the last that was put on the queue, whoever did so. -/
theorem final_status_forwarded (now : Time) (line : Line) (moves : List Move) :
    let start := fresh now line
    let s := start.run moves
    (∀ id w, s.watchers[id]? = some w →
      ∃ es, Attended id start moves es ∧
        (enqueued id start moves).Sublist (Watcher.published es) ∧
        (w.isIdle → (enqueued id start moves).getLast? = (Watcher.published es).getLast? ∨
          ∃ status, undelivered {} es = [status] ∧ (Watcher.published es).getLast? = some status ∧
            w.running = false ∧ s.running = false) ∧
        (w.hasSender = true ↔ s.kept = some id) ∧
        (∀ m, ((s.move m).desk.watcher id).running = false ↔
          w.running = false ∨
            m = .watch id ∧ (w.hasSender = false ∨ w.unseen.isSome ∧ s.running = false)) ∧
        (∀ statuses status, s.running → s.kept = some id → w.running →
          enqueued id start (moves ++ [.act (.publish (statuses ++ [status])), .watch id]) =
            enqueued id start moves ++ [status])) ∧
      s.life.presence.last = (networks (taken s.history)).getLast? ∧
      (s.running → s.isSettled →
        s.life.presence.last = (networks (postings s.history)).getLast?) := by
  intro start s
  have hinformed : Informed s := informed_run now line moves
  have hfresh : start.desk.Sound := Desk.sound_empty
  refine ⟨fun id w hw => ?_, hinformed, fun hrunning hsettled => ?_⟩
  · obtain ⟨es, hattended, hleads, hqueued, hdelivers⟩ := exists_attended hfresh id moves
    have hwatcher : s.desk.watcher id = w := by
      rw [Desk.watcher, show s.desk.watchers[id]? = some w from hw]; rfl
    have hbegin : start.desk.watcher id = {} := rfl
    have hquiet : Quiet {} := fun _ => rfl
    have hproper := hleads.proper
    have hafter := hleads.watcher
    rw [hbegin] at hproper hafter hqueued
    have hw' : w = ({} : Watcher).afterAll es := hwatcher.symm.trans hafter
    have hthins := thins_published hquiet hproper
    rw [← hw', ← hqueued] at hthins
    refine ⟨es, hattended, ?_, fun hidle => ?_, ?_, fun m => ?_, ?_⟩
    · exact (List.sublist_append_left _ _).trans hthins.sublist
    · rcases undelivered_cases hquiet hproper with hnone | ⟨status, hsome, hended, hlast⟩
      · have hunseen := (hw' ▸ hquiet.afterAll hproper : w.Quiet).unseen_of_isIdle hidle
        rw [hnone, hunseen] at hthins
        exact .inl (by simpa using hthins.last)
      · refine .inr ⟨status, hsome, hlast, hw' ▸ hended, Bool.eq_false_iff.mpr fun hrunning => ?_⟩
        rw [undelivered_of_deliverable (hdelivers hrunning)] at hsome
        cases hsome
    · exact hleads.sound.sender hw
    · rw [← hwatcher]
      exact watcher_ended_move_iff hleads.sound id m
    · intro statuses status hrunning hkept hrun
      rw [enqueued_append, enqueued_burst hleads.sound hrunning hkept (hwatcher ▸ hrun)]
  · have horder := inTurn_run now line moves
    rw [hinformed, taken_of_isSettled horder hrunning hsettled]

/-- The sender is dropped right after a burst. -/
example : enqueued 0 (fresh 0 {})
    [.act .watch, .act (.publish [.offline, .online, .online]), .act .endWatch, .watch 0] = [.online] := by
  decide +kernel

end ResilientChannel.Session
