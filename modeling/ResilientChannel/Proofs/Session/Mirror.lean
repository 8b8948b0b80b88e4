import ResilientChannel.Proofs.Session.Undisturbed

/-!
A session and what is left of it without the observations.

* **What observes.** An error that the line fires, a snapshot that is asked for and a callback that is
  registered are signals like any other: they wait in the queue and go before the timers. `observes` tells
  them from the signals of the lifecycle, and likewise for deeds.
* **The essence.** `Action.essence` is what is left of an action without those that only observe.
* **The mirror.** A session without callbacks over a line that fires no errors mirrors another one, in which
  no callback takes any action, if they agree in everything but the observations (`Mirrors`). Each
  operation of the driver keeps this, and an action is mirrored by its essence (`Mirrors.perform`).
-/

namespace ResilientChannel

/-! ### What observes -/

/-- The event reports a failure. -/
def TransportEvent.isError : TransportEvent → Bool
  | .error _ => true
  | _ => false

/-- The reaction without the errors that it fires. -/
def Reaction.hush (r : Reaction) : Reaction := { r with fires := r.fires.filter (!·.isError) }

namespace Line

/-- The line without the errors that its reactions fire. -/
def hush (l : Line) : Line :=
  { l with onConnect := l.onConnect.hush, onDisconnect := l.onDisconnect.hush }

lemma react_hush (l : Line) (r : Reaction) :
    l.hush.react r.hush = ((l.react r).1.hush, (l.react r).2.filter (!·.isError)) := by
  cases hstill : r.liveOnly && !l.state.isLive <;> simp [react, Reaction.hush, hush, hstill]

lemma connect_hush (l : Line) :
    l.hush.connect = (l.connect.1.hush, l.connect.2.filter (!·.isError)) := l.react_hush l.onConnect

lemma disconnect_hush (l : Line) :
    l.hush.disconnect = (l.disconnect.1.hush, l.disconnect.2.filter (!·.isError)) :=
  l.react_hush l.onDisconnect

end Line

namespace Session

variable {s t u : Session}

/-- The signal only observes: an error, a registration or a request for a snapshot. -/
def Signal.observes : Signal → Bool
  | .transport (.error _) | .register .. | .inspect => true
  | _ => false

/-- The deed is part of an observation: its signal is put on the queue or taken, a callback is called, or a
snapshot is answered. -/
def Deed.observes : Deed → Bool
  | .posted x | .took x => x.observes
  | .called .. | .answered _ => true
  | _ => false

/-- The session without its callbacks, with a line that fires no errors, and without the observations in its
queue and in its history. -/
def hush (s : Session) : Session :=
  { s with
    line := s.line.hush
    life.callbacks := {}
    queue := s.queue.filter (!·.observes)
    agenda := []
    history := s.history.filter (!·.deed.observes) }

/-! ### The essence -/

mutual

/-- The actions that an action comes to, one after another, without those that only observe. -/
def Action.essence : Action → List Action
  | .lineFires (.error _) | .inspect | .on _ _ _ | .onMessage _ _ | .onReconnect _ _
  | .onDisconnect _ _ => []
  | .lineReacts toConnect toDisconnect =>
    [.lineReacts (toConnect.map Reaction.hush) (toDisconnect.map Reaction.hush)]
  | .batch actions => Action.essenceAll actions
  | a => [a]

/-- The essence of actions, one after another. -/
def Action.essenceAll : List Action → List Action
  | [] => []
  | a :: actions => a.essence ++ Action.essenceAll actions

end

mutual

/-- No callback that the action registers takes any action. -/
def Action.isDiscreet : Action → Bool
  | .on _ _ script | .onMessage _ script | .onReconnect _ script | .onDisconnect _ script =>
    script.isEmpty
  | .batch actions => Action.areDiscreet actions
  | _ => true

/-- No callback that the actions register takes any action. -/
def Action.areDiscreet : List Action → Bool
  | [] => true
  | a :: actions => a.isDiscreet && Action.areDiscreet actions

end

/-! ### The mirror -/

/-- No callback that the session holds or has queued takes any action. -/
structure Discreet (s : Session) : Prop where
  held : s.Reticent
  queued : ∀ kind c, .register kind c ∈ s.queue → c.script = []

/-- `t` agrees with `s` in everything but the observations, of which it has none, and no callback of `s`
takes any action. -/
structure Mirrors (t s : Session) : Prop extends Discreet s where
  hush : { t with agenda := [] } = s.hush

namespace Mirrors

section Fields

variable (h : Mirrors t s)

include h

lemma now : t.now = s.now := (congrArg Session.now h.hush :)

lemma line : t.line = s.line.hush := (congrArg Session.line h.hush :)

lemma running : t.running = s.running := (congrArg Session.running h.hush :)

lemma handles : t.handles = s.handles := (congrArg Session.handles h.hush :)

lemma watchers : t.watchers = s.watchers := (congrArg Session.watchers h.hush :)

lemma kept : t.kept = s.kept := (congrArg Session.kept h.hush :)

lemma queue : t.queue = s.queue.filter (!·.observes) := (congrArg Session.queue h.hush :)

lemma history : t.history = s.history.filter (!·.deed.observes) := (congrArg Session.history h.hush :)

lemma life : t.life = { s.life with callbacks := {} } := (congrArg Session.life h.hush :)

lemma state : t.line.state = s.line.state := by rw [h.line]; rfl

lemma started : t.life.started = s.life.started := by rw [h.life]

lemma retry : t.life.retry = s.life.retry := by rw [h.life]

lemma heartbeat : t.life.heartbeat = s.life.heartbeat := by rw [h.life]

lemma presence : t.life.presence = s.life.presence := by rw [h.life]

lemma callbacks : t.life.callbacks = {} := by rw [h.life]

end Fields

/-- The same is changed in both, and the observations have no part in it. -/
lemma update (h : Mirrors t s) (f : Session → Session)
    (hleft : { f t with agenda := [] } = f { t with agenda := [] }) (hright : (f s).hush = f s.hush)
    (hcallbacks : (f s).life.callbacks = s.life.callbacks) (hqueue : (f s).queue = s.queue) :
    Mirrors (f t) (f s) where
  held := by simpa only [Reticent, hcallbacks] using h.held
  queued := by simpa only [hqueue] using h.queued
  hush := by rw [hleft, h.hush, hright]

lemma note (h : Mirrors t s) {d : Deed} (hd : d.observes = false) : Mirrors (t.note d) (s.note d) := by
  refine h.update (·.note d) rfl ?_ rfl rfl
  simp [Session.hush, Session.note, hd]

/-- An entry that observes is not mirrored. -/
lemma glance (h : Mirrors t s) {d : Deed} (hd : d.observes) : Mirrors t (s.note d) where
  held := h.held
  queued := h.queued
  hush := by
    rw [h.hush]
    simp [Session.hush, Session.note, hd]

/-- Who waits for a turn does not matter. -/
lemma wakeGlance (h : Mirrors t s) (w : Worker) : Mirrors t (s.wake w) where
  held := by simpa [Reticent] using h.held
  queued := by simpa using h.queued
  hush := by
    rw [h.hush, Session.wake]
    split <;> rfl

lemma wake (h : Mirrors t s) (w : Worker) : Mirrors (t.wake w) (s.wake w) where
  toDiscreet := (h.wakeGlance w).toDiscreet
  hush := by
    rw [← (h.wakeGlance w).hush, Session.wake]
    split <;> rfl

/-- A signal of the lifecycle joins both queues. -/
lemma enqueue (h : Mirrors t s) {x : Signal} (hx : x.observes = false) :
    Mirrors { t with queue := t.queue ++ [x] } { s with queue := s.queue ++ [x] } where
  held := h.held
  queued kind c hmem := by
    rcases List.mem_append.mp hmem with hmem | hmem
    · exact h.queued kind c hmem
    · rw [← List.mem_singleton.mp hmem] at hx
      cases hx
  hush := by
    have hboth := congrArg (fun u : Session => { u with queue := u.queue ++ [x] }) h.hush
    refine hboth.trans ?_
    simp [Session.hush, hx]

/-- An observation that joins the queue is not mirrored. -/
lemma enqueueGlance (h : Mirrors t s) {x : Signal} (hx : x.observes)
    (hinert : ∀ kind c, x = .register kind c → c.script = []) :
    Mirrors t { s with queue := s.queue ++ [x] } where
  held := h.held
  queued kind c hmem := by
    rcases List.mem_append.mp hmem with hmem | hmem
    · exact h.queued kind c hmem
    · exact hinert kind c (List.mem_singleton.mp hmem).symm
  hush := by
    rw [h.hush]
    simp [Session.hush, hx]

lemma post (h : Mirrors t s) {x : Signal} (hx : x.observes = false) : Mirrors (t.post x) (s.post x) := by
  cases hrunning : s.running with
  | true =>
      rw [Session.post, if_pos (h.running.trans hrunning), Session.post, if_pos hrunning]
      exact ((h.enqueue hx).note (d := .posted x) hx).wake .driver
  | false =>
      rw [Session.post, if_neg (by simp [h.running, hrunning]), Session.post, if_neg (by simp [hrunning])]
      exact h

lemma postGlance (h : Mirrors t s) {x : Signal} (hx : x.observes)
    (hinert : ∀ kind c, x = .register kind c → c.script = []) : Mirrors t (s.post x) := by
  rw [Session.post]
  split
  · exact ((h.enqueueGlance hx hinert).glance (d := .posted x) hx).wakeGlance .driver
  · exact h

lemma hear (h : Mirrors t s) (es : List TransportEvent) :
    Mirrors (t.hear (es.filter (!·.isError))) (s.hear es) := by
  induction es generalizing t s with
  | nil => exact h
  | cons e es ih =>
      cases e with
      | error reason => exact ih (h.postGlance rfl nofun)
      | connect | disconnect | message => exact ih (h.post rfl)

lemma handIfOpen (h : Mirrors t s) (f : Frame) (o : Origin) :
    Mirrors (t.handIfOpen f o) (s.handIfOpen f o) := by
  rw [Session.handIfOpen, Session.handIfOpen, h.state]
  split
  · exact h.note rfl
  · exact h

/-- No callback is called in the mirror, and one that is called does nothing. -/
lemma dispatch (h : Mirrors t s) (notice : Notice) :
    Mirrors (t.dispatch notice) (s.dispatch notice) := by
  have hnone : t.life.callbacks.receiver notice = none := by
    rw [h.callbacks]
    exact Callbacks.slot_empty _
  rw [dispatch_of_none hnone]
  rcases dispatch_of_idles (h.held.idles notice) with heq | ⟨c, heq⟩
  · exact heq.symm ▸ h
  · exact heq.symm ▸ h.glance rfl

/-- Both lines do the same, but for the errors. -/
lemma reline (h : Mirrors t s) (l : Line) :
    Mirrors { t with line := l.hush } { s with line := l } where
  held := h.held
  queued := h.queued
  hush := congrArg (fun u : Session => { u with line := l.hush }) h.hush

lemma openLine (h : Mirrors t s) : Mirrors t.openLine s.openLine := by
  have hopened := ((h.reline s.line.connect.1).note (d := .opened) rfl).hear s.line.connect.2
  rw [Session.openLine, Session.openLine, h.line, Line.connect_hush]
  exact hopened

lemma closeLine (h : Mirrors t s) : Mirrors t.closeLine s.closeLine := by
  have hclosed := ((h.reline s.line.disconnect.1).note (d := .closed) rfl).hear s.line.disconnect.2
  rw [Session.closeLine, Session.closeLine, h.line, Line.disconnect_hush]
  exact hclosed

/-! ### The driver -/

lemma start (h : Mirrors t s) : Mirrors t.start s.start := by
  have hbegun := h.update (fun u => { u with life.started := true }) rfl rfl rfl rfl
  rw [Session.start, Session.start, h.started]
  split
  · exact h
  · exact hbegun.openLine

lemma recordActivity (h : Mirrors t s) : Mirrors t.recordActivity s.recordActivity :=
  h.update Session.recordActivity rfl rfl rfl rfl

lemma greet (h : Mirrors t s) : Mirrors t.greet s.greet := by
  have hheard := h.recordActivity
  have hback := hheard.update (fun u => { u with life.retry := u.life.retry.onConnect.2 }) rfl rfl rfl rfl
  have hcount : t.recordActivity.life.retry.attempts = s.recordActivity.life.retry.attempts := by
    rw [hheard.retry]
  refine Mirrors.handIfOpen ?_ .ping .sync
  dsimp only [Retry.onConnect]
  rw [hcount]
  split
  · exact hback.dispatch .connect
  · exact hback

lemma lose (h : Mirrors t s) : Mirrors t.lose s.lose := by
  cases hs : s.life.started with
  | false =>
      rw [lose_of_not_started hs, lose_of_not_started (h.started.trans hs)]
      exact h
  | true =>
      have hlost := h.update lossNoted rfl rfl rfl rfl
      rw [lose_of_started hs, lose_of_started (h.started.trans hs), hlost.retry]
      split
      · exact hlost.dispatch .disconnect
      · exact hlost

lemma receive (h : Mirrors t s) (data : String) : Mirrors (t.receive data) (s.receive data) :=
  h.recordActivity.dispatch (.message data)

lemma force (h : Mirrors t s) : Mirrors t.force s.force := by
  cases hs : s.life.started with
  | false =>
      rw [force_of_not_started hs, force_of_not_started (h.started.trans hs)]
      exact h
  | true =>
      have hclosed := (h.note (d := .forced) rfl).closeLine
      rw [force_of_started hs, force_of_started (h.started.trans hs), hclosed.state, h.state]
      split
      · exact hclosed.lose
      · exact hclosed

lemma observe (h : Mirrors t s) (status : NetworkStatus) :
    Mirrors (t.observe status) (s.observe status) := by
  have hdecided : t.life.presence.observe status t.life.retry.inBackoff (t.life.heartbeat.isLate t.now) =
      s.life.presence.observe status s.life.retry.inBackoff (s.life.heartbeat.isLate s.now) := by
    rw [h.presence, h.retry, h.heartbeat, h.now]
  rw [Session.observe, Session.observe, hdecided]
  generalize s.life.presence.observe status _ _ = decided
  obtain ⟨decision, presence⟩ := decided
  have hseen := h.update (fun u => { u with life.presence := presence }) rfl rfl rfl rfl
  cases decision with
  | ignore => exact hseen
  | forceReconnect cut =>
      cases cut with
      | false => exact hseen.force
      | true => exact (hseen.update accelerate rfl rfl rfl rfl).force

/-- The driver ends in both, and both queues are lost. -/
lemma stop (h : Mirrors t s) : Mirrors t.stop s.stop := by
  have hended : Mirrors t.ended s.ended :=
    { held := h.held
      queued := nofun
      hush := congrArg Session.ended h.hush }
  rw [stop_eq_ended, stop_eq_ended, h.started]
  split
  · exact hended.closeLine
  · exact hended

lemma retryDue (h : Mirrors t s) (hdue : s.life.retry.isDue s.now) : Mirrors t.retry s.retry := by
  have hdue' : t.life.retry.isDue t.now := by rwa [h.retry, h.now]
  have htaken := h.update (fun u => { u with life.retry := { u.life.retry with dueAt := none } })
    rfl rfl rfl rfl
  rw [retry_of_isDue hdue, retry_of_isDue hdue']
  exact htaken.openLine

lemma beat (h : Mirrors t s) : Mirrors t.beat s.beat := by
  have hticked : t.life.heartbeat.tick t.now = s.life.heartbeat.tick s.now := by
    rw [h.heartbeat, h.now]
  rw [Session.beat, Session.beat, hticked]
  generalize s.life.heartbeat.tick s.now = ticked
  obtain ⟨beat, heartbeat⟩ := ticked
  have hnoted := (h.update (fun u => { u with life.heartbeat := heartbeat }) rfl rfl rfl rfl).note
    (d := .beat beat) rfl
  cases beat with
  | ping => exact hnoted.handIfOpen .ping .beat
  | stale silentFor =>
      have hstate := hnoted.state
      have hretry := hnoted.retry
      dsimp only at hstate hretry ⊢
      rw [hstate, hretry]
      split
      · exact hnoted
      · exact hnoted.force

/-- A signal of the lifecycle is handled alike. -/
lemma handle (h : Mirrors t s) {x : Signal} (hx : x.observes = false) :
    Mirrors (t.handle x) (s.handle x) := by
  match x with
  | .start => exact h.start
  | .transport .connect => exact h.greet
  | .transport .disconnect => exact h.lose
  | .transport (.message data) => exact h.receive data
  | .forceReconnect => exact h.force
  | .network status => exact h.observe status
  | .shutdown => exact h.stop
  | .transport (.error _) | .register .. | .inspect => cases hx

/-- The signal at the head of the queue is an observation: the mirror has none of it. -/
lemma handleGlance (h : Mirrors t s) {x : Signal} {rest : List Signal} (hqueue : s.queue = x :: rest)
    (hx : x.observes) : Mirrors t (({ s with queue := rest }.note (.took x)).handle x) := by
  have hpopped : Mirrors t { s with queue := rest } :=
    { held := h.held
      queued := fun kind c hmem => h.queued kind c (hqueue ▸ .tail _ hmem)
      hush := by
        rw [h.hush]
        simp [Session.hush, hqueue, hx] }
  have htook := hpopped.glance (d := .took x) hx
  match x with
  | .transport (.error _) => exact htook
  | .inspect => exact htook.glance rfl
  | .register kind c =>
      refine ⟨⟨fun other d hd => ?_, htook.queued⟩, htook.hush⟩
      rw [Session.handle, Callbacks.slot_register] at hd
      split at hd
      · cases hd
        exact h.queued kind c (hqueue ▸ .head _)
      · exact htook.held other d hd
  | .start | .transport .connect | .transport .disconnect | .transport (.message _) | .forceReconnect
  | .network _ | .shutdown => cases hx

/-- A signal of the lifecycle is taken from both queues. -/
lemma pop (h : Mirrors t s) {x : Signal} {rest : List Signal} (hqueue : s.queue = x :: rest)
    (hx : x.observes = false) :
    Mirrors ({ t with queue := rest.filter (!·.observes) }.note (.took x))
      ({ s with queue := rest }.note (.took x)) := by
  have hpopped : Mirrors { t with queue := rest.filter (!·.observes) } { s with queue := rest } :=
    { held := h.held
      queued := fun kind c hmem => h.queued kind c (hqueue ▸ .tail _ hmem)
      hush := congrArg (fun u : Session => { u with queue := rest.filter (!·.observes) }) h.hush }
  exact hpopped.note hx

/-! ### Actions -/

lemma onHandle (h : Mirrors t s) {f g : Session → Session × Reply} (hcall : Mirrors (f t).1 (g s).1) :
    Mirrors (t.onHandle f).1 (s.onHandle g).1 := by
  rw [Session.onHandle, Session.onHandle, h.handles]
  split
  · exact h
  · exact hcall

lemma onHandleGlance (h : Mirrors t s) {g : Session → Session × Reply} (hcall : Mirrors t (g s).1) :
    Mirrors t (s.onHandle g).1 := by
  rw [Session.onHandle]
  split
  · exact h
  · exact hcall

lemma signal (h : Mirrors t s) {x : Signal} (hx : x.observes = false) :
    Mirrors (t.signal x).1 (s.signal x).1 := by
  rw [Session.signal, Session.signal, h.running]
  split
  · exact h.post hx
  · exact h

lemma signalGlance (h : Mirrors t s) {x : Signal} (hx : x.observes)
    (hinert : ∀ kind c, x = .register kind c → c.script = []) : Mirrors t (s.signal x).1 := by
  rw [Session.signal]
  split
  · exact h.postGlance hx hinert
  · exact h

/-- A registration, valid or not, is not mirrored. -/
lemma register (h : Mirrors t s) (kind : NoticeKind) {tag : String} {view : View} {script : List Action}
    (hscript : script = []) : Mirrors t (s.signal (.register kind { tag, view, script })).1 :=
  h.signalGlance rfl fun _ _ heq => by
    cases heq
    exact hscript

lemma stirWatcher (h : Mirrors t s) (id : Nat) (change : Watcher → Watcher) :
    Mirrors (t.stirWatcher id change) (s.stirWatcher id change) :=
  (h.update (fun u => { u with watchers := u.watchers.modify id change }) rfl rfl rfl rfl).wake _

lemma releaseKept (h : Mirrors t s) : Mirrors t.releaseKept s.releaseKept := by
  rw [Session.releaseKept, Session.releaseKept, h.kept]
  split
  · exact (h.stirWatcher _ _).update (fun u => { u with kept := none }) rfl rfl rfl rfl
  · exact h

lemma startWatcher (h : Mirrors t s) : Mirrors t.startWatcher s.startWatcher := by
  have hreleased := h.releaseKept
  have hstarted := hreleased.update (fun u => { u with
    watchers := u.watchers ++ [({} : Watcher)], kept := some u.watchers.length }) rfl rfl rfl rfl
  have hwoken := hstarted.wake (.watcher t.releaseKept.watchers.length)
  rw [Session.startWatcher, Session.startWatcher]
  rwa [hreleased.watchers] at hwoken ⊢

lemma publish (h : Mirrors t s) (status : NetworkStatus) :
    Mirrors (t.publish status) (s.publish status) := by
  rw [Session.publish, Session.publish, h.kept, h.watchers]
  split
  · split
    · exact h.stirWatcher _ _
    · exact h
  · exact h

lemma publishAll (h : Mirrors t s) (statuses : List NetworkStatus) :
    Mirrors (statuses.foldl Session.publish t) (statuses.foldl Session.publish s) := by
  induction statuses generalizing t s with
  | nil => exact h
  | cons status statuses ih => exact ih (h.publish status)

lemma dropHandle (h : Mirrors t s) : Mirrors t.dropHandle.1 s.dropHandle.1 := by
  rw [Session.dropHandle, Session.dropHandle, h.handles]
  split
  · exact h
  · exact (h.update (fun u => { u with handles := 0 }) rfl rfl rfl rfl).post rfl
  next n _ => exact h.update (fun u => { u with handles := n + 1 }) rfl rfl rfl rfl

/-- A move of the line that changes its state and may be reported. -/
lemma lineMoves (h : Mirrors t s) (state : ConnectionState) (es : List TransportEvent) :
    Mirrors ({ t with line.state := state }.hear (es.filter (!·.isError)))
      ({ s with line.state := state }.hear es) := by
  have hmoved : Mirrors { t with line.state := state } { s with line.state := state } :=
    { held := h.held
      queued := h.queued
      hush := congrArg (fun u : Session => { u with line.state := state }) h.hush }
  exact hmoved.hear es

lemma lineReacts (h : Mirrors t s) (toConnect toDisconnect : Option Reaction) :
    Mirrors (t.perform (.lineReacts (toConnect.map Reaction.hush) (toDisconnect.map Reaction.hush))).1
      (s.perform (.lineReacts toConnect toDisconnect)).1 := by
  have hline : t.line = s.line.hush := h.line
  have hrelined := h.reline { s.line with
    onConnect := toConnect.getD s.line.onConnect
    onDisconnect := toDisconnect.getD s.line.onDisconnect }
  simp only [Session.perform, hline]
  cases toConnect <;> cases toDisconnect <;> exact hrelined

/-! ### Turns -/

lemma watch (h : Mirrors t s) (id : Nat) : Mirrors (t.watch id) (s.watch id) := by
  rw [Session.watch, Session.watch, h.watchers]
  split
  next => exact h
  next w _ =>
    have hturned := h.update (fun u => { u with watchers := u.watchers.set id (w.turn s.running).2 })
      rfl rfl rfl rfl
    rw [h.watchers] at hturned
    rw [show w.turn t.running = w.turn s.running by rw [h.running]]
    dsimp only
    split
    next status _ => exact hturned.post (x := .network status) rfl
    next => exact hturned

lemma pass (h : Mirrors t s) (duration : Time) : Mirrors (t.pass duration) (s.pass duration) :=
  (h.update (fun u => { u with now := u.now + duration }) rfl rfl rfl rfl).wake .driver

/-- Unless an observation is next, the driver has the same to do in both. -/
lemma drive? (h : Mirrors t s) (hhead : s.queue.head?.any (·.observes) = false) :
    (s.drive? = none ∧ t.drive? = none) ∨
      ∃ u v, s.drive? = some u ∧ t.drive? = some v ∧ Mirrors v u := by
  cases hu : s.drive? with
  | some u =>
      refine .inr ⟨u, ?_⟩
      obtain ⟨hrunning, ⟨x, rest, hqueue, rfl⟩ | ⟨hqueue, hdue, rfl⟩ | ⟨hqueue, hdue, hbeat, rfl⟩⟩ :=
        drive?_cases hu
      · have hx : x.observes = false := by simpa [hqueue] using hhead
        have hqueue' : t.queue = x :: rest.filter (!·.observes) := by simp [h.queue, hqueue, hx]
        exact ⟨_, rfl, drive?_of_queue (h.running.trans hrunning) hqueue', (h.pop hqueue hx).handle hx⟩
      · refine ⟨_, rfl, ?_, h.retryDue hdue⟩
        simp [Session.drive?, h.running, hrunning, h.queue, hqueue, h.retry, h.now, hdue]
      · refine ⟨_, rfl, ?_, h.beat⟩
        simp [Session.drive?, h.running, hrunning, h.queue, hqueue, h.retry, h.now, hdue, h.heartbeat,
          hbeat]
  | none =>
      refine .inl ⟨rfl, ?_⟩
      cases hrunning : s.running with
      | false => simp [Session.drive?, h.running, hrunning]
      | true =>
          cases hqueue : s.queue with
          | cons x rest => cases (drive?_of_queue hrunning hqueue).symm.trans hu
          | nil =>
              have hidle : s.life.retry.isDue s.now = false ∧ s.life.heartbeat.isDue s.now = false := by
                rw [Session.drive?, hqueue] at hu
                grind
              simp [Session.drive?, h.running, hrunning, h.queue, hqueue, h.retry, h.now, h.heartbeat,
                hidle]

end Mirrors

mutual

/-- **An action is mirrored by its essence.** -/
lemma Mirrors.perform {t s : Session} (h : Mirrors t s) :
    ∀ a : Action, a.isDiscreet → Mirrors (t.run (a.essence.map .act)) (s.perform a).1
  | .connect, _ | .forceReconnect, _ | .network _, _ => by
      simp only [Action.essence, Session.perform]
      exact h.onHandle (h.signal rfl)
  | .send f, _ => by
      simp only [Action.essence, Session.perform]
      exact h.onHandle (h.handIfOpen f .application)
  | .sync, _ => by
      simp only [Action.essence, Session.perform]
      exact h.onHandle (h.handIfOpen .ping .application)
  | .isOpen, _ | .url, _ => by
      simp only [Action.essence, Session.perform]
      exact h.onHandle h
  | .shutdown, _ => by
      simp only [Action.essence, Session.perform]
      exact h.onHandle (h.post rfl)
  | .inspect, _ => by
      simp only [Action.essence, Session.perform]
      exact h.onHandleGlance (h.postGlance rfl nofun)
  | .on event _ script, ha => by
      simp only [Action.isDiscreet, List.isEmpty_iff] at ha
      simp only [Action.essence, Session.perform]
      refine h.onHandleGlance ?_
      split
      next kind _ => exact h.register kind ha
      next => exact h
  | .onMessage .., ha | .onReconnect .., ha | .onDisconnect .., ha => by
      simp only [Action.isDiscreet, List.isEmpty_iff] at ha
      simp only [Action.essence, Session.perform]
      exact h.onHandleGlance (h.register _ ha)
  | .clone, _ => by
      simp only [Action.essence, Session.perform]
      exact h.onHandle (h.update (fun u => { u with handles := u.handles + 1 }) rfl rfl rfl rfl)
  | .drop, _ => by
      simp only [Action.essence, Session.perform]
      exact h.dropHandle
  | .watch, _ => by
      simp only [Action.essence, Session.perform]
      exact h.onHandle h.startWatcher
  | .lineOpens, _ => by
      simp only [Action.essence, Session.perform]
      exact h.lineMoves .opened [.connect]
  | .lineDrops, _ => by
      simp only [Action.essence, Session.perform]
      exact h.lineMoves .idle [.disconnect]
  | .lineMoves state, _ => by
      simp only [Action.essence, Session.perform]
      exact h.lineMoves state []
  | .lineFires (.error reason), _ => by
      simp only [Action.essence, Session.perform]
      exact h.hear [.error reason]
  | .lineFires .connect, _ | .lineFires .disconnect, _ | .lineFires (.message _), _ => by
      simp only [Action.essence, Session.perform]
      exact h.post rfl
  | .lineReacts toConnect toDisconnect, _ => by
      simp only [Action.essence]
      exact h.lineReacts toConnect toDisconnect
  | .publish statuses, _ => by
      simp only [Action.essence, Session.perform]
      exact h.publishAll statuses
  | .endWatch, _ => by
      simp only [Action.essence, Session.perform]
      exact h.releaseKept
  | .batch actions, ha => by
      simp only [Action.isDiscreet] at ha
      simp only [Action.essence, Session.perform]
      exact h.performAll actions ha

lemma Mirrors.performAll {t s : Session} (h : Mirrors t s) :
    ∀ actions : List Action, Action.areDiscreet actions →
      Mirrors (t.run ((Action.essenceAll actions).map .act)) (s.performAll actions).1
  | [], _ => by
      simp only [Action.essenceAll, Session.performAll]
      exact h
  | a :: actions, ha => by
      simp only [Action.areDiscreet, Bool.and_eq_true] at ha
      have hfirst := h.perform a ha.1
      have hrest := hfirst.performAll actions ha.2
      simp only [Action.essenceAll, Session.performAll, List.map_append]
      rw [run, List.foldl_append]
      exact hrest

end

end Session

end ResilientChannel
