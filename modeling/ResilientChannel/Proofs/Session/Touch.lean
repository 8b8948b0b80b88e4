import Mathlib.Logic.Relation
import ResilientChannel.Session.Run

/-!
What the outside can do to a session.

* **The fields.** One small lemma for each field and each of the operations from which everything
  else is made: notes, wakings, posted signals, heard events and frames handed over.
* **Classes of actions.** `Action.Within p` says that `p` holds of an action and of every action
  that it carries, in a batch or in the script of a callback; `Session.Carries` says so of every
  callback that a session holds or has queued.
* **The touches.** However deep an action nests, all it does is a row of touches (`Touch`): a signal
  that reports no event is posted, a frame is handed over, the line makes a move and is heard, or
  something changes that the driver never reads (`perform_touches`).
* **The frame.** Touches leave the clock and the driver's state alone, and all that they enter into
  the history is traffic (`Touches.traffic`).
-/

/-- What every step keeps, a row of steps keeps. -/
lemma Relation.ReflTransGen.keeps {α : Type} {r : α → α → Prop} {I : α → Prop} {a b : α}
    (hr : Relation.ReflTransGen r a b) (hI : ∀ {a b}, I a → r a b → I b) (h : I a) : I b := by
  induction hr with
  | refl => exact h
  | tail _ step ih => exact hI ih step

namespace ResilientChannel.Session

variable {p : Action → Prop} {s t u : Session}

/-! ### The fields -/

@[simp] lemma note_now (s : Session) (d : Deed) : (s.note d).now = s.now := rfl

@[simp] lemma note_line (s : Session) (d : Deed) : (s.note d).line = s.line := rfl

@[simp] lemma note_life (s : Session) (d : Deed) : (s.note d).life = s.life := rfl

@[simp] lemma note_running (s : Session) (d : Deed) : (s.note d).running = s.running := rfl

@[simp] lemma note_queue (s : Session) (d : Deed) : (s.note d).queue = s.queue := rfl

@[simp] lemma note_history (s : Session) (d : Deed) :
    (s.note d).history = { time := s.now, deed := d } :: s.history := rfl

@[simp] lemma wake_now (s : Session) (w : Worker) : (s.wake w).now = s.now := by
  rw [wake]; split <;> rfl

@[simp] lemma wake_line (s : Session) (w : Worker) : (s.wake w).line = s.line := by
  rw [wake]; split <;> rfl

@[simp] lemma wake_life (s : Session) (w : Worker) : (s.wake w).life = s.life := by
  rw [wake]; split <;> rfl

@[simp] lemma wake_running (s : Session) (w : Worker) : (s.wake w).running = s.running := by
  rw [wake]; split <;> rfl

@[simp] lemma wake_queue (s : Session) (w : Worker) : (s.wake w).queue = s.queue := by
  rw [wake]; split <;> rfl

@[simp] lemma wake_history (s : Session) (w : Worker) : (s.wake w).history = s.history := by
  rw [wake]; split <;> rfl

@[simp] lemma post_now (s : Session) (x : Signal) : (s.post x).now = s.now := by
  rw [post]; split <;> simp

@[simp] lemma post_line (s : Session) (x : Signal) : (s.post x).line = s.line := by
  rw [post]; split <;> simp

@[simp] lemma post_life (s : Session) (x : Signal) : (s.post x).life = s.life := by
  rw [post]; split <;> simp

@[simp] lemma post_running (s : Session) (x : Signal) : (s.post x).running = s.running := by
  rw [post]; split <;> simp

lemma post_queue (s : Session) (x : Signal) :
    (s.post x).queue = if s.running then s.queue ++ [x] else s.queue := by
  rw [post]; split <;> simp

lemma post_history (s : Session) (x : Signal) :
    (s.post x).history =
      if s.running then { time := s.now, deed := .posted x } :: s.history else s.history := by
  rw [post]; split <;> simp

lemma hear_cons (s : Session) (e : TransportEvent) (es : List TransportEvent) :
    s.hear (e :: es) = (s.post (.transport e)).hear es := rfl

@[simp] lemma hear_nil (s : Session) : s.hear [] = s := rfl

@[simp] lemma hear_now (s : Session) (es : List TransportEvent) : (s.hear es).now = s.now := by
  induction es generalizing s with
  | nil => rfl
  | cons e es ih => rw [hear_cons, ih, post_now]

@[simp] lemma hear_line (s : Session) (es : List TransportEvent) :
    (s.hear es).line = s.line := by
  induction es generalizing s with
  | nil => rfl
  | cons e es ih => rw [hear_cons, ih, post_line]

@[simp] lemma hear_life (s : Session) (es : List TransportEvent) :
    (s.hear es).life = s.life := by
  induction es generalizing s with
  | nil => rfl
  | cons e es ih => rw [hear_cons, ih, post_life]

@[simp] lemma hear_running (s : Session) (es : List TransportEvent) :
    (s.hear es).running = s.running := by
  induction es generalizing s with
  | nil => rfl
  | cons e es ih => rw [hear_cons, ih, post_running]

lemma hear_queue (h : s.running) (es : List TransportEvent) :
    (s.hear es).queue = s.queue ++ es.map .transport := by
  induction es generalizing s with
  | nil => simp
  | cons e es ih =>
      rw [hear_cons, ih (by simpa using h), post_queue, if_pos h]
      simp

@[simp] lemma handIfOpen_now (s : Session) (f : Frame) (o : Origin) :
    (s.handIfOpen f o).now = s.now := by
  rw [handIfOpen]; split <;> rfl

@[simp] lemma handIfOpen_line (s : Session) (f : Frame) (o : Origin) :
    (s.handIfOpen f o).line = s.line := by
  rw [handIfOpen]; split <;> rfl

@[simp] lemma handIfOpen_life (s : Session) (f : Frame) (o : Origin) :
    (s.handIfOpen f o).life = s.life := by
  rw [handIfOpen]; split <;> rfl

@[simp] lemma handIfOpen_running (s : Session) (f : Frame) (o : Origin) :
    (s.handIfOpen f o).running = s.running := by
  rw [handIfOpen]; split <;> rfl

@[simp] lemma handIfOpen_queue (s : Session) (f : Frame) (o : Origin) :
    (s.handIfOpen f o).queue = s.queue := by
  rw [handIfOpen]; split <;> rfl

/-! ### Classes of actions -/

/-- The actions that an action carries: those of its batch, or of the callback it registers. -/
def Action.parts : Action → List Action
  | .on _ _ script | .onMessage _ script | .onReconnect _ script | .onDisconnect _ script => script
  | .batch actions => actions
  | _ => []

/-- `p` holds of the action and of all that it carries, however deep. -/
inductive Action.Within (p : Action → Prop) : Action → Prop
  | mk {a : Action} (holds : p a) (parts : ∀ b ∈ a.parts, Within p b) : Within p a

lemma Action.Within.holds {a : Action} : a.Within p → p a
  | .mk h _ => h

lemma Action.Within.parts {a : Action} : a.Within p → ∀ b ∈ a.parts, b.Within p
  | .mk _ h => h

mutual

/-- What holds of every action holds throughout every action. -/
lemma Action.within_of_forall (h : ∀ a, p a) : ∀ a : Action, a.Within p
  | .on _ _ script => .mk (h _) (Action.within_all_of_forall h script)
  | .onMessage _ script => .mk (h _) (Action.within_all_of_forall h script)
  | .onReconnect _ script => .mk (h _) (Action.within_all_of_forall h script)
  | .onDisconnect _ script => .mk (h _) (Action.within_all_of_forall h script)
  | .batch actions => .mk (h _) (Action.within_all_of_forall h actions)
  | .connect | .forceReconnect | .network _ | .send _ | .sync | .isOpen | .url | .shutdown
  | .inspect | .clone | .drop | .watch | .lineOpens | .lineDrops | .lineMoves _ | .lineFires _
  | .lineReacts _ _ | .publish _ | .endWatch => .mk (h _) (by simp [Action.parts])

lemma Action.within_all_of_forall (h : ∀ a, p a) :
    ∀ actions : List Action, ∀ a ∈ actions, a.Within p
  | [] => by simp
  | a :: actions => by
      have ha := Action.within_of_forall h a
      have hrest := Action.within_all_of_forall h actions
      simpa using ⟨ha, hrest⟩

end

/-- The callback's script lies within a class. -/
def Callback.Within (p : Action → Prop) (c : Callback) : Prop := ∀ a ∈ c.script, a.Within p

/-- Whatever callback the signal installs lies within a class. -/
def Signal.Within (p : Action → Prop) : Signal → Prop
  | .register _ callback => callback.Within p
  | _ => True

/-- The event that a signal reports. -/
def Signal.event? : Signal → Option TransportEvent
  | .transport event => some event
  | _ => none

/-- Every callback that the session holds or has queued lies within a class. -/
structure Carries (p : Action → Prop) (s : Session) : Prop where
  held : ∀ kind c, s.life.callbacks.slot kind = some c → c.Within p
  queued : ∀ x ∈ s.queue, x.Within p

/-! ### The touches -/

/-- The moves that actions of a class make of a line, with the events that the line fires. -/
inductive LineMove (p : Action → Prop) (l : Line) : Line → List TransportEvent → Prop
  | opens (h : p .lineOpens) : LineMove p l { l with state := .opened } [.connect]
  | drops (h : p .lineDrops) : LineMove p l { l with state := .idle } [.disconnect]
  | moves {state : ConnectionState} (h : p (.lineMoves state)) : LineMove p l { l with state } []
  | fires {event : TransportEvent} (h : p (.lineFires event)) : LineMove p l l [event]
  | reacts {onConnect onDisconnect : Option Reaction} (h : p (.lineReacts onConnect onDisconnect)) :
      LineMove p l { l with
        onConnect := onConnect.getD l.onConnect
        onDisconnect := onDisconnect.getD l.onDisconnect } []

/-- The smallest things that actions of a class do to a session. -/
inductive Touch (p : Action → Prop) (s : Session) : Session → Prop
  | post {signal : Signal} (within : signal.Within p) (own : signal.event? = none) :
      Touch p s (s.post signal)
  | hand (frame : Frame) : Touch p s (s.handIfOpen frame .application)
  | line {line : Line} {events : List TransportEvent} (h : LineMove p s.line line events) :
      Touch p s ({ s with line }.hear events)
  | aside (handles : Nat) (watchers : List Watcher) (kept : Option Nat) (agenda : List Worker) :
      Touch p s { s with handles, watchers, kept, agenda }

/-- A row of touches. -/
abbrev Touches (p : Action → Prop) : Session → Session → Prop := Relation.ReflTransGen (Touch p)

lemma wake_touches (s : Session) (w : Worker) : Touches p s (s.wake w) := by
  rw [wake]
  split
  · exact .refl
  · exact .single (.aside s.handles s.watchers s.kept (s.agenda ++ [w]))

lemma stirWatcher_touches (s : Session) (id : Nat) (change : Watcher → Watcher) :
    Touches p s (s.stirWatcher id change) :=
  .head (.aside s.handles (s.watchers.modify id change) s.kept s.agenda) (wake_touches _ _)

lemma releaseKept_touches (s : Session) : Touches p s s.releaseKept := by
  rw [releaseKept]
  split
  · exact (stirWatcher_touches s _ _).tail (.aside _ _ none _)
  · exact .refl

lemma startWatcher_touches (s : Session) : Touches p s s.startWatcher :=
  (releaseKept_touches s).trans
    (.head (.aside s.releaseKept.handles _ _ s.releaseKept.agenda) (wake_touches _ _))

lemma publish_touches (s : Session) (status : NetworkStatus) : Touches p s (s.publish status) := by
  rw [publish]
  split
  · split
    · exact stirWatcher_touches s _ _
    · exact .refl
  · exact .refl

lemma publishAll_touches (s : Session) (statuses : List NetworkStatus) :
    Touches p s (statuses.foldl publish s) := by
  induction statuses generalizing s with
  | nil => exact .refl
  | cons status statuses ih => exact (publish_touches s status).trans (ih _)

lemma dropHandle_touches (s : Session) : Touches p s s.dropHandle.1 := by
  rw [dropHandle]
  split
  · exact .refl
  · exact .head (.aside 0 s.watchers s.kept s.agenda) (.single (.post trivial rfl))
  next n _ => exact .single (.aside (n + 1) s.watchers s.kept s.agenda)

lemma signal_touches (s : Session) {x : Signal} (within : x.Within p) (own : x.event? = none) :
    Touches p s (s.signal x).1 := by
  rw [signal]
  split
  · exact .single (.post within own)
  · exact .refl

lemma onHandle_touches {call : Session → Session × Reply} (h : Touches p s (call s).1) :
    Touches p s (s.onHandle call).1 := by
  rw [onHandle]
  split
  · exact .refl
  · exact h

/-- A registration by name reaches the queue only if the name is known. -/
lemma on_touches (s : Session) {event tag : String} {script : List Action}
    (h : (Action.on event tag script).Within p) :
    Touches p s (s.perform (.on event tag script)).1 := by
  simp only [perform]
  refine onHandle_touches ?_
  split
  · exact signal_touches s h.parts rfl
  · exact .refl

mutual

/-- **An action is a row of touches.** -/
lemma perform_touches (s : Session) : ∀ a : Action, a.Within p → Touches p s (s.perform a).1
  | .connect, _ | .forceReconnect, _ | .network _, _ => by
      simp only [perform]
      exact onHandle_touches (signal_touches s trivial rfl)
  | .send _, _ | .sync, _ => by
      simp only [perform]
      exact onHandle_touches (.single (.hand _))
  | .isOpen, _ | .url, _ => by
      simp only [perform]
      exact onHandle_touches .refl
  | .shutdown, _ | .inspect, _ => by
      simp only [perform]
      exact onHandle_touches (.single (.post trivial rfl))
  | .on .., h => on_touches s h
  | .onMessage _ _, h | .onReconnect _ _, h | .onDisconnect _ _, h => by
      simp only [perform]
      exact onHandle_touches (signal_touches s h.parts rfl)
  | .clone, _ => by
      simp only [perform]
      exact onHandle_touches (.single (.aside (s.handles + 1) s.watchers s.kept s.agenda))
  | .drop, _ => by
      simp only [perform]
      exact dropHandle_touches s
  | .watch, _ => by
      simp only [perform]
      exact onHandle_touches (startWatcher_touches s)
  | .lineOpens, h => by
      simp only [perform]
      exact .single (.line (.opens h.holds))
  | .lineDrops, h => by
      simp only [perform]
      exact .single (.line (.drops h.holds))
  | .lineMoves _, h => by
      simp only [perform]
      exact .single (.line (.moves h.holds))
  | .lineFires _, h => by
      simp only [perform]
      exact .single (.line (.fires h.holds))
  | .lineReacts _ _, h => by
      simp only [perform]
      exact .single (.line (.reacts h.holds))
  | .publish statuses, _ => by
      simp only [perform]
      exact publishAll_touches s statuses
  | .endWatch, _ => by
      simp only [perform]
      exact releaseKept_touches s
  | .batch actions, h => by
      simp only [perform]
      exact performAll_touches s actions h.parts

lemma performAll_touches (s : Session) :
    ∀ actions : List Action, (∀ a ∈ actions, a.Within p) → Touches p s (s.performAll actions).1
  | [], _ => by
      simp only [performAll]
      exact .refl
  | a :: actions, h => by
      have ha := perform_touches s a (h a (by simp))
      have hrest := performAll_touches (s.perform a).1 actions fun b hb => h b (by simp [hb])
      simp only [performAll]
      exact ha.trans hrest

end

lemma dispatch_of_none {notice : Notice} (h : s.life.callbacks.receiver notice = none) :
    s.dispatch notice = s := by
  simp [dispatch, h]

/-- A call is a row of touches, entered into the history when it is over. -/
lemma dispatch_of_some {notice : Notice} {c : Callback}
    (h : s.life.callbacks.receiver notice = some c) (hc : c.Within p) :
    ∃ t did, Touches p s t ∧ s.dispatch notice = t.note (.called c.tag c.view notice did) :=
  ⟨(s.performAll c.script).1, (s.performAll c.script).2, performAll_touches s c.script hc, by
    simp [dispatch, h]⟩

/-- A watcher's turn posts at most a change of the network. -/
lemma watch_touches (s : Session) (id : Nat) : Touches p s (s.watch id) := by
  rw [watch]
  split
  · exact .refl
  next w _ =>
    obtain ⟨news, w'⟩ := w.turn s.running
    have hset : Touches p s { s with watchers := s.watchers.set id w' } :=
      .single (.aside s.handles _ s.kept s.agenda)
    cases news with
    | none => exact hset
    | some status => exact hset.tail (.post trivial rfl)

/-! ### The frame -/

/-- Signals queued and frames handed over. -/
def Deed.isTraffic : Deed → Bool
  | .posted _ | .handed .. => true
  | _ => false

/-- Between the two sessions the driver did nothing, and all that was noted is traffic. -/
structure Traffic (s t : Session) : Prop where
  now : t.now = s.now
  life : t.life = s.life
  running : t.running = s.running
  history : ∃ new, t.history = new ++ s.history ∧ ∀ r ∈ new, r.deed.isTraffic ∧ r.time = s.now

lemma Traffic.refl (s : Session) : Traffic s s := ⟨rfl, rfl, rfl, [], rfl, by simp⟩

lemma Traffic.trans (h : Traffic s t) (h' : Traffic t u) : Traffic s u := by
  obtain ⟨new, hnew, hr⟩ := h.history
  obtain ⟨new', hnew', hr'⟩ := h'.history
  refine ⟨h'.now.trans h.now, h'.life.trans h.life, h'.running.trans h.running, new' ++ new,
    by rw [hnew', hnew, List.append_assoc], fun r hmem => ?_⟩
  rcases List.mem_append.mp hmem with hmem | hmem
  · exact ⟨(hr' r hmem).1, (hr' r hmem).2.trans h.now⟩
  · exact hr r hmem

lemma post_traffic (s : Session) (x : Signal) : Traffic s (s.post x) := by
  refine ⟨by simp, by simp, by simp, ?_⟩
  rw [post_history]
  split
  · exact ⟨[{ time := s.now, deed := .posted x }], rfl, by simp [Deed.isTraffic]⟩
  · exact ⟨[], rfl, by simp⟩

lemma hear_traffic (s : Session) (es : List TransportEvent) : Traffic s (s.hear es) := by
  induction es generalizing s with
  | nil => exact .refl s
  | cons e es ih => exact (post_traffic s _).trans (ih _)

lemma handIfOpen_traffic (s : Session) (f : Frame) (o : Origin) :
    Traffic s (s.handIfOpen f o) := by
  rw [handIfOpen]
  split
  · exact ⟨rfl, rfl, rfl, [{ time := s.now, deed := .handed f.encode o }], rfl,
      by simp [Deed.isTraffic]⟩
  · exact .refl s

lemma Touch.traffic (h : Touch p s t) : Traffic s t := by
  cases h with
  | post => exact post_traffic s _
  | hand => exact handIfOpen_traffic s _ _
  | @line line events _ =>
      have h := hear_traffic { s with line } events
      exact ⟨h.now, h.life, h.running, h.history⟩
  | aside => exact ⟨rfl, rfl, rfl, [], rfl, by simp⟩

lemma Touches.traffic (h : Touches p s t) : Traffic s t :=
  h.keeps (I := Traffic s) (fun htraffic step => htraffic.trans step.traffic) (.refl s)

lemma perform_traffic (s : Session) (a : Action) : Traffic s (s.perform a).1 :=
  Touches.traffic (perform_touches (p := fun _ => True) s a
    (Action.within_of_forall (fun _ => trivial) a))

lemma performAll_traffic (s : Session) (actions : List Action) :
    Traffic s (s.performAll actions).1 :=
  Touches.traffic (performAll_touches (p := fun _ => True) s actions
    (Action.within_all_of_forall (fun _ => trivial) actions))

/-- A call leaves nothing but traffic and its own entry. -/
lemma dispatch_traffic {notice : Notice} {c : Callback}
    (h : s.life.callbacks.receiver notice = some c) :
    ∃ t did, Traffic s t ∧ s.dispatch notice = t.note (.called c.tag c.view notice did) := by
  obtain ⟨t, did, ht, heq⟩ := dispatch_of_some (p := fun _ => True) h
    (Action.within_all_of_forall (fun _ => trivial) c.script)
  exact ⟨t, did, ht.traffic, heq⟩

/-! ### What a session carries -/

/-- Only the callbacks and the queue matter. -/
lemma Carries.congr (h : Carries p s) (hcallbacks : t.life.callbacks = s.life.callbacks)
    (hqueue : ∀ x ∈ t.queue, x ∈ s.queue) : Carries p t where
  held kind c hc := h.held kind c (hcallbacks ▸ hc)
  queued x hx := h.queued x (hqueue x hx)

lemma Carries.post (h : Carries p s) {x : Signal} (hx : x.Within p) : Carries p (s.post x) where
  held := by simpa using h.held
  queued y hy := by
    rw [post_queue] at hy
    split at hy
    · rcases List.mem_append.mp hy with hy | hy
      · exact h.queued y hy
      · rwa [List.mem_singleton.mp hy]
    · exact h.queued y hy

lemma Carries.hear (h : Carries p s) (es : List TransportEvent) : Carries p (s.hear es) := by
  induction es generalizing s with
  | nil => exact h
  | cons e es ih => exact ih (h.post trivial)

/-- A registration is carried by its signal before it is held. -/
lemma Carries.register (h : Carries p s) (kind : NoticeKind) {c : Callback} (hc : c.Within p) :
    Carries p { s with life.callbacks := s.life.callbacks.register kind c } where
  held other d hd := by
    rw [Callbacks.slot_register] at hd
    split at hd
    · cases hd
      exact hc
    · exact h.held other d hd
  queued := h.queued

end ResilientChannel.Session
