import ResilientChannel.Proofs.Session.Exchange

/-!
Shutdown happens exactly when asked for, and is final.

* **Who asks.** `Action.tally` says what an action makes of the handles held and of the shutdowns asked
  for: one is asked for by every call of `shutdown` on a handle and by the drop of the last handle, and
  by nothing else. The driver itself asks for none: whatever is asked for in one of its deeds is asked
  for by the script of the one callback that it calls (`drive?_exchange`). `Governed` says so of everything
  that only the application changes.
* **The end.** A running driver still has every shutdown asked for in its queue (`Expectant`), and it
  ends in the deed in which it takes one.
* **The aftermath.** Whatever comes after the end, nothing is done but that the application hands frames
  to an open line itself (`Aftermath`); whoever waits for a snapshot is told that the channel is closed.
-/

namespace ResilientChannel.Session

variable {s t u : Session} {p : Deed → Prop}

/-! ### Who asks -/

/-- A shutdown was put on the queue. -/
def Deed.isShutdown : Deed → Bool
  | .posted x => x.isShutdown
  | _ => false

/-- How many shutdowns were put on the queue. -/
def shutdowns (history : List Record) : Nat := history.countP (·.deed.isShutdown)

/-- How many handles are held, and how many shutdowns were asked for. -/
structure Tally where
  handles : Nat
  asked : Nat
deriving DecidableEq, Repr

mutual

/-- What an action makes of a tally. A shutdown is asked for on a handle, or by dropping the last
one. -/
def Action.tally : Action → Tally → Tally
  | .shutdown, k => if k.handles = 0 then k else { k with asked := k.asked + 1 }
  | .clone, k => if k.handles = 0 then k else { k with handles := k.handles + 1 }
  | .drop, k =>
    if k.handles = 0 then k
    else if k.handles = 1 then { handles := 0, asked := k.asked + 1 }
    else { k with handles := k.handles - 1 }
  | .batch actions, k => Action.tallyAll actions k
  | _, k => k

/-- What actions make of a tally, one after another. -/
def Action.tallyAll : List Action → Tally → Tally
  | [], k => k
  | a :: actions, k => Action.tallyAll actions (a.tally k)

end

/-- The tally of a session. -/
def tally (s : Session) : Tally := { handles := s.handles, asked := shutdowns s.history }

lemma shutdowns_cons (r : Record) (h : List Record) :
    shutdowns (r :: h) = shutdowns h + if r.deed.isShutdown then 1 else 0 := List.countP_cons

lemma shutdowns_append (h h' : List Record) :
    shutdowns (h ++ h') = shutdowns h + shutdowns h' := List.countP_append

lemma tally_eq (hdesk : t.desk = s.desk)
    (hasked : shutdowns t.history = shutdowns s.history) : t.tally = s.tally := by
  rw [tally, tally, show t.handles = s.handles from congrArg Desk.handles hdesk, hasked]

lemma tally_post (s : Session) {x : Signal} (hx : x.isShutdown = false) :
    (s.post x).tally = s.tally := by
  refine tally_eq (post_desk s x) ?_
  rw [post_history]
  split
  · simp [shutdowns_cons, Deed.isShutdown, hx]
  · rfl

lemma tally_post_shutdown (h : s.running) :
    (s.post .shutdown).tally = { s.tally with asked := s.tally.asked + 1 } := by
  have hhandles : (s.post .shutdown).handles = s.handles := congrArg Desk.handles (post_desk s _)
  simp [tally, hhandles, post_history, h, shutdowns_cons, Deed.isShutdown, Signal.isShutdown]

lemma tally_hear (s : Session) (es : List TransportEvent) : (s.hear es).tally = s.tally := by
  induction es generalizing s with
  | nil => rfl
  | cons e es ih => rw [hear_cons, ih, tally_post s rfl]

lemma tally_handIfOpen (s : Session) (f : Frame) (o : Origin) :
    (s.handIfOpen f o).tally = s.tally := by
  rw [handIfOpen]
  split
  · exact tally_eq rfl (by simp [shutdowns_cons, Deed.isShutdown])
  · rfl

lemma tally_wake (s : Session) (w : Worker) : (s.wake w).tally = s.tally :=
  tally_eq (by simp) (by simp)

lemma tally_releaseKept (s : Session) : s.releaseKept.tally = s.tally := by
  rw [releaseKept]
  split
  · exact tally_wake _ _
  · rfl

lemma tally_publishAll (s : Session) (statuses : List NetworkStatus) :
    (statuses.foldl publish s).tally = s.tally := by
  induction statuses generalizing s with
  | nil => rfl
  | cons status statuses ih =>
      refine (ih _).trans ?_
      rw [publish]
      split
      · split
        · exact tally_wake _ _
        · rfl
      · rfl

/-- A call on a handle. -/
lemma tally_onHandle {call : Session → Session × Reply} {k : Tally}
    (h : s.handles ≠ 0 → (call s).1.tally = k) :
    (s.onHandle call).1.tally = if s.handles = 0 then s.tally else k := by
  rw [onHandle]
  by_cases hs : s.handles = 0
  · rw [if_pos hs, if_pos hs]
  · rw [if_neg hs, if_neg hs, h hs]

lemma tally_onHandle_self {call : Session → Session × Reply} (h : (call s).1.tally = s.tally) :
    (s.onHandle call).1.tally = s.tally := by
  rw [tally_onHandle fun _ => h, ite_self]

lemma tally_signal (s : Session) {x : Signal} (hx : x.isShutdown = false) :
    (s.signal x).1.tally = s.tally := by
  rw [signal]
  split
  · exact tally_post s hx
  · rfl

lemma tally_dropHandle (h : s.running) :
    s.dropHandle.1.tally = Action.tally .drop s.tally := by
  rw [dropHandle, Action.tally]
  split
  next hzero => simp [tally, hzero]
  next hone =>
    have hpost : ({ s with handles := 0 }.post .shutdown).tally =
        { { s with handles := 0 }.tally with asked := s.tally.asked + 1 } :=
      tally_post_shutdown h
    rw [hpost]
    simp [tally, hone]
  next n hmore => simp [tally, hmore]

mutual

/-- **What is asked for.** Over a running driver an action does to handles and shutdowns what its tally
says. -/
lemma tally_perform {s : Session} (h : s.running) : ∀ a : Action, (s.perform a).1.tally = a.tally s.tally
  | .connect | .forceReconnect | .network _ => by
      simp only [perform, Action.tally]
      exact tally_onHandle_self (tally_signal s rfl)
  | .send _ | .sync => by
      simp only [perform, Action.tally]
      exact tally_onHandle_self (tally_handIfOpen s _ _)
  | .isOpen | .url => by
      simp only [perform, Action.tally]
      exact tally_onHandle_self rfl
  | .shutdown => by
      simp only [perform, Action.tally]
      exact tally_onHandle fun _ => tally_post_shutdown h
  | .inspect => by
      simp only [perform, Action.tally]
      exact tally_onHandle_self (tally_post s rfl)
  | .on .. => by
      simp only [perform, Action.tally]
      refine tally_onHandle_self ?_
      split
      · exact tally_signal s rfl
      · rfl
  | .onMessage .. | .onReconnect .. | .onDisconnect .. => by
      simp only [perform, Action.tally]
      exact tally_onHandle_self (tally_signal s rfl)
  | .clone => by
      simp only [perform, Action.tally]
      exact tally_onHandle fun _ => rfl
  | .drop => by
      simp only [perform]
      exact tally_dropHandle h
  | .watch => by
      simp only [perform, Action.tally]
      exact tally_onHandle_self ((tally_wake _ _).trans (tally_releaseKept s))
  | .lineOpens | .lineDrops | .lineFires _ => by
      simp only [perform, Action.tally]
      exact tally_hear _ _
  | .lineMoves _ | .lineReacts .. => by
      simp only [perform, Action.tally]
      rfl
  | .publish statuses => by
      simp only [perform, Action.tally]
      exact tally_publishAll s statuses
  | .endWatch => by
      simp only [perform, Action.tally]
      exact tally_releaseKept s
  | .batch actions => by
      simp only [perform, Action.tally]
      exact tally_performAll h actions

lemma tally_performAll {s : Session} (h : s.running) :
    ∀ actions : List Action, (s.performAll actions).1.tally = Action.tallyAll actions s.tally
  | [] => by simp [performAll, Action.tallyAll]
  | a :: actions => by
      have hrunning : (s.perform a).1.running := by rw [(perform_traffic s a).running, h]
      simp only [performAll, Action.tallyAll]
      rw [tally_performAll hrunning actions, tally_perform h a]

end

/-- Strokes ask for nothing. -/
lemma Strokes.tally (h : Strokes p s t) : t.tally = s.tally := by
  have hflow : Flow (fun d => !d.isShutdown) s t :=
    h.flow (fun _ => rfl) fun d hd _ => by cases d <;> simp_all [Deed.isOwn, Deed.isShutdown]
  obtain ⟨new, hnew, -, hr⟩ := hflow.entries
  have hzero : shutdowns new = 0 :=
    List.countP_eq_zero.mpr fun r hmem => by simpa using hr r hmem
  exact tally_eq (h.spared Stroke.desk) (by rw [hnew, shutdowns_append, hzero, Nat.zero_add])

/-- A callback was called. -/
def Deed.isCalled : Deed → Bool
  | .called .. => true
  | _ => false

/-- What the application does in a move of a session: the action from outside, or the script of the
callback that the driver calls, as the new entries of the history tell. -/
inductive Does (s : Session) : Move → List Action → Prop
  | act (a : Action) : Does s (.act a) [a]
  | call {new : List Record} {notice : Notice} {c : Callback}
      (entries : (s.move .drive).history = new ++ s.history)
      (called : ∃ r ∈ new, ∃ did, r.deed = .called c.tag c.view notice did)
      (held : s.life.callbacks.receiver notice = some c) : Does s .drive c.script
  | nothing {m : Move} {new : List Record} (own : ∀ a, m ≠ .act a)
      (entries : (s.move m).history = new ++ s.history)
      (uncalled : ∀ r ∈ new, r.deed.isCalled = false) : Does s m []

lemma Strokes.uncalled (h : Strokes p s t) :
    ∃ new, t.history = new ++ s.history ∧ ∀ r ∈ new, r.deed.isCalled = false := by
  have hflow : Flow (fun d => !d.isCalled) s t :=
    h.flow (fun _ => rfl) fun d hd _ => by cases d <;> simp_all [Deed.isOwn, Deed.isCalled]
  obtain ⟨new, hnew, -, hr⟩ := hflow.entries
  exact ⟨new, hnew, fun r hmem => by simpa using hr r hmem⟩

/-- What the application's actions change by `effect`, and what nothing else that the driver does
changes. -/
structure Governed {α : Type} (view : Session → α) (effect : List Action → α → α) : Prop where
  nil (a : α) : effect [] a = a
  script {s : Session} (h : s.running) (actions : List Action) :
    view (s.performAll actions).1 = effect actions (view s)
  strokes {s t : Session} (h : Strokes (fun _ => True) s t) : view t = view s
  call (s : Session) (tag : String) (shown : View) (notice : Notice) (did : List Reply) :
    view (s.note (.called tag shown notice did)) = view s
  take (s : Session) (rest : List Signal) (x : Signal) :
    view ({ s with queue := rest }.note (.took x)) = view s
  stop (s : Session) : view s.stop = view s
  pass (s : Session) (duration : Time) : view (s.pass duration) = view s

namespace Governed

variable {α : Type} {view : Session → α} {effect : List Action → α → α}

/-- A move in which the application does nothing. -/
lemma nothing (hg : Governed view effect) {m : Move} (hown : ∀ a, m ≠ .act a)
    (hentries : ∃ new, (s.move m).history = new ++ s.history ∧ ∀ r ∈ new, r.deed.isCalled = false)
    (hview : view (s.move m) = view s) :
    ∃ script, Does s m script ∧ view (s.move m) = effect script (view s) := by
  obtain ⟨new, hnew, hr⟩ := hentries
  exact ⟨[], .nothing hown hnew hr, by rw [hview, hg.nil]⟩

/-- In an exchange, after entries that are no calls, the application does what the script of the
callback says. -/
lemma exchange (hg : Governed view effect) (h : Exchange (fun _ => True) u (s.move .drive))
    {pre : List Record}
    (hentries : u.history = pre ++ s.history) (huncalled : ∀ r ∈ pre, r.deed.isCalled = false)
    (hcallbacks : u.life.callbacks = s.life.callbacks) (hview : view u = view s)
    (hrunning : u.running) :
    ∃ script, Does s .drive script ∧ view (s.move .drive) = effect script (view s) := by
  cases h with
  | silent h =>
      obtain ⟨new, hnew, hr⟩ := h.uncalled
      refine hg.nothing nofun ⟨new ++ pre, ?_, fun r hmem => ?_⟩ ((hg.strokes h).trans hview)
      · rw [hnew, hentries, List.append_assoc]
      · rcases List.mem_append.mp hmem with hmem | hmem
        · exact hr r hmem
        · exact huncalled r hmem
  | @call a b notice c before line held _ called after =>
      have hflow : ∀ {s t}, Strokes (fun _ => True) s t → Flow (fun _ => true) s t := fun h =>
        h.flow (fun _ => rfl) fun _ _ _ => rfl
      have hscript := hg.script (s := a) (by rw [(hflow before).running, hrunning]) c.script
      have hcalled : view b = view (a.performAll c.script).1 := by
        rw [called, hg.call]
      obtain ⟨new, hbefore, -⟩ := (hflow before).entries
      obtain ⟨new', htraffic, -⟩ := (performAll_flow a c.script).entries
      obtain ⟨new'', hafter, -⟩ := (hflow after).entries
      let call : Record :=
        { time := (a.performAll c.script).1.now
          deed := .called c.tag c.view notice (a.performAll c.script).2 }
      have hall : (s.move .drive).history =
          (new'' ++ call :: (new' ++ (new ++ pre))) ++ s.history := by
        rw [hafter, called, note_history, htraffic, hbefore, hentries]
        simp [call]
      refine ⟨c.script, .call hall ⟨call, by simp, _, rfl⟩ (hcallbacks ▸ held), ?_⟩
      rw [hg.strokes after, hcalled, hscript, hg.strokes before, hview]

/-- The driver's end is nobody's doing but the shutdown's. -/
lemma atStop (hg : Governed view effect) {rest : List Signal}
    (hmove : s.move .drive = ({ s with queue := rest }.note (.took .shutdown)).stop) :
    ∃ script, Does s .drive script ∧ view (s.move .drive) = effect script (view s) := by
  have hhistory := stop_history ({ s with queue := rest }.note (.took .shutdown))
  rw [← hmove, note_history, List.append_cons, List.append_cons] at hhistory
  refine hg.nothing nofun ⟨_, hhistory, ?_⟩ (by rw [hmove, hg.stop, hg.take])
  cases hs : s.life.started <;> simp [hs, Deed.isCalled]

/-- **Only the application acts.** Over a running driver, whatever the move but for the turn of a watcher,
what is governed is what the application's actions make of it. -/
lemma exists_does (hg : Governed view effect) (h : s.running) {m : Move} (hm : ∀ id, m ≠ .watch id) :
    ∃ script, Does s m script ∧ view (s.move m) = effect script (view s) := by
  cases m with
  | act a =>
      have hperform := hg.script h [a]
      simp only [performAll] at hperform
      exact ⟨[a], .act a, hperform⟩
  | drive =>
      cases hdrive : s.drive? with
      | none =>
          have hsame : s.move .drive = s := by simp [move, hdrive]
          exact hg.nothing (by simp) ⟨[], by rw [hsame, List.nil_append], by simp⟩ (by rw [hsame])
      | some t =>
          have hmove : s.move .drive = t := by simp [move, hdrive]
          obtain ⟨-, ⟨rest, -, hstop⟩ | ⟨x, rest, -, -, hex⟩ | ⟨-, hex⟩⟩ := drive?_exchange hdrive
          · exact hg.atStop (hmove.trans hstop)
          · rw [← hmove] at hex
            exact hg.exchange hex (List.singleton_append).symm (by simp [Deed.isCalled]) rfl
              (hg.take s rest x) h
          · rw [← hmove] at hex
            exact hg.exchange hex (List.nil_append _).symm (by simp) rfl rfl h
  | watch id => exact absurd rfl (hm id)
  | pass duration =>
      refine hg.nothing (by simp) ⟨[], ?_, by simp⟩ (hg.pass s duration)
      simp [move, Session.pass]

end Governed

lemma Traffic.uncalled (h : Traffic s t) :
    ∃ new, t.history = new ++ s.history ∧ ∀ r ∈ new, r.deed.isCalled = false := by
  obtain ⟨new, hnew, hr⟩ := h.history
  refine ⟨new, hnew, fun r hmem => ?_⟩
  have htraffic := (hr r hmem).1
  simp only [Deed.isTraffic] at htraffic
  split at htraffic <;> simp_all [Deed.isCalled]

lemma tally_watch (s : Session) (id : Nat) : (s.watch id).tally = s.tally := by
  rw [watch]
  split
  · rfl
  next w _ =>
    obtain ⟨news, w'⟩ := w.turn s.running
    cases news with
    | none => rfl
    | some status => exact tally_post _ rfl

lemma governed_tally : Governed tally Action.tallyAll where
  nil a := by rw [Action.tallyAll]
  script h actions := tally_performAll h actions
  strokes h := h.tally
  call s tag shown notice did := tally_eq rfl (by simp [shutdowns_cons, Deed.isShutdown])
  take s rest x := tally_eq rfl (by simp [shutdowns_cons, Deed.isShutdown])
  stop s := by
    refine tally_eq (stop_desk s) ?_
    rw [stop_history]
    cases hs : s.life.started <;> simp [shutdowns_cons, Deed.isShutdown]
  pass _ _ := tally_wake _ _

/-- **Only the application asks.** Over a running driver, handles and shutdowns are what the
application's actions make of them, whatever the move. -/
lemma exists_does (h : s.running) (m : Move) :
    ∃ script, Does s m script ∧ (s.move m).tally = Action.tallyAll script s.tally := by
  cases m with
  | watch id =>
      exact governed_tally.nothing (by simp)
        (Touches.traffic (p := fun _ => True) (watch_touches s id)).uncalled (tally_watch s id)
  | act | drive | pass => exact governed_tally.exists_does h nofun

/-! ### What is pending -/

mutual

/-- Whoever drops the last handle asks for a shutdown. -/
lemma Action.asked_tally :
    ∀ (a : Action) {k : Tally}, (k.handles = 0 → 0 < k.asked) →
      (a.tally k).handles = 0 → 0 < (a.tally k).asked
  | .shutdown, k, hk => by
      simp only [tally]
      split <;> simp_all
  | .clone, k, hk => by
      simp only [tally]
      split <;> simp_all
  | .drop, k, hk => by
      simp only [tally]
      split
      · exact hk
      · split
        · simp
        · intro hzero
          dsimp only at hzero
          omega
  | .batch actions, k, hk => by
      simp only [tally]
      exact Action.asked_tallyAll actions hk
  | .connect, k, hk | .forceReconnect, k, hk | .network _, k, hk | .send _, k, hk | .sync, k, hk
  | .isOpen, k, hk | .url, k, hk | .inspect, k, hk | .on .., k, hk | .onMessage .., k, hk
  | .onReconnect .., k, hk | .onDisconnect .., k, hk | .watch, k, hk | .lineOpens, k, hk
  | .lineDrops, k, hk | .lineMoves _, k, hk | .lineFires _, k, hk | .lineReacts .., k, hk
  | .publish _, k, hk | .endWatch, k, hk => by simpa only [tally] using hk

lemma Action.asked_tallyAll :
    ∀ (actions : List Action) {k : Tally}, (k.handles = 0 → 0 < k.asked) →
      (Action.tallyAll actions k).handles = 0 → 0 < (Action.tallyAll actions k).asked
  | [], _, hk => by simpa only [tallyAll] using hk
  | a :: actions, _, hk => by
      simp only [tallyAll]
      exact Action.asked_tallyAll actions (Action.asked_tally a hk)

end

/-- A running driver has every shutdown that was asked for in its queue, and one that has ended was
asked to end. -/
structure Expectant (s : Session) : Prop where
  queued : s.running → s.queue.countP (·.isShutdown) = shutdowns s.history
  ended : s.running = false → 0 < shutdowns s.history

lemma countP_postings (h : List Record) :
    (postings h).countP (·.isShutdown) = shutdowns h := by
  rw [postings, List.countP_reverse, List.countP_filterMap, shutdowns]
  refine List.countP_congr fun r _ => ?_
  cases hd : r.deed <;> simp [Deed.posted?, Deed.isShutdown]

lemma Flow.expectant {q : Deed → Bool} (h : Flow q s t) (hs : Expectant s) : Expectant t := by
  obtain ⟨new, hnew, hqueue, -⟩ := h.entries
  refine ⟨fun hrunning => ?_, fun hended => ?_⟩
  · rw [hqueue, hnew, List.countP_append, hs.queued (h.running ▸ hrunning), countP_postings,
      shutdowns_append, Nat.add_comm]
  · have hpos := hs.ended (h.running ▸ hended)
    rw [hnew, shutdowns_append]
    omega

lemma expectant_invariant : Invariant (fun _ => True) Expectant where
  touch h ht := ht.flow.expectant h
  drive {s t} h ht := by
    obtain ⟨hrunning, ⟨rest, hqueue, rfl⟩ | ⟨x, rest, hqueue, hx, hex⟩ | ⟨-, hex⟩⟩ :=
      drive?_exchange ht
    · have hcount := h.queued hrunning
      rw [hqueue, List.countP_cons_of_pos rfl] at hcount
      refine ⟨by simp, fun _ => ?_⟩
      have hpos : 0 < shutdowns s.history := by omega
      rw [stop_history, note_history, shutdowns_append, shutdowns_cons, shutdowns_cons]
      exact Nat.lt_of_lt_of_le hpos (by dsimp only; omega)
    · have hcount := h.queued hrunning
      rw [hqueue, List.countP_cons_of_neg (by simp [hx])] at hcount
      refine hex.flow.expectant ⟨fun _ => ?_, fun hended => ?_⟩
      · rw [note_history, shutdowns_cons, ← hcount]
        rfl
      · simp [hrunning] at hended
    · exact hex.flow.expectant h
  pass _ h := ⟨h.queued, h.ended⟩

lemma expectant_run (now : Time) (line : Line) (moves : List Move) :
    Expectant ((fresh now line).run moves) :=
  expectant_invariant.run ⟨fun _ => rfl, by simp [fresh]⟩ fun m _ => m.within_of_forall fun _ => trivial

/-! ### The aftermath -/

/-- Since the driver ended, the application may have handed frames to the line; nothing else was done. -/
structure Aftermath (s t : Session) : Prop where
  running : t.running = false
  queue : t.queue = s.queue
  life : t.life = s.life
  entries : ∃ new, t.history = new ++ s.history ∧
    ∀ r ∈ new, ∃ frame, r.deed = .handed frame .application

lemma Aftermath.refl (h : s.running = false) : Aftermath s s := ⟨h, rfl, rfl, [], rfl, nofun⟩

/-- Nothing that matters has changed. -/
lemma Aftermath.aside (h : Aftermath s t) (hrunning : u.running = t.running)
    (hqueue : u.queue = t.queue) (hlife : u.life = t.life) (hhistory : u.history = t.history) :
    Aftermath s u :=
  ⟨hrunning.trans h.running, hqueue.trans h.queue, hlife.trans h.life, hhistory ▸ h.entries⟩

lemma Aftermath.touch {p : Action → Prop} (h : Aftermath s t) (ht : Touch p t u) :
    Aftermath s u := by
  cases ht with
  | @post x =>
      have hlost : t.post x = t := by simp [post, h.running]
      rwa [hlost]
  | hand frame =>
      refine ⟨by simpa using h.running, by simpa using h.queue, by simpa using h.life, ?_⟩
      obtain ⟨new, hnew, hr⟩ := h.entries
      rw [handIfOpen]
      split
      · refine ⟨{ time := t.now, deed := .handed frame.encode .application } :: new, ?_, ?_⟩
        · rw [note_history, hnew, List.cons_append]
        · intro r hmem
          rcases List.mem_cons.mp hmem with rfl | hmem
          · exact ⟨_, rfl⟩
          · exact hr r hmem
      · exact ⟨new, hnew, hr⟩
  | @line line events _ =>
      have hended : { t with line }.running = false := h.running
      rw [hear_of_not_running hended]
      exact h.aside rfl rfl rfl rfl
  | aside => exact h.aside rfl rfl rfl rfl

lemma aftermath_invariant (s : Session) : Invariant (fun _ => True) (Aftermath s) where
  touch h ht := h.touch ht
  drive h ht := by
    have hrunning := (drive?_cases ht).1
    simp [h.running] at hrunning
  pass _ h := h.aside rfl rfl rfl rfl

/-- Whatever comes after the end. -/
lemma aftermath_run (h : s.running = false) (moves : List Move) : Aftermath s (s.run moves) :=
  (aftermath_invariant s).run (.refl h) fun m _ => m.within_of_forall fun _ => trivial

/-- Without a handle a shutdown was asked for. -/
lemma asked_move (he : Expectant s) (h : s.handles = 0 → 0 < shutdowns s.history) (m : Move) :
    (s.move m).handles = 0 → 0 < shutdowns (s.move m).history := by
  have hm : m.Within fun _ => True := m.within_of_forall fun _ => trivial
  intro hzero
  cases hrunning : s.running with
  | true =>
      obtain ⟨script, -, htally⟩ := exists_does hrunning m
      have hasked := Action.asked_tallyAll script (k := s.tally) h
      rw [← htally] at hasked
      exact hasked hzero
  | false =>
      have hended := ((aftermath_invariant s).move (.refl hrunning) hm).running
      exact (expectant_invariant.move he hm).ended hended

lemma asked_run (he : Expectant s) (h : s.handles = 0 → 0 < shutdowns s.history)
    (moves : List Move) : (s.run moves).handles = 0 → 0 < shutdowns (s.run moves).history := by
  induction moves generalizing s with
  | nil => exact h
  | cons m moves ih =>
      exact ih (expectant_invariant.move he (m.within_of_forall fun _ => trivial)) (asked_move he h m)

/-! ### Snapshots -/

/-- The snapshot that answered the `n`-th signal, if that was a request for one: the answer to a
request is given when so many signals were taken. -/
def answerTo (n : Nat) : List Record → Option Snapshot
  | [] => none
  | r :: older =>
    match r.deed with
    | .answered snapshot => if served older = n + 1 then some snapshot else answerTo n older
    | _ => answerTo n older

/-- What is told to whoever asked for a snapshot by the `n`-th signal: its answer, or that the channel
is closed once the driver has ended without giving one, and nothing as long as it may. -/
def told? (s : Session) (n : Nat) : Option (Except ChannelError Snapshot) :=
  match answerTo n s.history with
  | some snapshot => some (.ok snapshot)
  | none => if s.running then none else some (.error .closed)

/-- Only a signal that was taken is answered. -/
lemma answerTo_of_served_le {n : Nat} {h : List Record} (hn : served h ≤ n) :
    answerTo n h = none := by
  induction h with
  | nil => rfl
  | cons r older ih =>
      have hle : served older ≤ n := by
        rw [served, List.countP_cons] at hn
        exact Nat.le_trans (Nat.le_add_right _ _) hn
      rw [answerTo]
      split
      · rw [if_neg (by omega), ih hle]
      · exact ih hle

/-- The calls that need the driver and are answered at once: the requests, and registrations under a
known name. -/
def Action.isRequest : Action → Bool
  | .connect | .forceReconnect | .network _ | .onMessage .. | .onReconnect .. | .onDisconnect .. =>
    true
  | .on event _ _ => (NoticeKind.ofName? event).isSome
  | _ => false

/-- After the end a request is refused and leaves no trace. -/
lemma perform_request (h : s.running = false) (hhandles : s.handles ≠ 0) {a : Action}
    (ha : a.isRequest) : s.perform a = (s, .failed .closed) := by
  cases a <;> simp_all [Action.isRequest, perform, onHandle, signal]
  case on event tag script =>
    obtain ⟨kind, hkind⟩ := Option.isSome_iff_exists.mp ha
    simp [hkind]

/-- Whoever was not answered before the end is told that the channel is closed. -/
lemma Aftermath.told (h : Aftermath s t) {n : Nat} (hn : served s.history ≤ n) :
    t.told? n = some (.error .closed) := by
  obtain ⟨new, hnew, hr⟩ := h.entries
  have hserved : served new = 0 := by
    refine List.countP_eq_zero.mpr fun r hmem => ?_
    obtain ⟨frame, hframe⟩ := hr r hmem
    simp [hframe, Deed.isTook]
  have hle : served t.history ≤ n := by
    rw [hnew, served_append, hserved, Nat.zero_add]
    exact hn
  simp [told?, answerTo_of_served_le hle, h.running]

/-- The driver ends when it takes a shutdown, and in no other way. -/
lemma ends_by_shutdown (h : s.running) {m : Move} (hended : (s.move m).running = false) :
    m = .drive ∧ ∃ rest, s.queue = .shutdown :: rest := by
  cases m with
  | act a => simp [move, (perform_traffic s a).running, h] at hended
  | watch id =>
      simp [move, (Touches.traffic (p := fun _ => True) (watch_touches s id)).running, h] at hended
  | pass duration => simp [move, pass, h] at hended
  | drive =>
      refine ⟨rfl, ?_⟩
      rw [move] at hended
      cases hdrive : s.drive? with
      | none => simp [hdrive, h] at hended
      | some t =>
          rw [hdrive, Option.getD_some] at hended
          obtain ⟨-, ⟨rest, hqueue, -⟩ | ⟨x, rest, -, -, hex⟩ | ⟨-, hex⟩⟩ := drive?_exchange hdrive
          · exact ⟨rest, hqueue⟩
          · rw [hex.flow.running] at hended
            simp [h] at hended
          · rw [hex.flow.running, h] at hended
            cases hended

/-- **Shutdown happens exactly when asked for, and is final.** In every run over any line, with any
number of handles made and dropped:

* over a running driver, handles are held and shutdowns put on the queue as the application's actions
  have it, be it in callbacks or from outside; dropping a handle that is not the last does nothing
  else, and once none is held a shutdown is on the queue of a running driver;
* the driver ends only by taking a shutdown, and then it has the line disconnect once if the channel was
  started and never otherwise, and leaves nothing queued and no timer armed;
* from then on, whatever happens, nothing is done but that the application hands over frames itself:
  the driver has no further deed, whoever asked for a snapshot that was not given before, or asks for
  one later, is told that the channel is closed, and so is whoever calls anything else of the driver. -/
theorem shutdown_final (now : Time) (line : Line) (moves : List Move) :
    let s := (fresh now line).run moves
    (∀ m, s.running → ∃ script, Does s m script ∧
      (s.move m).tally = Action.tallyAll script s.tally) ∧
    (∀ n, s.handles = n + 2 → (s.perform .drop).1 = { s with handles := n + 1 }) ∧
    (s.handles = 0 → s.running → .shutdown ∈ s.queue) ∧
    (∀ m, s.running → (s.move m).running = false →
      m = .drive ∧ ∃ rest, s.queue = .shutdown :: rest) ∧
    ∀ rest, s.running → s.queue = .shutdown :: rest →
      let t := s.move .drive
      t.history = (if s.life.started then [{ time := s.now, deed := .closed }] else []) ++
        { time := s.now, deed := .ended } :: { time := s.now, deed := .took .shutdown } ::
          s.history ∧
      t.running = false ∧ t.queue = [] ∧
      t.life.retry.dueAt = none ∧ t.life.heartbeat.dueAt = none ∧
      ∀ later, let u := t.run later
        Aftermath t u ∧ u.drive? = none ∧
        (∀ n, served t.history ≤ n → u.told? n = some (.error .closed)) ∧
        (u.handles ≠ 0 → u.view? = some (.error .closed)) ∧
        ∀ a : Action, a.isRequest → u.handles ≠ 0 → u.perform a = (u, .failed .closed) := by
  intro s
  have hexpectant : Expectant s := expectant_run now line moves
  refine ⟨fun m hrunning => exists_does hrunning m, fun n hn => ?_, fun hzero hrunning => ?_,
    fun m hrunning hended => ?_, fun rest hrunning hqueue => ?_⟩
  · simp [perform, dropHandle, hn]
  · have hheld : (fresh now line).handles ≠ 0 := Nat.one_ne_zero
    have hasked : 0 < shutdowns s.history :=
      asked_run (expectant_run now line []) (absurd · hheld) moves hzero
    rw [← hexpectant.queued hrunning] at hasked
    obtain ⟨x, hx, hshutdown⟩ := List.countP_pos_iff.mp hasked
    cases x <;> simp_all [Signal.isShutdown]
  · exact ends_by_shutdown hrunning hended
  · intro t
    have ht : t = ({ s with queue := rest }.note (.took .shutdown)).stop := by
      simp only [t, move, drive?_of_queue hrunning hqueue]
      rfl
    have hrun : t.running = false := by rw [ht, stop_running]
    refine ⟨by rw [ht, stop_history]; rfl, hrun, by rw [ht, stop_queue], by rw [ht, stop_life]; rfl,
      by rw [ht, stop_life]; rfl, fun later => ?_⟩
    have hafter := aftermath_run hrun later
    refine ⟨hafter, ?_, fun n hn => hafter.told hn, fun hhandles => ?_, fun a ha hhandles => ?_⟩
    · simp [drive?, hafter.running]
    · rw [view?, if_neg hhandles, if_neg (by simp [hafter.running])]
    · exact perform_request hafter.running hhandles ha

end ResilientChannel.Session
