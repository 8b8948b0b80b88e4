import ResilientChannel.Proofs.Session.Shutdown

/-!
Every frame that is handed to the line is accounted for.

* **Bids.** A `Bid` is an attempt to hand over a frame, with the state that the line reports then. It makes
  one entry if the line is open and none otherwise (`Bid.record?`), and nothing is tried again.
* **Actions.** `bids` lists the attempts of an action, however deep its batches nest: one for each frame that
  is sent on a handle. They make all the entries of the action, and whoever sends is told whether the line was
  open (`perform_handings`, `perform_verdicts`).
* **The driver.** Its own attempts are owed to what it did: a ping for each `Connect` that it handles, after
  the callback, and one for each beat that finds the server alive (`owed`). Whatever else is handed over in
  one of its deeds comes from the script of the callback that it calls (`Exchange.asked`).
* `frames_accounted`: the frames handed over in a run are the attempts that found the line open, in order.
-/

namespace ResilientChannel.Session

variable {s t u : Session}

/-! ### Bids -/

/-- An attempt to hand a frame to the line: when and on whose behalf, and the state that the line reports
then. -/
structure Bid where
  time : Time
  frame : Frame
  origin : Origin
  state : ConnectionState

/-- The entry that a bid makes: one if the line is open, and none otherwise. -/
def Bid.record? (b : Bid) : Option Record :=
  if b.state.isOpen then some { time := b.time, deed := .handed b.frame.encode b.origin } else none

/-- A frame was handed to the line. -/
def Deed.isHanded : Deed → Bool
  | .handed .. => true
  | _ => false

/-- The frames handed to the line, in order. -/
def handings (history : List Record) : List Record := (history.filter (·.deed.isHanded)).reverse

/-- The entries that bids make. -/
def entered (bs : List Bid) : List Record := bs.filterMap Bid.record?

@[simp] lemma entered_nil : entered [] = [] := rfl

lemma entered_append (bs cs : List Bid) : entered (bs ++ cs) = entered bs ++ entered cs :=
  List.filterMap_append ..

lemma handings_append (h h' : List Record) : handings (h ++ h') = handings h' ++ handings h := by
  simp [handings]

lemma handings_cons {r : Record} (hr : r.deed.isHanded = false) (h : List Record) :
    handings (r :: h) = handings h := by
  simp [handings, hr]

lemma handings_handIfOpen (s : Session) (f : Frame) (o : Origin) :
    handings (s.handIfOpen f o).history =
      handings s.history ++ entered [{ time := s.now, frame := f, origin := o, state := s.line.state }] := by
  rw [handIfOpen]
  split
  next hopen => simp [handings, entered, Bid.record?, Deed.isHanded, hopen]
  next hclosed => simp [entered, Bid.record?, hclosed]

/-! ### Actions -/

mutual

/-- The bids of an action: one for each frame that it sends on a handle. -/
def bids (s : Session) : Action → List Bid
  | .send frame =>
    if s.handles = 0 then []
    else [{ time := s.now, frame, origin := .application, state := s.line.state }]
  | .sync =>
    if s.handles = 0 then []
    else [{ time := s.now, frame := .ping, origin := .application, state := s.line.state }]
  | .batch actions => s.bidsAll actions
  | _ => []

/-- The bids of actions, one after another. -/
def bidsAll (s : Session) : List Action → List Bid
  | [] => []
  | a :: actions => s.bids a ++ (s.perform a).1.bidsAll actions

end

mutual

/-- What an action that sends is told. -/
def verdicts : Action → Reply → List Bool
  | .send _, .flag told | .sync, .flag told => [told]
  | .batch actions, .many replies => verdictsAll actions replies
  | _, _ => []

/-- What those among actions are told that send. -/
def verdictsAll : List Action → List Reply → List Bool
  | a :: actions, r :: replies => verdicts a r ++ verdictsAll actions replies
  | _, _ => []

end

lemma handings_post (s : Session) (x : Signal) :
    handings (s.post x).history = handings s.history := by
  rw [post_history]
  split
  · exact handings_cons rfl _
  · rfl

lemma handings_hear (s : Session) (es : List TransportEvent) :
    handings (s.hear es).history = handings s.history := by
  induction es generalizing s with
  | nil => rfl
  | cons e es ih => rw [hear_cons, ih, handings_post]

lemma handings_signal (s : Session) (x : Signal) :
    handings (s.signal x).1.history = handings s.history := by
  rw [signal]
  split
  · exact handings_post s x
  · rfl

lemma releaseKept_history (s : Session) : s.releaseKept.history = s.history := by
  rw [releaseKept]
  split
  · exact wake_history _ _
  · rfl

lemma publishAll_history (s : Session) (statuses : List NetworkStatus) :
    (statuses.foldl publish s).history = s.history := by
  induction statuses generalizing s with
  | nil => rfl
  | cons status statuses ih =>
      refine (ih _).trans ?_
      rw [publish]
      split
      · split
        · exact wake_history _ _
        · rfl
      · rfl

lemma handings_dropHandle (s : Session) :
    handings s.dropHandle.1.history = handings s.history := by
  rw [dropHandle]
  split
  · rfl
  · exact handings_post _ _
  · rfl

/-- A call on a handle that hands nothing over. -/
lemma handings_onHandle {call : Session → Session × Reply}
    (h : handings (call s).1.history = handings s.history) :
    handings (s.onHandle call).1.history = handings s.history ++ entered [] := by
  rw [onHandle, entered_nil, List.append_nil]
  split
  · rfl
  · exact h

/-- A call on a handle that sends a frame. -/
lemma handings_onHandle_send (s : Session) (f : Frame) :
    handings (s.onHandle (·.send f)).1.history =
      handings s.history ++ entered (if s.handles = 0 then []
        else [{ time := s.now, frame := f, origin := .application, state := s.line.state }]) := by
  rw [onHandle]
  split
  · exact (List.append_nil _).symm
  · exact handings_handIfOpen s f .application

mutual

/-- **What an action hands over** are its bids that find the line open. -/
lemma perform_handings (s : Session) :
    ∀ a : Action, handings (s.perform a).1.history = handings s.history ++ entered (s.bids a)
  | .connect | .forceReconnect | .network _ => by
      simp only [perform, bids]
      exact handings_onHandle (handings_signal s _)
  | .send f => by
      simp only [perform, bids]
      exact handings_onHandle_send s f
  | .sync => by
      simp only [perform, bids]
      exact handings_onHandle_send s .ping
  | .isOpen | .url | .clone => by
      simp only [perform, bids]
      exact handings_onHandle rfl
  | .shutdown | .inspect => by
      simp only [perform, bids]
      exact handings_onHandle (handings_post s _)
  | .on .. => by
      simp only [perform, bids]
      refine handings_onHandle ?_
      split
      · exact handings_signal s _
      · rfl
  | .onMessage .. | .onReconnect .. | .onDisconnect .. => by
      simp only [perform, bids]
      exact handings_onHandle (handings_signal s _)
  | .drop => by
      simp only [perform, bids]
      exact (handings_dropHandle s).trans (List.append_nil _).symm
  | .watch => by
      simp only [perform, bids]
      refine handings_onHandle (congrArg handings ?_)
      exact (wake_history _ _).trans (releaseKept_history s)
  | .lineOpens | .lineDrops | .lineFires _ => by
      simp only [perform, bids]
      exact (handings_hear _ _).trans (List.append_nil _).symm
  | .lineMoves _ | .lineReacts .. => by
      simp only [perform, bids]
      exact (List.append_nil _).symm
  | .publish statuses => by
      simp only [perform, bids]
      rw [publishAll_history, entered_nil, List.append_nil]
  | .endWatch => by
      simp only [perform, bids]
      rw [releaseKept_history, entered_nil, List.append_nil]
  | .batch actions => by
      simp only [perform, bids]
      exact performAll_handings s actions

lemma performAll_handings (s : Session) :
    ∀ actions : List Action,
      handings (s.performAll actions).1.history = handings s.history ++ entered (s.bidsAll actions)
  | [] => by
      simp only [performAll, bidsAll, entered_nil, List.append_nil]
  | a :: actions => by
      simp only [performAll, bidsAll]
      rw [performAll_handings _ actions, perform_handings s a, entered_append, List.append_assoc]

end

mutual

/-- **Whoever sends is told whether the line is open.** -/
lemma perform_verdicts (s : Session) :
    ∀ a : Action, verdicts a (s.perform a).2 = (s.bids a).map (·.state.isOpen)
  | .send _ | .sync => by
      simp only [perform, bids, onHandle]
      split <;> simp [verdicts, send]
  | .batch actions => by
      simp only [perform, bids, verdicts]
      exact performAll_verdicts s actions
  | .connect | .forceReconnect | .network _ | .isOpen | .url | .shutdown | .inspect | .on ..
  | .onMessage .. | .onReconnect .. | .onDisconnect .. | .clone | .drop | .watch | .lineOpens
  | .lineDrops | .lineMoves _ | .lineFires _ | .lineReacts .. | .publish _ | .endWatch => by
      simp only [bids, verdicts, List.map_nil]

lemma performAll_verdicts (s : Session) :
    ∀ actions : List Action,
      verdictsAll actions (s.performAll actions).2 = (s.bidsAll actions).map (·.state.isOpen)
  | [] => by
      simp only [bidsAll, verdictsAll, List.map_nil]
  | a :: actions => by
      simp only [performAll, bidsAll, verdictsAll, List.map_append]
      rw [perform_verdicts s a, performAll_verdicts _ actions]

end

/-! ### The driver -/

/-- On whose behalf the driver owes a ping after a deed: that of the `Connect` that it handles, or of the beat
that found the server alive. -/
def Deed.owes? : Deed → Option Origin
  | .took (.transport .connect) => some .sync
  | .beat .ping => some .beat
  | _ => none

/-- The pings that are owed after deeds, in order. -/
def owed (history : List Record) : List Origin := (history.filterMap (·.deed.owes?)).reverse

/-- An entry that hands nothing over and owes nothing. -/
def Deed.isFree (d : Deed) : Bool := !d.isHanded && d.owes?.isNone

/-- An entry that hands nothing over, owes nothing and calls nobody. -/
def Deed.isTacit (d : Deed) : Bool := d.isFree && !d.isCalled

lemma Deed.isTacit_iff {d : Deed} :
    d.isTacit ↔ d.isHanded = false ∧ d.isCalled = false ∧ d.owes? = none := by
  simp [isTacit, isFree, and_right_comm, and_assoc]

lemma Deed.isFree_of_isUpheaval {d : Deed} (h : d.isUpheaval) : d.isFree := by
  simp only [isUpheaval] at h
  split at h <;> first | rfl | cases h

/-- A `Connect` alone is owed a ping. -/
lemma Deed.isTacit_took {x : Signal} (hx : x ≠ .transport .connect) : (Deed.took x).isTacit := by
  refine isTacit_iff.mpr ⟨rfl, rfl, ?_⟩
  simp only [owes?]
  split <;> simp_all

/-- Nothing but a `Connect` leads to a ping when it is handled. -/
lemma Signal.Licenses.isFree {x : Signal} {d : Deed} (h : x.Licenses d)
    (hx : x ≠ .transport .connect) : d.isFree := by
  cases h with
  | taken => exact (Bool.and_eq_true_iff.mp (Deed.isTacit_took hx)).1
  | start | message | acceleration | answer => rfl
  | greeting | sync => exact absurd rfl hx
  | loss h => exact Deed.isFree_of_isUpheaval (Deed.isUpheaval_of_isSetback h)
  | force h | network h => exact Deed.isFree_of_isUpheaval h

/-- Strokes call nobody. -/
lemma Strokes.tacit (h : Strokes (Deed.isFree ·) s t) :
    ∃ new, t.history = new ++ s.history ∧ ∀ r ∈ new, r.deed.isTacit := by
  have hflow : Flow Deed.isTacit s t := h.flow (fun _ => rfl) fun d hown hd => by
    have huncalled : d.isCalled = false := by cases d <;> simp_all [Deed.isOwn, Deed.isCalled]
    simp [Deed.isTacit, hd, huncalled]
  obtain ⟨new, hnew, -, hr⟩ := hflow.entries
  exact ⟨new, hnew, hr⟩

lemma handings_tacit {new : List Record} (hnew : ∀ r ∈ new, r.deed.isTacit) (h : List Record) :
    handings (new ++ h) = handings h := by
  have hnone : handings new = [] := by
    refine List.reverse_eq_nil_iff.mpr (List.filter_eq_nil_iff.mpr fun r hmem => ?_)
    simp [(Deed.isTacit_iff.mp (hnew r hmem)).1]
  rw [handings_append, hnone, List.append_nil]

/-! ### Moves -/

/-- The bids of the callback that the driver calls in a move with these new entries, if it calls one. Its
script is taken over the line as it was before the move, or as it was torn down in it. -/
inductive Asked (s : Session) (new : List Record) : List Bid → Prop
  | nobody (uncalled : ∀ r ∈ new, r.deed.isCalled = false) : Asked s new []
  | callback {u : Session} {notice : Notice} {c : Callback} {earlier later : List Record}
      (held : s.life.callbacks.receiver notice = some c) (now : u.now = s.now)
      (handles : u.handles = s.handles) (line : u.line = s.line ∨ u.line = s.line.disconnect.1)
      (before : u.history = earlier ++ s.history) (tacit : ∀ r ∈ earlier, r.deed.isHanded = false)
      (called : new ++ s.history = later ++
        { time := s.now, deed := .called c.tag c.view notice (u.performAll c.script).2 } ::
          (u.performAll c.script).1.history) : Asked s new (u.bidsAll c.script)

/-- The bids of a move: those of the action from outside, or those of the callback that the driver calls and
then the pings that it owes for its deeds. -/
inductive Bids (s : Session) : Move → List Bid → Prop
  | act (a : Action) : Bids s (.act a) (s.bids a)
  | own {m : Move} {new : List Record} {asked : List Bid} (hown : ∀ a, m ≠ .act a)
      (entries : (s.move m).history = new ++ s.history) (script : Asked s new asked) :
      Bids s m (asked ++ (owed new).map fun origin =>
        { time := s.now, frame := .ping, origin, state := (s.move m).line.state })

/-- The bids of a run. -/
inductive Account : Session → List Move → List Bid → Prop
  | nil {s : Session} : Account s [] []
  | cons {s : Session} {m : Move} {moves : List Move} {bs rest : List Bid} (first : Bids s m bs)
      (later : Account (s.move m) moves rest) : Account s (m :: moves) (bs ++ rest)

section Moves

variable {new first last : List Record} {bs : List Bid}

lemma owed_append (h h' : List Record) : owed (h ++ h') = owed h' ++ owed h := by
  simp [owed]

lemma owed_eq_nil (h : ∀ r ∈ new, r.deed.owes? = none) : owed new = [] := by
  rw [owed, List.filterMap_eq_nil_iff.mpr h, List.reverse_nil]

/-- Traffic calls nobody and owes nothing. -/
lemma Deed.of_isTraffic {d : Deed} (h : d.isTraffic) : d.isCalled = false ∧ d.owes? = none := by
  cases d <;> simp_all [isTraffic, isCalled, owes?]

lemma owed_tacit (h : ∀ r ∈ new, r.deed.isTacit) : owed new = [] :=
  owed_eq_nil fun r hmem => (Deed.isTacit_iff.mp (h r hmem)).2.2

lemma Traffic.owed_uncalled (h : Traffic s t) :
    ∃ new, t.history = new ++ s.history ∧ owed new = [] ∧ ∀ r ∈ new, r.deed.isCalled = false := by
  obtain ⟨new, hnew, hr⟩ := h.history
  exact ⟨new, hnew, owed_eq_nil fun r hmem => (Deed.of_isTraffic (hr r hmem).1).2,
    fun r hmem => (Deed.of_isTraffic (hr r hmem).1).1⟩

/-- The new entries tell of the callback, and the bids of its script are all that is handed over. -/
lemma Exchange.asked (h : Exchange (Deed.isFree ·) s t) :
    ∃ new bs, t.history = new ++ s.history ∧ owed new = [] ∧ Asked s new bs ∧
      handings t.history = handings s.history ++ entered bs := by
  cases h with
  | silent h =>
      obtain ⟨new, hnew, hr⟩ := h.tacit
      refine ⟨new, [], hnew, owed_tacit hr,
        .nobody fun r hmem => (Deed.isTacit_iff.mp (hr r hmem)).2.1, ?_⟩
      rw [hnew, handings_tacit hr, entered_nil, List.append_nil]
  | @call u v notice c before line held _ called after =>
      obtain ⟨earlier, hearlier, hbefore⟩ := before.tacit
      have htraffic := performAll_traffic u c.script
      obtain ⟨script, hscript, hr⟩ := htraffic.history
      obtain ⟨later, hlater, hafter⟩ := after.tacit
      have hnow : u.now = s.now := before.spared Stroke.now
      have hhandles : u.handles = s.handles := congrArg Desk.handles (before.spared Stroke.desk)
      let call : Record :=
        { time := s.now, deed := .called c.tag c.view notice (u.performAll c.script).2 }
      have hcalled : t.history = later ++ call :: (u.performAll c.script).1.history := by
        rw [hlater, called, note_history, htraffic.now, hnow]
      have hall : t.history = (later ++ call :: (script ++ earlier)) ++ s.history := by
        rw [hcalled, hscript, hearlier]
        simp
      refine ⟨_, _, hall, owed_eq_nil fun r hmem => ?_, .callback held hnow hhandles
        (line.imp_right And.right) hearlier (fun r hmem => (Deed.isTacit_iff.mp (hbefore r hmem)).1)
        (hall.symm.trans hcalled), ?_⟩
      · simp only [List.mem_cons, List.mem_append] at hmem
        rcases hmem with hmem | rfl | hmem | hmem
        · exact (Deed.isTacit_iff.mp (hafter r hmem)).2.2
        · rfl
        · exact (Deed.of_isTraffic (hr r hmem).1).2
        · exact (Deed.isTacit_iff.mp (hbefore r hmem)).2.2
      · rw [hcalled, handings_tacit hafter, handings_cons rfl, performAll_handings, hearlier,
          handings_tacit hbefore]

/-- Entries before and after may belong to the move as well, if they hand nothing over before the callback and
call nobody. -/
lemma Asked.extend (h : Asked t new bs) (hnow : t.now = s.now) (hhandles : t.handles = s.handles)
    (hline : t.line = s.line) (hcallbacks : t.life.callbacks = s.life.callbacks)
    (hfirst : t.history = first ++ s.history)
    (hcalm : ∀ r ∈ first, r.deed.isHanded = false ∧ r.deed.isCalled = false)
    (hlast : ∀ r ∈ last, r.deed.isCalled = false) : Asked s (last ++ (new ++ first)) bs := by
  cases h with
  | nobody uncalled =>
      refine .nobody fun r hmem => ?_
      simp only [List.mem_append] at hmem
      rcases hmem with hmem | hmem | hmem
      · exact hlast r hmem
      · exact uncalled r hmem
      · exact (hcalm r hmem).2
  | @callback u notice c earlier later held now handles line before tacit called =>
      have hbefore : u.history = (earlier ++ first) ++ s.history := by
        rw [before, hfirst, List.append_assoc]
      have hcalled : last ++ (new ++ first) ++ s.history = (last ++ later) ++
          { time := s.now, deed := .called c.tag c.view notice (u.performAll c.script).2 } ::
            (u.performAll c.script).1.history := by
        rw [List.append_assoc last later, ← hnow, ← called, hfirst]
        simp
      refine .callback (hcallbacks ▸ held) (now.trans hnow) (handles.trans hhandles) (hline ▸ line)
        hbefore (fun r hmem => ?_) hcalled
      rcases List.mem_append.mp hmem with hmem | hmem
      · exact tacit r hmem
      · exact (hcalm r hmem).1

/-- A move in which nobody is called and nothing handed over. -/
lemma exists_bids_of_tacit {m : Move} (hown : ∀ a, m ≠ .act a)
    (h : ∃ new, (s.move m).history = new ++ s.history ∧ ∀ r ∈ new, r.deed.isTacit) :
    ∃ bs, Bids s m bs ∧ handings (s.move m).history = handings s.history ++ entered bs := by
  obtain ⟨new, hnew, hr⟩ := h
  have hbids := Bids.own hown hnew (.nobody fun r hmem => (Deed.isTacit_iff.mp (hr r hmem)).2.1)
  rw [owed_tacit hr] at hbids
  refine ⟨_, hbids, ?_⟩
  rw [hnew, handings_tacit hr, List.map_nil, List.append_nil, entered_nil, List.append_nil]

/-- A move of the driver in which an exchange comes after some first entries. -/
lemma exists_bids_of_exchange (h : Exchange (Deed.isFree ·) t (s.move .drive))
    (hhistory : t.history = first ++ s.history) (hr : ∀ r ∈ first, r.deed.isTacit)
    (hnow : t.now = s.now) (hhandles : t.handles = s.handles) (hline : t.line = s.line)
    (hcallbacks : t.life.callbacks = s.life.callbacks) :
    ∃ bs, Bids s .drive bs ∧ handings (s.move .drive).history = handings s.history ++ entered bs := by
  obtain ⟨new, bs, hnew, howed, hasked, hhandings⟩ := h.asked
  have hall : (s.move .drive).history = ([] ++ (new ++ first)) ++ s.history := by
    rw [hnew, hhistory, List.nil_append, List.append_assoc]
  have hextended : Asked s ([] ++ (new ++ first)) bs := hasked.extend hnow hhandles hline hcallbacks hhistory
    (fun r hmem => ⟨(Deed.isTacit_iff.mp (hr r hmem)).1, (Deed.isTacit_iff.mp (hr r hmem)).2.1⟩)
    (by simp)
  have hbids := Bids.own (m := .drive) nofun hall hextended
  rw [owed_append, owed_append, howed, owed_tacit hr] at hbids
  refine ⟨_, hbids, ?_⟩
  rw [hhandings, hhistory, handings_tacit hr]
  simp [owed]

/-- A move of the driver in which a ping is owed for the first thing that it does. -/
lemma exists_bids_of_owed {r : Record} {o : Origin} (h : Exchange (Deed.isFree ·) t u)
    (hmove : s.move .drive = u.handIfOpen .ping o) (hhistory : t.history = r :: s.history)
    (hr : r.deed.owes? = some o) (hcalm : r.deed.isHanded = false ∧ r.deed.isCalled = false)
    (hnow : t.now = s.now) (hhandles : t.handles = s.handles) (hline : t.line = s.line)
    (hcallbacks : t.life.callbacks = s.life.callbacks) :
    ∃ bs, Bids s .drive bs ∧ handings (s.move .drive).history = handings s.history ++ entered bs := by
  obtain ⟨new, bs, hnew, howed, hasked, hhandings⟩ := h.asked
  obtain ⟨last, hlast, howed', huncalled⟩ := (handIfOpen_traffic u .ping o).owed_uncalled
  have hall : (s.move .drive).history = (last ++ (new ++ [r])) ++ s.history := by
    rw [hmove, hlast, hnew, hhistory]
    simp
  have hfirst : t.history = [r] ++ s.history := hhistory
  have hextended := hasked.extend hnow hhandles hline hcallbacks hfirst (by simpa using hcalm) huncalled
  refine ⟨_, .own nofun hall hextended, ?_⟩
  have howed'' : owed (last ++ (new ++ [r])) = [o] := by
    rw [owed_append, owed_append, howed, howed']
    simp [owed, hr]
  rw [howed'', hmove, handings_handIfOpen, hhandings, hhistory, handings_cons hcalm.1, h.now, hnow,
    entered_append, List.append_assoc, handIfOpen_line]
  rfl

lemma exists_bids_of_beat (hmove : s.move .drive = s.beat) :
    ∃ bs, Bids s .drive bs ∧ handings (s.move .drive).history = handings s.history ++ entered bs := by
  rw [beat] at hmove
  generalize s.life.heartbeat.tick s.now = ticked at hmove
  obtain ⟨beat, heartbeat⟩ := ticked
  dsimp only at hmove
  cases beat with
  | ping => exact exists_bids_of_owed (.silent .refl) hmove rfl rfl ⟨rfl, rfl⟩ rfl rfl rfl rfl
  | stale silentFor =>
      dsimp only at hmove
      split at hmove
      · refine exists_bids_of_tacit (by simp) ⟨[_], congrArg history hmove, ?_⟩
        simp [Deed.isTacit_iff, Deed.isHanded, Deed.isCalled, Deed.owes?]
      · have hforced := (force_exchange
          ({ s with life.heartbeat := heartbeat }.note (.beat (.stale silentFor)))).mono
            fun _ => Deed.isFree_of_isUpheaval
        rw [← hmove] at hforced
        exact exists_bids_of_exchange hforced List.singleton_append.symm
          (by simp [Deed.isTacit_iff, Deed.isHanded, Deed.isCalled, Deed.owes?]) rfl rfl rfl rfl

lemma watch_tacit (s : Session) (id : Nat) :
    ∃ new, (s.watch id).history = new ++ s.history ∧ ∀ r ∈ new, r.deed.isTacit := by
  rw [watch]
  split
  · exact ⟨[], rfl, by simp⟩
  next w _ =>
    obtain ⟨news, w'⟩ := w.turn s.running
    cases news with
    | none => exact ⟨[], rfl, by simp⟩
    | some status =>
        dsimp only
        rw [post_history]
        split
        · exact ⟨[_], rfl, by simp [Deed.isTacit_iff, Deed.isHanded, Deed.isCalled, Deed.owes?]⟩
        · exact ⟨[], rfl, by simp⟩

lemma stop_tacit (s : Session) :
    ∃ new, s.stop.history = new ++ s.history ∧ ∀ r ∈ new, r.deed.isTacit := by
  refine ⟨_, (stop_history s).trans (List.append_cons ..), fun r hmem => ?_⟩
  have hdeed : r.deed = .closed ∨ r.deed = .ended := by
    cases hs : s.life.started <;> simp_all
    rcases hmem with rfl | rfl <;> simp
  rcases hdeed with hdeed | hdeed <;> rw [hdeed] <;> rfl

lemma exists_bids_of_handle {x : Signal} {rest : List Signal}
    (hmove : s.move .drive = ({ s with queue := rest }.note (.took x)).handle x) :
    ∃ bs, Bids s .drive bs ∧ handings (s.move .drive).history = handings s.history ++ entered bs := by
  by_cases hx : x = .transport .connect
  · subst hx
    obtain ⟨u, hu, hgreet⟩ := exists_greeted (p := (Deed.isFree ·)) s rest fun _ _ _ => rfl
    exact exists_bids_of_owed hu (hmove.trans hgreet) rfl rfl ⟨rfl, rfl⟩ rfl rfl rfl rfl
  · have htook : ∀ r ∈ [({ time := s.now, deed := .took x } : Record)], r.deed.isTacit := by
      simpa using Deed.isTacit_took hx
    cases hshutdown : x.isShutdown with
    | false =>
        have hex := (handle_exchange s rest hshutdown).mono fun _ hd => hd.isFree hx
        rw [← hmove] at hex
        exact exists_bids_of_exchange hex rfl htook rfl rfl rfl rfl
    | true =>
        obtain rfl : x = .shutdown := by cases x <;> simp_all [Signal.isShutdown]
        obtain ⟨new, hnew, hr⟩ := stop_tacit ({ s with queue := rest }.note (.took .shutdown))
        rw [note_history, List.append_cons] at hnew
        refine exists_bids_of_tacit (by simp) ⟨_, (congrArg history hmove).trans hnew, fun r hmem => ?_⟩
        rcases List.mem_append.mp hmem with hmem | hmem
        · exact hr r hmem
        · exact htook r hmem

/-- **Every move has bids, and they make all its entries.** -/
lemma exists_bids (s : Session) (m : Move) :
    ∃ bs, Bids s m bs ∧ handings (s.move m).history = handings s.history ++ entered bs := by
  cases m with
  | act a => exact ⟨s.bids a, .act a, perform_handings s a⟩
  | watch id => exact exists_bids_of_tacit (by simp) (watch_tacit s id)
  | pass duration => exact exists_bids_of_tacit (by simp) ⟨[], wake_history _ _, nofun⟩
  | drive =>
      cases hdrive : s.drive? with
      | none => exact exists_bids_of_tacit (by simp) ⟨[], by simp [move, hdrive], nofun⟩
      | some t =>
          have hmove : s.move .drive = t := by simp [move, hdrive]
          obtain ⟨-, ⟨x, rest, -, rfl⟩ | ⟨-, hdue, rfl⟩ | ⟨-, -, -, rfl⟩⟩ := drive?_cases hdrive
          · exact exists_bids_of_handle hmove
          · have hretry : Exchange (Deed.isFree ·) s s.retry :=
              (retry_exchange hdue).mono (by rintro _ rfl; rfl)
            rw [← hmove] at hretry
            exact exists_bids_of_exchange hretry (List.nil_append _).symm nofun rfl rfl rfl rfl
          · exact exists_bids_of_beat hmove

/-- The frames handed over in a run are the bids of the run that found the line open. -/
lemma exists_account (s : Session) (moves : List Move) :
    ∃ bs, Account s moves bs ∧ handings (s.run moves).history = handings s.history ++ entered bs := by
  induction moves generalizing s with
  | nil => exact ⟨[], .nil, (List.append_nil _).symm⟩
  | cons m moves ih =>
      obtain ⟨bs, hbids, hhandings⟩ := exists_bids s m
      obtain ⟨rest, haccount, hrest⟩ := ih (s.move m)
      refine ⟨bs ++ rest, .cons hbids haccount, ?_⟩
      rw [entered_append, ← List.append_assoc, ← hhandings]
      exact hrest

end Moves

/-! ### The result -/

/-- **Every frame is accounted for.** In every run over any line,

* the frames handed to the line are, in order and each at its time, the bids of the run that found the line
  open. A move has the bids of the action from outside, or of the script of the callback that the driver
  calls, and then a ping for each `Connect` handled and for each beat that found the server alive; a bid that
  found the line closed makes no entry, then or later;
* an action bids once for each frame that it sends on a handle, which hands over that frame and is told that
  the line is open, or hands over nothing and is told that it is not;
* a frame is written as its data alone, as its event name, a colon and its data, or as the ping. -/
theorem frames_accounted (now : Time) (line : Line) (moves : List Move) :
    (∃ bs, Account (fresh now line) moves bs ∧
      handings ((fresh now line).run moves).history = entered bs) ∧
    (∀ (u : Session) (a : Action),
      handings (u.perform a).1.history = handings u.history ++ entered (u.bids a) ∧
        verdicts a (u.perform a).2 = (u.bids a).map (·.state.isOpen)) ∧
    (∀ data, Frame.encode { data } = data) ∧
    (∀ event data, Frame.encode { event := some event, data } = event ++ ":" ++ data) ∧
    Frame.ping.encode = "ping:" := by
  obtain ⟨bs, haccount, hhandings⟩ := exists_account (fresh now line) moves
  exact ⟨⟨bs, haccount, hhandings⟩, fun u a => ⟨perform_handings u a, perform_verdicts u a⟩,
    Frame.encode_untagged, fun _ _ => rfl, Frame.encode_ping⟩

end ResilientChannel.Session
