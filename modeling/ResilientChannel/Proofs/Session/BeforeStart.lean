import ResilientChannel.Proofs.Session.Acceleration
import ResilientChannel.Proofs.Session.HalfOpen

/-!
What a channel does before it is started.

* **The news.** That the host is online comes too late if the heartbeat is late (`NewsWhileLate`). Then the
  counter is set to one, be the channel started or not, and only a `Connect` sets it back: `misled` reads
  this off the history.
* **The invariant.** Before the start the line is neither asked to connect nor to disconnect, no loss is
  made or reported, the counter is what `misled` says, and a reconnect is reported only after such news
  (`Unstarted`).
* **Inertia.** So the lifecycle of a channel that was not started is inert throughout exactly if no such
  news was handled (`inert_iff`).
-/

namespace ResilientChannel.Session

variable {s t : Session}

/-! ### The news -/

/-- After this history the server has been silent for too long at `now`. -/
def lateAt (h : List Record) (now : Time) : Bool :=
  (lastHeard h).any (· + Parameters.staleAfter < now)

/-- The news that the host is online was handled while the heartbeat was late. -/
def NewsWhileLate (h : List Record) : Prop :=
  ∃ newer t older, h = newer ++ { time := t, deed := .took (.network .online) } :: older ∧ lateAt older t

/-- Such news was handled, and no `Connect` since. -/
def misled : List Record → Bool
  | [] => false
  | r :: older =>
    match r.deed with
    | .took (.network .online) => lateAt older r.time || misled older
    | .took (.transport .connect) => false
    | _ => misled older

lemma Pulsing.isLate (h : Pulsing s) : s.life.heartbeat.isLate s.now = lateAt s.history s.now := by
  rw [isLate_eq, h.lastActivity, lateAt]

lemma NewsWhileLate.append {h : List Record} (hnews : NewsWhileLate h) (new : List Record) :
    NewsWhileLate (new ++ h) := by
  obtain ⟨newer, t, older, rfl, hlate⟩ := hnews
  exact ⟨new ++ newer, t, older, (List.append_assoc ..).symm, hlate⟩

lemma newsWhileLate_of_misled {h : List Record} (hmisled : misled h = true) : NewsWhileLate h := by
  induction h with
  | nil => cases hmisled
  | cons r h ih =>
      have hrest : misled h = true → NewsWhileLate (r :: h) := fun hm => (ih hm).append [r]
      obtain ⟨time, deed⟩ := r
      rw [misled] at hmisled
      split at hmisled
      next honline =>
        dsimp only at honline hmisled
        subst honline
        rcases Bool.or_eq_true_iff.mp hmisled with hlate | hm
        · exact ⟨[], time, h, rfl, hlate⟩
        · exact hrest hm
      next => cases hmisled
      next => exact hrest hmisled

/-- An entry that changes nothing before the start: no such news, no `Connect`, and nothing that is done or
reported on behalf of a started channel. -/
def Deed.isUneventful : Deed → Bool
  | .took (.network .online) | .took (.transport .connect) | .opened | .closed | .lost _ | .forced
  | .called _ _ .connect _ | .called _ _ .disconnect _ => false
  | _ => true

lemma Deed.isUneventful_of_isTraffic {d : Deed} (h : d.isTraffic) : d.isUneventful := by
  cases d <;> simp_all [isTraffic, isUneventful]

/-- A deed of a started channel: it has its line connect or disconnect, or goes through a loss or a force,
or reports a disconnect. -/
def Deed.isVenture : Deed → Bool
  | .opened | .closed | .lost _ | .forced | .called _ _ .disconnect _ => true
  | _ => false

/-- A call of the connect callback. -/
def Deed.isReturn : Deed → Bool
  | .called _ _ .connect _ => true
  | _ => false

section Uneventful

variable {r : Record} (hr : r.deed.isUneventful)

include hr

lemma misled_uneventful (h : List Record) : misled (r :: h) = misled h := by
  obtain ⟨time, deed⟩ := r
  rw [misled]
  split <;> simp_all [Deed.isUneventful]

lemma not_isVenture_of_isUneventful : r.deed.isVenture = false := by
  obtain ⟨time, deed⟩ := r
  simp only [Deed.isVenture]
  split <;> simp_all [Deed.isUneventful]

lemma not_isReturn_of_isUneventful : r.deed.isReturn = false := by
  obtain ⟨time, deed⟩ := r
  simp only [Deed.isReturn]
  split <;> simp_all [Deed.isUneventful]

end Uneventful

/-- That the host is online may still set the counter of a channel that was not started. -/
lemma observe_online_of_not_started (h : s.life.started = false) :
    s.observe .online =
      if s.inTrouble then { s with life.presence := { last := some .online } }.accelerate
      else { s with life.presence := { last := some .online } } := by
  rw [observe_online]
  exact if_congr Iff.rfl (force_of_not_started h) rfl

/-! ### The invariant -/

/-- What holds of a channel before it is started. -/
structure Unstarted (s : Session) : Prop where
  unventured : ∀ r ∈ s.history, r.deed.isVenture = false
  attempts : s.life.retry.attempts = (misled s.history).toNat
  returned : (∃ r ∈ s.history, r.deed.isReturn) → NewsWhileLate s.history

namespace Unstarted

variable (h : Unstarted s)

include h

/-- One entry is made, neither a venture nor a call of the connect callback, and the counter follows. -/
lemma enter {r : Record} (hhistory : t.history = r :: s.history) (hventure : r.deed.isVenture = false)
    (hreturn : r.deed.isReturn = false)
    (hattempts : t.life.retry.attempts = (misled (r :: s.history)).toNat) : Unstarted t where
  unventured := by
    rw [hhistory, List.forall_mem_cons]
    exact ⟨hventure, h.unventured⟩
  attempts := by rw [hattempts, hhistory]
  returned := by
    rintro ⟨q, hq, hcalled⟩
    rw [hhistory] at hq ⊢
    rcases List.mem_cons.mp hq with rfl | hq
    · simp [hreturn] at hcalled
    · exact (h.returned ⟨q, hq, hcalled⟩).append [r]

/-- Nothing is entered. -/
lemma congr (hhistory : t.history = s.history)
    (hattempts : t.life.retry.attempts = s.life.retry.attempts) : Unstarted t :=
  ⟨hhistory ▸ h.unventured, by rw [hattempts, hhistory, h.attempts], hhistory ▸ h.returned⟩

/-- One entry is made that changes nothing. -/
lemma enterUneventful {r : Record} (hr : r.deed.isUneventful) (hhistory : t.history = r :: s.history)
    (hattempts : t.life.retry.attempts = s.life.retry.attempts) : Unstarted t := by
  refine h.enter hhistory (not_isVenture_of_isUneventful hr) (not_isReturn_of_isUneventful hr) ?_
  rw [hattempts, misled_uneventful hr, h.attempts]

/-- Entries are made that change nothing. -/
lemma append {new : List Record} (hnew : ∀ r ∈ new, r.deed.isUneventful)
    (hhistory : t.history = new ++ s.history)
    (hattempts : t.life.retry.attempts = s.life.retry.attempts) : Unstarted t := by
  induction new generalizing t with
  | nil => exact h.congr hhistory hattempts
  | cons r new ih =>
      have hrest : Unstarted { t with history := new ++ s.history } :=
        ih (fun q hq => hnew q (by simp [hq])) rfl hattempts
      exact hrest.enterUneventful (hnew r (by simp)) hhistory rfl

lemma traffic (ht : Traffic s t) : Unstarted t := by
  obtain ⟨new, hnew, hr⟩ := ht.history
  exact h.append (fun r hmem => Deed.isUneventful_of_isTraffic (hr r hmem).1) hnew (by rw [ht.life])

lemma note {d : Deed} (hd : d.isUneventful) : Unstarted (s.note d) :=
  h.enterUneventful hd rfl rfl

lemma lose (hs : s.life.started = false) : Unstarted s.lose := (lose_of_not_started hs).symm ▸ h

lemma force (hs : s.life.started = false) : Unstarted s.force := (force_of_not_started hs).symm ▸ h

/-- That the host is offline would force a reconnect. -/
lemma offline (hs : s.life.started = false) : Unstarted (s.observe .offline) := by
  have hseen : Unstarted { s with life.presence := { last := some .offline } } := h.congr rfl rfl
  exact hseen.force hs

/-- A call of the message callback, and whatever its script does. -/
lemma receive (data : String) : Unstarted (s.receive data) := by
  have hheard : Unstarted s.recordActivity := h.congr rfl rfl
  rw [Session.receive]
  cases hc : s.recordActivity.life.callbacks.receiver (.message data) with
  | none => exact (dispatch_of_none hc).symm ▸ hheard
  | some c =>
      obtain ⟨t, did, ht, heq⟩ := dispatch_traffic hc
      exact heq ▸ (hheard.traffic ht).note rfl

/-- A call of the connect callback needs news that came too late. -/
lemma dispatch_connect (hnews : NewsWhileLate s.history) : Unstarted (s.dispatch .connect) := by
  cases hc : s.life.callbacks.receiver .connect with
  | none => exact (dispatch_of_none hc).symm ▸ h
  | some c =>
      obtain ⟨t, did, ht, heq⟩ := dispatch_traffic hc
      have htold := h.traffic ht
      obtain ⟨new, hnew, -⟩ := ht.history
      rw [heq]
      refine ⟨?_, ?_, fun _ => ?_⟩
      · rw [note_history, List.forall_mem_cons]
        exact ⟨rfl, htold.unventured⟩
      · exact htold.attempts
      · rw [note_history, hnew, ← List.cons_append]
        exact hnews.append _

/-- A `Connect` sets the counter back. The connect callback is called only if it was not zero. -/
lemma greet (rest : List Signal) :
    Unstarted ({ s with queue := rest }.note (.took (.transport .connect))).greet := by
  have hnoted : Unstarted (s.connectNoted rest) := h.enter rfl rfl rfl rfl
  rw [greet_eq]
  split
  next hpos =>
    have hmisled : misled s.history = true := by
      cases hmisled : misled s.history with
      | true => rfl
      | false =>
          rw [h.attempts, hmisled] at hpos
          exact absurd hpos (Nat.lt_irrefl 0)
    have hnews : NewsWhileLate (s.connectNoted rest).history :=
      (newsWhileLate_of_misled hmisled).append [_]
    exact (hnoted.dispatch_connect hnews).traffic (handIfOpen_traffic _ _ _)
  next => exact hnoted.traffic (handIfOpen_traffic _ _ _)

/-- That the host is online sets the counter to one if the heartbeat is late, and nothing is forced. -/
lemma online (hp : Pulsing s) (hs : s.life.started = false) (rest : List Signal) :
    Unstarted (({ s with queue := rest }.note (.took (.network .online))).observe .online) := by
  have hbackoff : s.life.retry.inBackoff = false := by
    have hone := Bool.toNat_le (misled s.history)
    rw [Retry.inBackoff, h.attempts, decide_eq_false_iff_not]
    omega
  have htrouble : ({ s with queue := rest }.note (.took (.network .online))).inTrouble =
      lateAt s.history s.now := by
    rw [← hp.isLate, inTrouble]
    exact congrArg (· || s.life.heartbeat.isLate s.now) hbackoff
  rw [observe_online_of_not_started (by exact hs), htrouble]
  cases hlate : lateAt s.history s.now with
  | true =>
      have hset : Unstarted { s with
          history := { time := s.now, deed := .took (.network .online) } :: s.history
          life.retry := s.life.retry.accelerate } := by
        refine h.enter rfl rfl rfl ?_
        rw [misled, hlate, Bool.true_or]
        rfl
      exact hset.enterUneventful (r := { time := s.now, deed := .accelerated }) rfl rfl rfl
  | false =>
      refine h.enter rfl rfl rfl ?_
      rw [misled, hlate, Bool.false_or]
      exact h.attempts

/-- A beat leaves nothing but its entry and a frame. -/
lemma beat (hs : s.life.started = false) : Unstarted s.beat := by
  rw [Session.beat]
  generalize s.life.heartbeat.tick s.now = ticked
  obtain ⟨beat, heartbeat⟩ := ticked
  have hnoted : Unstarted ({ s with life.heartbeat := heartbeat }.note (.beat beat)) :=
    h.enterUneventful rfl rfl rfl
  cases beat with
  | ping => exact hnoted.traffic (handIfOpen_traffic _ _ _)
  | stale silentFor =>
      dsimp only
      split
      · exact hnoted
      · exact hnoted.force hs

/-- The end leaves the line alone. -/
lemma stop (hs : s.life.started = false) : Unstarted s.stop :=
  h.enterUneventful (r := { time := s.now, deed := .ended }) rfl (by simp [stop_history, hs])
    (by rw [stop_life]; rfl)

/-- The driver keeps the invariant while it handles anything but a start. -/
lemma handle (hp : Pulsing s) (hs : s.life.started = false) (rest : List Signal) {x : Signal}
    (hx : (Deed.took x).isStart = false) :
    Unstarted (({ s with queue := rest }.note (.took x)).handle x) := by
  have htook : (Deed.took x).isUneventful → Unstarted ({ s with queue := rest }.note (.took x)) :=
    fun hd => h.enterUneventful hd rfl rfl
  match x with
  | .start => cases hx
  | .transport .connect => exact h.greet rest
  | .transport .disconnect => exact (htook rfl).lose hs
  | .transport (.error _) => exact htook rfl
  | .transport (.message data) => exact (htook rfl).receive data
  | .register kind callback => exact (htook rfl).congr rfl rfl
  | .forceReconnect => exact (htook rfl).force hs
  | .network .online => exact h.online hp hs rest
  | .network .offline => exact (htook rfl).offline hs
  | .inspect => exact (htook rfl).note rfl
  | .shutdown => exact (htook rfl).stop hs

end Unstarted

/-! ### Runs -/

/-- A channel that was not started keeps its lifecycle in the state that `Unstarted` describes. -/
lemma unstarted_invariant : Invariant (fun _ => True) fun s =>
    Recorded s ∧ Pulsing s ∧ (begun s.history = false → Unstarted s) where
  touch {s t} h ht := by
    refine ⟨recorded_invariant.touch h.1 ht, pulsing_invariant.touch h.2.1 ht, fun hb => ?_⟩
    have htraffic := ht.traffic
    have hb' : begun s.history = false := by
      rw [← h.1.started, ← htraffic.life, (h.1.traffic htraffic).started, hb]
    exact (h.2.2 hb').traffic htraffic
  drive {s t} h ht := by
    obtain ⟨hr, hp, hu⟩ := h
    refine ⟨recorded_invariant.drive hr ht, pulsing_invariant.drive hp ht, fun hb => ?_⟩
    have hb' : begun s.history = false := by
      obtain ⟨new, hnew⟩ := drive?_suffix ht
      rw [← hnew, begun, List.any_append, Bool.or_eq_false_iff] at hb
      exact hb.2
    have hs : s.life.started = false := hr.started.trans hb'
    obtain ⟨-, ⟨x, rest, -, rfl⟩ | ⟨-, hdue, -⟩ | ⟨-, -, -, rfl⟩⟩ := drive?_cases ht
    · refine (hu hb').handle hp hs rest ?_
      obtain ⟨new, hnew⟩ := handle_history s rest x
      rw [hnew, begun, List.any_append, List.any_cons, Bool.or_eq_false_iff,
        Bool.or_eq_false_iff] at hb
      exact hb.2.1
    · rw [Retry.isDue, hr.dueAt, hr.chronicle.pending_eq_none hb'] at hdue
      cases hdue
    · exact (hu hb').beat hs
  pass {s} duration h :=
    ⟨recorded_invariant.pass duration h.1, pulsing_invariant.pass duration h.2.1,
      fun hb => (h.2.2 hb).congr rfl rfl⟩

lemma unstarted_run (now : Time) (line : Line) (moves : List Move)
    (hb : begun ((fresh now line).run moves).history = false) :
    Unstarted ((fresh now line).run moves) := by
  have hfresh : Unstarted (fresh now line) := ⟨nofun, rfl, by simp [fresh]⟩
  have hrun : Recorded ((fresh now line).run moves) ∧ Pulsing ((fresh now line).run moves) ∧
      (begun ((fresh now line).run moves).history = false → Unstarted ((fresh now line).run moves)) :=
    unstarted_invariant.run ⟨recorded_fresh now line, pulsing_run now line [], fun _ => hfresh⟩
      fun m _ => m.within_of_forall fun _ => trivial
  exact hrun.2.2 hb

lemma Deed.isTook_of_isOngoing {d : Deed} (h : d.isOngoing) : d.isTook = false := by
  cases d <;> simp_all [isOngoing, isTook]

/-- In a move at most one signal is taken, and it is taken first. -/
lemma move_history (s : Session) (m : Move) :
    ∃ new, (∀ r ∈ new, r.deed.isTook = false) ∧ ((s.move m).history = new ++ s.history ∨
      ∃ x, (s.move m).history = new ++ { time := s.now, deed := .took x } :: s.history) := by
  have hongoing : ∀ {new : List Record}, (∀ r ∈ new, r.deed.isOngoing) →
      ∀ r ∈ new, r.deed.isTook = false :=
    fun hr r hmem => Deed.isTook_of_isOngoing (hr r hmem)
  have htraffic : ∀ {t : Session}, Traffic s t → ∃ new, (∀ r ∈ new, r.deed.isTook = false) ∧
      t.history = new ++ s.history := by
    intro t ht
    obtain ⟨new, hnew, hr⟩ := ht.history
    exact ⟨new, hongoing fun r hmem => Deed.isOngoing_of_isTraffic (hr r hmem).1, hnew⟩
  cases m with
  | act action =>
      obtain ⟨new, hr, hnew⟩ := htraffic (perform_traffic s action)
      exact ⟨new, hr, .inl hnew⟩
  | watch id =>
      obtain ⟨new, hr, hnew⟩ := htraffic (Touches.traffic (p := fun _ => True) (watch_touches s id))
      exact ⟨new, hr, .inl hnew⟩
  | pass duration => exact ⟨[], by simp, .inl (by simp [move])⟩
  | drive =>
      rw [move]
      cases ht : s.drive? with
      | none => exact ⟨[], by simp, .inl rfl⟩
      | some t =>
          obtain ⟨-, ⟨rest, -, rfl⟩ | ⟨x, rest, -, -, hex⟩ | ⟨-, hex⟩⟩ := drive?_exchange ht
          · rw [Option.getD_some, stop_history, note_history, List.append_cons]
            refine ⟨_, ?_, .inr ⟨.shutdown, rfl⟩⟩
            split <;> simp [Deed.isTook]
          · obtain ⟨new, hnew, -, hr⟩ := hex.flow.entries
            exact ⟨new, hongoing hr, .inr ⟨x, hnew⟩⟩
          · obtain ⟨new, hnew, -, hr⟩ := hex.flow.entries
            exact ⟨new, hongoing hr, .inl hnew⟩

lemma move_suffix (s : Session) (m : Move) : s.history <:+ (s.move m).history := by
  obtain ⟨new, -, hnew | ⟨x, hnew⟩⟩ := move_history s m
  · exact ⟨new, hnew.symm⟩
  · exact (List.suffix_cons ..).trans ⟨new, hnew.symm⟩

lemma run_suffix (s : Session) (moves : List Move) : s.history <:+ (s.run moves).history := by
  induction moves generalizing s with
  | nil => exact List.suffix_rfl
  | cons m moves ih => exact (move_suffix s m).trans (ih (s.move m))

lemma newsWhileLate_cons {r : Record} {h : List Record} :
    NewsWhileLate (r :: h) ↔
      r.deed = .took (.network .online) ∧ lateAt h r.time ∨ NewsWhileLate h := by
  constructor
  · rintro ⟨newer, t, older, heq, hlate⟩
    cases newer with
    | nil =>
        obtain ⟨rfl, rfl⟩ := List.cons.inj heq
        exact .inl ⟨rfl, hlate⟩
    | cons q newer =>
        obtain ⟨-, rfl⟩ := List.cons.inj heq
        exact .inr ⟨newer, t, older, rfl, hlate⟩
  · rintro (⟨hdeed, hlate⟩ | hnews)
    · obtain ⟨time, deed⟩ := r
      exact ⟨[], time, h, by rw [← hdeed]; rfl, hlate⟩
    · exact hnews.append [r]

section Untaken

variable {new : List Record} (hnew : ∀ r ∈ new, r.deed.isTook = false) (h : List Record)

include hnew

lemma misled_append : misled (new ++ h) = misled h := by
  induction new with
  | nil => rfl
  | cons r new ih =>
      have hr := hnew r (by simp)
      rw [List.cons_append, misled, ih fun q hq => hnew q (by simp [hq])]
      split <;> simp_all [Deed.isTook]

lemma newsWhileLate_append : NewsWhileLate (new ++ h) ↔ NewsWhileLate h := by
  induction new with
  | nil => rfl
  | cons r new ih =>
      have hr : r.deed ≠ .took (.network .online) := by
        intro heq
        have := hnew r (by simp)
        simp [heq, Deed.isTook] at this
      rw [List.cons_append, newsWhileLate_cons, ih fun q hq => hnew q (by simp [hq])]
      simp [hr]

end Untaken

/-- The first time such news is handled, the counter shows it. -/
lemma exists_misled (now : Time) (line : Line) {moves : List Move}
    (hnews : NewsWhileLate ((fresh now line).run moves).history) :
    ∃ before, before <+: moves ∧ misled ((fresh now line).run before).history = true := by
  induction moves using List.reverseRecOn with
  | nil =>
      obtain ⟨newer, t, older, heq, -⟩ := hnews
      simp [run, fresh] at heq
  | append_singleton moves m ih =>
      by_cases hold : NewsWhileLate ((fresh now line).run moves).history
      · obtain ⟨before, hbefore, hmisled⟩ := ih hold
        exact ⟨before, hbefore.trans (List.prefix_append ..), hmisled⟩
      · refine ⟨moves ++ [m], List.prefix_rfl, ?_⟩
        have hrun : (fresh now line).run (moves ++ [m]) = ((fresh now line).run moves).move m := by
          simp [run]
        rw [hrun] at hnews ⊢
        obtain ⟨new, hnew, heq | ⟨x, heq⟩⟩ := move_history ((fresh now line).run moves) m
        · rw [heq, newsWhileLate_append hnew] at hnews
          exact absurd hnews hold
        · rw [heq, newsWhileLate_append hnew, newsWhileLate_cons] at hnews
          obtain ⟨hx, hlate⟩ := hnews.resolve_right hold
          dsimp only at hx hlate
          rw [heq, misled_append hnew, misled, hx, hlate]
          rfl

/-- The lifecycle is as it was in the beginning: the reconnect controller is fresh, the line was neither
asked to connect nor to disconnect, and neither lifecycle callback was called. -/
structure Inert (s : Session) : Prop where
  retry : s.life.retry = {}
  unventured : ∀ r ∈ s.history, r.deed.isVenture = false
  unreturned : ∀ r ∈ s.history, r.deed.isReturn = false

/-- **Before the start the lifecycle is inert, unless the host comes online while the heartbeat is late.**
In every run over any line in which no start was handled

* no attempt is pending, the line was neither asked to connect nor to disconnect, and no loss was made,
  forced or reported;
* the counter is one if that the host is online was handled while the heartbeat was late, and no
  `Connect` since, and zero otherwise;
* the lifecycle was inert at every moment if and only if no such news was handled. -/
theorem inert_iff (now : Time) (line : Line) (moves : List Move) :
    let s := (fresh now line).run moves
    begun s.history = false →
      (s.life.retry.dueAt = none ∧ ∀ r ∈ s.history, r.deed.isVenture = false) ∧
      s.life.retry.attempts = (misled s.history).toNat ∧
      ((∀ before, before <+: moves → Inert ((fresh now line).run before)) ↔
        ¬ NewsWhileLate s.history) := by
  intro s hb
  have hearlier : ∀ before, before <+: moves →
      ((fresh now line).run before).history <:+ s.history := by
    rintro before ⟨later, rfl⟩
    have hrun : s = ((fresh now line).run before).run later := List.foldl_append ..
    exact hrun ▸ run_suffix _ later
  have hunbegun : ∀ before, before <+: moves → begun ((fresh now line).run before).history = false := by
    intro before hbefore
    obtain ⟨new, hnew⟩ := hearlier before hbefore
    rw [← hnew, begun, List.any_append, Bool.or_eq_false_iff] at hb
    exact hb.2
  have hdue : ∀ before, before <+: moves → ((fresh now line).run before).life.retry.dueAt = none := by
    intro before hbefore
    have hr : Recorded ((fresh now line).run before) := recorded_run now line before
    rw [hr.dueAt, hr.chronicle.pending_eq_none (hunbegun before hbefore)]
  have hu : Unstarted s := unstarted_run now line moves hb
  refine ⟨⟨hdue moves List.prefix_rfl, hu.unventured⟩, hu.attempts, ?_, ?_⟩
  · intro hinert hnews
    obtain ⟨before, hbefore, hmisled⟩ := exists_misled now line hnews
    have hcount := (unstarted_run now line before (hunbegun before hbefore)).attempts
    rw [(hinert before hbefore).retry, hmisled] at hcount
    cases hcount
  · intro hnews before hbefore
    have hunnewsed : ¬ NewsWhileLate ((fresh now line).run before).history := by
      intro hearly
      obtain ⟨new, hnew⟩ := hearlier before hbefore
      exact hnews (hnew ▸ hearly.append new)
    have hub := unstarted_run now line before (hunbegun before hbefore)
    refine ⟨?_, hub.unventured, fun r hr => ?_⟩
    · have hcount : ((fresh now line).run before).life.retry.attempts = 0 := by
        rw [hub.attempts, Bool.eq_false_iff.mpr fun hm => hunnewsed (newsWhileLate_of_misled hm)]
        rfl
      exact congrArg₂ Retry.mk hcount (hdue before hbefore)
    · refine Bool.eq_false_iff.mpr fun hreturn => hunnewsed (hub.returned ⟨r, hr, hreturn⟩)

/-- Callbacks, an open line, a force, bad news and a drop; then a minute in which nobody starts the
channel. -/
theorem inert_after_forces :
    let moves : List Move := [.act (.onReconnect "back" [.connect]), .drive, .act .lineOpens, .drive,
      .act .forceReconnect, .drive, .act (.network .offline), .drive, .act .lineDrops, .drive,
      .pass (.ms 60000), .drive]
    let s := (fresh 0 {}).run moves
    begun s.history = false ∧
      (s.life.retry.dueAt = none ∧ ∀ r ∈ s.history, r.deed.isVenture = false) ∧
      s.life.retry.attempts = (misled s.history).toNat ∧
      ((∀ before, before <+: moves → Inert ((fresh 0 {}).run before)) ↔ ¬ NewsWhileLate s.history) := by
  intro moves s
  have hbegun : begun s.history = false := by decide +kernel
  exact ⟨hbegun, inert_iff 0 {} moves hbegun⟩

/-- An open line that nobody started, silent for 46 s: that the host is online sets the counter to one,
and when the line reports its next `Connect`, the connect callback is called. -/
theorem not_inert_before_start :
    let s := (fresh 0 {}).run [.act (.onReconnect "back" []), .drive, .act .lineOpens, .drive,
      .pass (.ms 46000), .drive, .act (.network .online), .drive]
    let t := s.run [.act .lineOpens, .drive]
    begun t.history = false ∧ s.life.retry.attempts = 1 ∧
      ∃ r ∈ t.history, r.deed.isReturn := by
  decide +kernel

end ResilientChannel.Session
