import ResilientChannel.Proofs.Session.Chronicle

/-!
The channel is never wedged.

Over a line that reports whenever it opens or goes idle, a channel at rest has the line open and
nothing to retry, or the line idle and an attempt pending, or the line still underway
(`never_wedged`).

* **The faithful class.** `Action.IsFaithful` leaves out what such a line would not do: a change of
  state without an event, an event without a change of state, and other reactions than those of
  `Line.IsGraceful`.
* **The news.** What the driver has yet to learn of the line is the last report in its queue,
  `lastNews`. It never contradicts the line (`Agrees`), and once there is none the reconnect
  controller fits the line (`Fits`).
* **The invariant.** `Recovering` holds of a fresh session and is kept by every touch, hence by
  callbacks, and by every deed of the driver. A forced reconnect needs only the weaker `Sound`, since
  an acceleration before it breaks the fit for a moment.
-/

namespace ResilientChannel

/-- One of the three ways to connect: with the outcome left open, at once, or not at all. -/
def Reaction.IsPlain (r : Reaction) : Prop := r = .pending ∨ r = .accept ∨ r = .refuse

/-- A line that connects in one of the three ways and goes idle when told to disconnect. -/
structure Line.IsGraceful (l : Line) : Prop where
  connect : l.onConnect.IsPlain
  disconnect : l.onDisconnect = .graceful

namespace Line.IsGraceful

variable {l : Line} (h : l.IsGraceful)

include h

lemma setState (state : ConnectionState) : { l with state }.IsGraceful := ⟨h.connect, h.disconnect⟩

/-- The line gets underway without a report, or is open or idle at once with one. -/
lemma connect_cases :
    l.connect = ({ l with state := .connecting }, []) ∨
      l.connect = ({ l with state := .opened }, [.connect]) ∨
      l.connect = ({ l with state := .idle }, [.error "connection refused", .disconnect]) := by
  rw [Line.connect]
  rcases h.connect with hr | hr | hr
  · exact .inl (by simp [Line.react, hr, Reaction.pending])
  · exact .inr (.inl (by simp [Line.react, hr, Reaction.accept]))
  · exact .inr (.inr (by simp [Line.react, hr, Reaction.refuse]))

end Line.IsGraceful

namespace Session

variable {s t : Session}

/-! ### The faithful class -/

/-- Under this action a graceful line stays graceful and reports whatever it does. -/
def Action.IsFaithful : Action → Prop
  | .lineMoves _ => False
  | .lineFires event => event ≠ .connect ∧ event ≠ .disconnect
  | .lineReacts toConnect toDisconnect =>
    (∀ r ∈ toConnect, r.IsPlain) ∧ ∀ r ∈ toDisconnect, r = .graceful
  | _ => True

/-! ### The news -/

/-- The state of the line that a signal reports. -/
def Signal.news? : Signal → Option ConnectionState
  | .transport .connect => some .opened
  | .transport .disconnect => some .idle
  | _ => none

/-- The last report in a queue. -/
def lastNews (queue : List Signal) : Option ConnectionState :=
  (queue.filterMap Signal.news?).getLast?

@[simp] lemma lastNews_nil : lastNews [] = none := rfl

lemma lastNews_append (q q' : List Signal) :
    lastNews (q ++ q') = (lastNews q').or (lastNews q) := by
  simp [lastNews, List.filterMap_append, List.getLast?_append]

lemma lastNews_singleton (x : Signal) : lastNews [x] = x.news? := by
  cases hx : x.news? <;> simp [lastNews, hx]

lemma lastNews_cons (x : Signal) (q : List Signal) :
    lastNews (x :: q) = (lastNews q).or x.news? := by
  rw [← List.singleton_append, lastNews_append, lastNews_singleton]

lemma lastNews_cons_of_some {q : List Signal} {news : ConnectionState}
    (h : lastNews q = some news) (x : Signal) : lastNews (x :: q) = some news := by
  rw [lastNews_cons, h, Option.some_or]

lemma lastNews_cons_of_none {q : List Signal} (h : lastNews q = none) (x : Signal) :
    lastNews (x :: q) = x.news? := by
  rw [lastNews_cons, h, Option.none_or]

lemma Signal.news?_of_event? {x : Signal} (h : x.event? = none) : x.news? = none := by
  cases x <;> simp_all [event?, news?]

/-- The news does not contradict the line, which may have set out to connect since. -/
structure Agrees (news : Option ConnectionState) (state : ConnectionState) : Prop where
  opened : news = some .opened → state ≠ .idle
  idle : news = some .idle → state ≠ .opened

/-- The reconnect controller is as the line needs it: armed over an idle line, at rest over an open
one. -/
structure Fits (state : ConnectionState) (retry : Retry) : Prop where
  idle : state = .idle → retry.dueAt.isSome ∧ 1 ≤ retry.attempts
  opened : state = .opened → retry = {}

/-! ### The invariant -/

/-- What holds at every moment, also in the middle of a deed. -/
structure Sound (s : Session) : Prop where
  carries : Carries Action.IsFaithful s
  graceful : s.line.IsGraceful
  agrees : s.running → Agrees (lastNews s.queue) s.line.state

/-- In addition, the controller of a started channel fits the line once all news is handled. -/
structure Recovering (s : Session) : Prop extends Sound s where
  fits : s.running → s.life.started → lastNews s.queue = none → Fits s.line.state s.life.retry

lemma Sound.congr (h : Sound s) (hcarries : Carries Action.IsFaithful t)
    (hline : t.line = s.line) (hrunning : t.running = s.running)
    (hnews : lastNews t.queue = lastNews s.queue) : Sound t where
  carries := hcarries
  graceful := hline ▸ h.graceful
  agrees hr := by
    rw [hnews, hline]
    exact h.agrees (hrunning ▸ hr)

/-- The invariant reads the line, the news and two parts of the lifecycle. -/
lemma Recovering.congr (h : Recovering s) (hcarries : Carries Action.IsFaithful t)
    (hline : t.line = s.line) (hrunning : t.running = s.running)
    (hnews : lastNews t.queue = lastNews s.queue)
    (hstarted : t.life.started = s.life.started) (hretry : t.life.retry = s.life.retry) :
    Recovering t where
  toSound := h.toSound.congr hcarries hline hrunning hnews
  fits hr hs hnone := by
    rw [hline, hretry]
    exact h.fits (hrunning ▸ hr) (hstarted ▸ hs) (hnews ▸ hnone)

/-- Nothing else matters. -/
lemma Recovering.aside (h : Recovering s) (hline : t.line = s.line)
    (hrunning : t.running = s.running) (hqueue : t.queue = s.queue)
    (hcallbacks : t.life.callbacks = s.life.callbacks)
    (hstarted : t.life.started = s.life.started) (hretry : t.life.retry = s.life.retry) :
    Recovering t :=
  h.congr (h.carries.congr hcallbacks fun _ hx => hqueue ▸ hx) hline hrunning
    (congrArg lastNews hqueue) hstarted hretry

/-- A driver that has ended hears nothing, and nothing is asked of it. -/
lemma recovering_of_not_running (hcarries : Carries Action.IsFaithful s)
    (hline : s.line.IsGraceful) (h : s.running = false) : Recovering s where
  carries := hcarries
  graceful := hline
  agrees := by simp [h]
  fits := by simp [h]

/-! ### The line -/

lemma lastNews_hear (h : s.running) (es : List TransportEvent) :
    lastNews (s.hear es).queue = (lastNews (es.map .transport)).or (lastNews s.queue) := by
  rw [hear_queue h, lastNews_append]

/-- A line that has just reported its state leaves nothing to check but the report. -/
lemma recovering_of_report (hcarries : Carries Action.IsFaithful s) (hline : s.line.IsGraceful)
    {es : List TransportEvent} {news : ConnectionState}
    (hnews : lastNews (es.map .transport) = some news) (hagrees : Agrees (some news) s.line.state) :
    Recovering (s.hear es) where
  carries := hcarries.hear es
  graceful := by simpa using hline
  agrees hr := by
    rw [lastNews_hear (by simpa using hr), hnews, hear_line]
    exact hagrees
  fits hr _ hnone := by
    rw [lastNews_hear (by simpa using hr), hnews] at hnone
    cases hnone

/-- Events that are no reports change nothing. -/
lemma Recovering.hear (h : Recovering s) {es : List TransportEvent}
    (hnews : lastNews (es.map .transport) = none) : Recovering (s.hear es) := by
  cases hr : s.running with
  | true =>
      refine h.congr (h.carries.hear es) (by simp) (by simp) ?_ (by simp) (by simp)
      rw [lastNews_hear hr, hnews, Option.none_or]
  | false =>
      exact recovering_of_not_running (h.carries.hear es) (by simpa using h.graceful) (by simpa)

/-- Whatever the line does when asked to connect, nothing needs to hold before. -/
lemma recovering_openLine (hcarries : Carries Action.IsFaithful s) (hline : s.line.IsGraceful) :
    Recovering s.openLine := by
  have hcarries' : ∀ line : Line, Carries Action.IsFaithful ({ s with line }.note .opened) :=
    fun line => hcarries.congr rfl fun _ hx => hx
  rw [openLine]
  rcases hline.connect_cases with heq | heq | heq <;> rw [heq]
  · exact {
      carries := hcarries' _
      graceful := hline.setState _
      agrees := fun _ => ⟨nofun, nofun⟩
      fits := fun _ _ _ => ⟨nofun, nofun⟩ }
  · exact recovering_of_report (hcarries' _) (hline.setState _) rfl ⟨nofun, nofun⟩
  · exact recovering_of_report (hcarries' _) (hline.setState _) rfl ⟨nofun, nofun⟩

/-! ### Touches -/

/-- The line reports what it does, or does nothing that matters. -/
lemma Recovering.lineMove (h : Recovering s) {line : Line} {events : List TransportEvent}
    (hmove : LineMove Action.IsFaithful s.line line events) :
    Recovering ({ s with line }.hear events) := by
  have hcarries : ∀ line : Line, Carries Action.IsFaithful { s with line } :=
    fun line => h.carries.congr rfl fun _ hx => hx
  cases hmove with
  | opens => exact recovering_of_report (hcarries _) (h.graceful.setState _) rfl ⟨nofun, nofun⟩
  | drops => exact recovering_of_report (hcarries _) (h.graceful.setState _) rfl ⟨nofun, nofun⟩
  | moves hp => exact hp.elim
  | @fires event hp =>
      refine h.hear ?_
      obtain ⟨hconnect, hdisconnect⟩ := hp
      cases event with
      | connect => exact absurd rfl hconnect
      | disconnect => exact absurd rfl hdisconnect
      | error => rfl
      | message => rfl
  | @reacts toConnect toDisconnect hp =>
      have hgraceful : Line.IsGraceful { s.line with
          onConnect := toConnect.getD s.line.onConnect
          onDisconnect := toDisconnect.getD s.line.onDisconnect } := by
        refine ⟨?_, ?_⟩
        · cases toConnect with
          | none => exact h.graceful.connect
          | some r => exact hp.1 r rfl
        · cases toDisconnect with
          | none => exact h.graceful.disconnect
          | some r => exact hp.2 r rfl
      exact { carries := hcarries _, graceful := hgraceful, agrees := h.agrees, fits := h.fits }

lemma Recovering.post (h : Recovering s) {x : Signal} (hx : x.Within Action.IsFaithful)
    (hnews : x.news? = none) : Recovering (s.post x) := by
  refine h.congr (h.carries.post hx) (by simp) (by simp) ?_ (by simp) (by simp)
  rw [post_queue]
  split
  · rw [lastNews_append, lastNews_singleton, hnews, Option.none_or]
  · rfl

/-- An entry in the history changes nothing. -/
lemma Recovering.note (h : Recovering s) (d : Deed) : Recovering (s.note d) :=
  h.aside rfl rfl rfl rfl rfl rfl

lemma Recovering.handIfOpen (h : Recovering s) (f : Frame) (o : Origin) :
    Recovering (s.handIfOpen f o) := by
  rw [Session.handIfOpen]
  split
  · exact h.note _
  · exact h

lemma Recovering.touch (h : Recovering s) (ht : Touch Action.IsFaithful s t) : Recovering t := by
  cases ht with
  | post hx hown => exact h.post hx (Signal.news?_of_event? hown)
  | hand => exact h.handIfOpen _ _
  | line hmove => exact h.lineMove hmove
  | aside => exact h.aside rfl rfl rfl rfl rfl rfl

/-- Callbacks do nothing but faithful actions. -/
lemma Recovering.dispatch (h : Recovering s) (notice : Notice) :
    Recovering (s.dispatch notice) := by
  cases hc : s.life.callbacks.receiver notice with
  | none => exact (dispatch_of_none hc).symm ▸ h
  | some c =>
      obtain ⟨t, did, ht, heq⟩ := dispatch_of_some hc (h.carries.held _ c hc)
      exact heq ▸ (ht.keeps Recovering.touch h).note _

/-! ### The operations -/

/-- Taking a signal leaves what is queued behind it. -/
lemma Sound.pop (h : Sound s) {x : Signal} {rest : List Signal} (hqueue : s.queue = x :: rest) :
    Sound ({ s with queue := rest }.note (.took x)) where
  carries := h.carries.congr rfl fun y hy => by rw [hqueue]; exact .tail _ hy
  graceful := h.graceful
  agrees hr := by
    obtain ⟨hopened, hidle⟩ := h.agrees hr
    rw [hqueue] at hopened hidle
    exact ⟨fun hrest => hopened (lastNews_cons_of_some hrest x),
      fun hrest => hidle (lastNews_cons_of_some hrest x)⟩

/-- A signal that reports nothing of the line leaves the news as it was. -/
lemma Recovering.pop (h : Recovering s) {x : Signal} {rest : List Signal}
    (hqueue : s.queue = x :: rest) (hnews : x.news? = none) :
    Recovering ({ s with queue := rest }.note (.took x)) where
  toSound := h.toSound.pop hqueue
  fits hr hs hnone := by
    refine h.fits hr hs ?_
    rw [hqueue, ← hnews]
    exact lastNews_cons_of_none hnone x

/-- A channel that was not started need not recover. -/
lemma Sound.recovering_of_not_started (h : Sound s) (hs : s.life.started = false) :
    Recovering s :=
  ⟨h, by simp [hs]⟩

/-- A loss arms the controller. It may come only after an open line has nothing more to report. -/
lemma Sound.lose (h : Sound s)
    (hdown : s.running → lastNews s.queue = none → s.line.state ≠ .opened) :
    Recovering s.lose := by
  cases hs : s.life.started with
  | false => exact (lose_of_not_started hs).symm ▸ h.recovering_of_not_started hs
  | true =>
      have hnoted : Recovering s.lossNoted :=
        { carries := h.carries.congr rfl fun _ hx => hx
          graceful := h.graceful
          agrees := h.agrees
          fits := fun hr _ hnone =>
            ⟨fun _ => ⟨rfl, Retry.one_le_attempts_onDisconnect _ _⟩,
              fun hopened => absurd hopened (hdown hr hnone)⟩ }
      rw [lose_of_started hs]
      split
      · exact hnoted.dispatch _
      · exact hnoted

/-- A live line reports that it was torn down. -/
lemma Sound.closeLine (h : Sound s) (hlive : s.line.state.isLive) : Recovering s.closeLine := by
  have hcarries : Carries Action.IsFaithful ({ s with line.state := .idle }.note .closed) :=
    h.carries.congr rfl fun _ hx => hx
  rw [closeLine_of_isLive h.graceful.disconnect hlive]
  exact recovering_of_report hcarries (h.graceful.setState _) rfl ⟨nofun, nofun⟩

lemma Recovering.closeLine (h : Recovering s) : Recovering s.closeLine := by
  cases hlive : s.line.state.isLive with
  | true => exact h.toSound.closeLine hlive
  | false => exact (closeLine_of_not_isLive h.graceful.disconnect hlive).symm ▸ h.note _

/-- A live line reports that it was torn down. Any other line is as it was, and the loss is put down
at once. -/
lemma Sound.force (h : Sound s) : Recovering s.force := by
  cases hs : s.life.started with
  | false => exact (force_of_not_started hs).symm ▸ h.recovering_of_not_started hs
  | true =>
      have hforced : Sound (s.note .forced) :=
        ⟨h.carries.congr rfl fun _ hx => hx, h.graceful, h.agrees⟩
      rw [force_of_started hs]
      cases hlive : s.line.state.isLive with
      | true =>
          rw [if_neg]
          · exact hforced.closeLine hlive
          · simp [closeLine_of_isLive hforced.graceful.disconnect hlive, ConnectionState.isOpen]
      | false =>
          rw [if_pos (by simp), closeLine_of_not_isLive hforced.graceful.disconnect hlive]
          refine Sound.lose ⟨hforced.carries.congr rfl fun _ hx => hx, h.graceful, h.agrees⟩ ?_
          intro _ _ hopened
          rw [note_line, note_line] at hopened
          simp [hopened, ConnectionState.isLive] at hlive

lemma Recovering.observe (h : Recovering s) (status : NetworkStatus) :
    Recovering (s.observe status) := by
  rw [Session.observe]
  generalize s.life.presence.observe status _ _ = decided
  obtain ⟨decision, presence⟩ := decided
  have hcarries : ∀ life : Lifecycle Callback, life.callbacks = s.life.callbacks →
      Carries Action.IsFaithful { s with life } := fun _ heq => h.carries.congr heq fun _ hx => hx
  cases decision with
  | ignore => exact ⟨⟨hcarries _ rfl, h.graceful, h.agrees⟩, h.fits⟩
  | forceReconnect accelerate =>
      cases accelerate with
      | false => exact Sound.force ⟨hcarries _ rfl, h.graceful, h.agrees⟩
      | true =>
          -- the counter may start over while the line is open: only `Sound` survives until the force
          exact Sound.force ⟨(hcarries { s.life with presence } rfl).congr rfl fun _ hx => hx,
            h.graceful, h.agrees⟩

/-- A stale `Connect` clears the schedule only while the report that overtook it is still queued. -/
lemma Sound.greet (h : Sound s) {rest : List Signal}
    (hqueue : s.queue = .transport .connect :: rest) :
    Recovering ({ s with queue := rest }.note (.took (.transport .connect))).greet := by
  have hpopped := h.pop hqueue
  have hnoted : Recovering (s.connectNoted rest) :=
    { carries := hpopped.carries.congr rfl fun _ hx => hx
      graceful := h.graceful
      agrees := hpopped.agrees
      fits := fun hr _ hnone => ⟨fun hidle => absurd hidle ?_, fun _ => rfl⟩ }
  · rw [greet_eq]
    refine Recovering.handIfOpen ?_ _ _
    split
    · exact hnoted.dispatch _
    · exact hnoted
  · exact (h.agrees hr).opened (hqueue ▸ lastNews_cons_of_none hnone _)

/-- Once the last news is that the line went idle, it is not open. -/
lemma Sound.lose_reported (h : Sound s) {rest : List Signal}
    (hqueue : s.queue = .transport .disconnect :: rest) :
    Recovering ({ s with queue := rest }.note (.took (.transport .disconnect))).lose := by
  exact (h.pop hqueue).lose fun hr hnone =>
    (h.agrees hr).idle (hqueue ▸ lastNews_cons_of_none hnone _)

lemma Recovering.start (h : Recovering s) : Recovering s.start := by
  cases hs : s.life.started with
  | true => exact (start_of_started hs).symm ▸ h
  | false =>
      rw [start_of_not_started hs]
      exact recovering_openLine (h.carries.congr rfl fun _ hx => hx) h.graceful

lemma Recovering.retry (h : Recovering s) (hdue : s.life.retry.isDue s.now) :
    Recovering s.retry := by
  rw [retry_of_isDue hdue]
  exact recovering_openLine (h.carries.congr rfl fun _ hx => hx) h.graceful

lemma Recovering.beat (h : Recovering s) : Recovering s.beat := by
  rw [Session.beat]
  generalize s.life.heartbeat.tick s.now = ticked
  obtain ⟨beat, heartbeat⟩ := ticked
  have hticked : Recovering { s with life.heartbeat := heartbeat } :=
    h.aside rfl rfl rfl rfl rfl rfl
  have hnoted := hticked.note (.beat beat)
  cases beat with
  | ping => exact hnoted.handIfOpen _ _
  | stale silentFor =>
      dsimp only
      split
      · exact hnoted
      · exact hnoted.force

lemma Recovering.receive (h : Recovering s) (data : String) : Recovering (s.receive data) := by
  have hheard : Recovering s.recordActivity := h.aside rfl rfl rfl rfl rfl rfl
  exact hheard.dispatch _

/-- After the end nobody hears of the line. -/
lemma Sound.stop (h : Sound s) : Recovering s.stop := by
  have hended : Recovering ({ s with
      running := false
      queue := []
      life.retry := s.life.retry.cancel
      life.heartbeat := s.life.heartbeat.stop }.note .ended) :=
    recovering_of_not_running (h.carries.congr rfl nofun) h.graceful rfl
  rw [Session.stop]
  dsimp only
  split
  · exact hended.closeLine
  · exact hended

/-! ### Runs -/

lemma Recovering.handle (h : Recovering s) {x : Signal} {rest : List Signal}
    (hqueue : s.queue = x :: rest) :
    Recovering (({ s with queue := rest }.note (.took x)).handle x) := by
  have hpop : x.news? = none → Recovering ({ s with queue := rest }.note (.took x)) := h.pop hqueue
  match x with
  | .start => exact (hpop rfl).start
  | .transport .connect => exact h.greet hqueue
  | .transport .disconnect => exact h.lose_reported hqueue
  | .transport (.error _) => exact hpop rfl
  | .transport (.message data) => exact (hpop rfl).receive data
  | .register kind callback =>
      have hheld := hpop rfl
      have hcallback : callback.Within Action.IsFaithful :=
        h.carries.queued (.register kind callback) (by rw [hqueue]; exact .head _)
      exact ⟨⟨hheld.carries.register kind hcallback, hheld.graceful, hheld.agrees⟩, hheld.fits⟩
  | .forceReconnect => exact (hpop rfl).force
  | .network status => exact (hpop rfl).observe status
  | .inspect => exact (hpop rfl).note _
  | .shutdown => exact (hpop rfl).stop

/-- Faithful actions, the driver and the clock keep the invariant. -/
lemma recovering_invariant : Invariant Action.IsFaithful Recovering where
  touch h ht := h.touch ht
  drive h ht := by
    obtain ⟨-, ⟨x, rest, hqueue, rfl⟩ | ⟨-, hdue, rfl⟩ | ⟨-, -, -, rfl⟩⟩ := drive?_cases ht
    · exact h.handle hqueue
    · exact h.retry hdue
    · exact h.beat
  pass _ h := h.aside rfl rfl rfl rfl rfl rfl

lemma recovering_fresh (now : Time) {line : Line} (hline : line.IsGraceful) :
    Recovering (fresh now line) where
  carries := ⟨fun kind c hc => by simp [fresh] at hc, nofun⟩
  graceful := hline
  agrees _ := ⟨nofun, nofun⟩
  fits _ := nofun

/-- **The channel is never wedged.** Over a graceful line, whatever is done to the line and the
channel and in whatever order, a started channel that has handled all its signals has an attempt
pending and a counter from one to eight if the line is idle, and no attempt pending and a counter of
zero if the line is open. -/
theorem never_wedged (now : Time) {line : Line} (hline : line.IsGraceful) {moves : List Move}
    (hmoves : ∀ m ∈ moves, m.Within Action.IsFaithful)
    (hrunning : ((fresh now line).run moves).running)
    (hstarted : ((fresh now line).run moves).life.started)
    (hqueue : ((fresh now line).run moves).queue = []) :
    let s := (fresh now line).run moves
    (s.line.state = .idle →
      s.life.retry.dueAt.isSome ∧ 1 ≤ s.life.retry.attempts ∧ s.life.retry.attempts ≤ 8) ∧
    (s.line.state = .opened → s.life.retry.dueAt = none ∧ s.life.retry.attempts = 0) := by
  intro s
  have hrecovering : Recovering s := recovering_invariant.run (recovering_fresh now hline) hmoves
  have hfits : Fits s.line.state s.life.retry :=
    hrecovering.fits hrunning hstarted (by rw [hqueue, lastNews_nil])
  have hcap : s.life.retry.attempts = min 8 (outage (milestones s.history)) :=
    (recorded_run now line moves).attempts
  refine ⟨fun hidle => ?_, fun hopened => ?_⟩
  · obtain ⟨hdue, hone⟩ := hfits.idle hidle
    exact ⟨hdue, hone, by omega⟩
  · rw [hfits.opened hopened]
    exact ⟨rfl, rfl⟩

/-- A connect callback that drops the line again, called for a `Connect` that follows a drop: at rest
the line is idle, and the channel will try again. -/
theorem never_wedged_by_callback :
    let moves : List Move := [.act .connect, .drive, .act (.onReconnect "refresh" [.lineDrops]),
      .drive, .act (.batch [.lineDrops, .lineOpens]), .drive, .drive, .drive]
    let s := (fresh 0 {}).run moves
    s.running ∧ s.life.started ∧ s.queue = [] ∧ s.line.state = .idle ∧
      s.life.retry.dueAt.isSome ∧ 1 ≤ s.life.retry.attempts ∧ s.life.retry.attempts ≤ 8 := by
  intro moves s
  have hmoves : ∀ m ∈ moves, m.Within Action.IsFaithful := by
    have hdrops : Action.Within Action.IsFaithful .lineDrops := .mk trivial nofun
    have hopens : Action.Within Action.IsFaithful .lineOpens := .mk trivial nofun
    simp only [moves, List.forall_mem_cons]
    refine ⟨.mk trivial nofun, trivial, .mk trivial ?_, trivial, .mk trivial ?_, trivial, trivial,
      trivial, nofun⟩
    · simpa [Action.parts] using hdrops
    · simpa [Action.parts] using ⟨hdrops, hopens⟩
  exact ⟨rfl, rfl, rfl, rfl, (never_wedged 0 ⟨.inl rfl, rfl⟩ hmoves rfl rfl rfl).1 rfl⟩

end Session

end ResilientChannel
