import ResilientChannel.Proofs.Session.Pulse
import ResilientChannel.Proofs.Session.Undisturbed

/-!
A half-open connection is found out in time, and never before.

* **One ping.** While the server is silent the heartbeat pings at most once (`Pulse.countP_ping_le`):
  the second beat of a silence finds it longer than the threshold.
* **Cause.** A beat that forces a reconnect finds an open line, no pending attempt, and a silence longer
  than the threshold (`BeatForces.cause`).
* **The stages.** A channel that is left to itself waits for its ping, then for the finding of the
  silence, and is torn down (`Stage`). `Awaiting` is what it is while it waits, and `Subsiding` what it is
  while it handles what the line fires when told to disconnect.
-/

namespace ResilientChannel.Session

variable {s t u : Session} {heard due : Time}

/-! ### One ping -/

/-- A frame handed over on behalf of the heartbeat. -/
def Deed.isPing : Deed → Bool
  | .handed _ .beat => true
  | _ => false

/-- A ping comes right after its beat. -/
lemma Pulse.exists_of_isPing {r : Record} {h : List Record} (hp : Pulse (r :: h))
    (hr : r.deed.isPing) : ∃ before, h = { time := r.time, deed := .beat .ping } :: before := by
  obtain ⟨time, deed⟩ := r
  simp only [Deed.isPing] at hr
  split at hr
  · exact hp.1.2
  · cases hr

/-- Between two pings the server is heard. -/
lemma Pulse.not_isPing {r q : Record} {mid older : List Record}
    (hp : Pulse (r :: (mid ++ q :: older))) (hc : Chronicle (mid ++ q :: older))
    (hsilent : ∀ x ∈ mid ++ [q], x.deed.isActivity = false) (hr : r.deed.isPing) :
    q.deed.isPing = false := by
  refine Bool.eq_false_iff.mpr fun hq => ?_
  obtain ⟨before, hbefore⟩ := hp.exists_of_isPing hr
  obtain ⟨before', rfl⟩ := hp.2.suffix.exists_of_isPing hq
  cases mid with
  | nil =>
      obtain ⟨rfl, -⟩ := List.cons.inj hbefore
      simp [Deed.isPing] at hq
  | cons beat mid =>
      obtain ⟨rfl, -⟩ := List.cons.inj hbefore
      have hsplit : mid ++ q :: { time := q.time, deed := .beat .ping } :: before' =
          (mid ++ [q]) ++ { time := q.time, deed := .beat .ping } :: before' := by simp
      rw [List.cons_append, hsplit] at hp hc
      exact hp.2.beat_again hc.2.2 (fun x hx => hsilent x (.tail _ hx)) rfl

/-- At most one ping is sent while the server is silent. -/
lemma Pulse.countP_ping_le {mid older : List Record} (hp : Pulse (mid ++ older))
    (hc : Chronicle (mid ++ older)) (hsilent : ∀ r ∈ mid, r.deed.isActivity = false) :
    mid.countP (·.deed.isPing) ≤ 1 := by
  induction mid with
  | nil => simp
  | cons r mid ih =>
      have hrest := ih hp.2 hc.2.2 fun q hq => hsilent q (.tail _ hq)
      rw [List.countP_cons]
      cases hr : r.deed.isPing with
      | false => simpa using hrest
      | true =>
          have hnone : mid.countP (·.deed.isPing) = 0 := by
            refine List.countP_eq_zero.mpr fun q hq => ?_
            obtain ⟨newer, before, rfl⟩ := List.append_of_mem hq
            rw [List.cons_append, List.append_assoc, List.cons_append] at hp hc
            have hbetween : ∀ x ∈ newer ++ [q], x.deed.isActivity = false :=
              fun x hx => hsilent x (by grind)
            rw [hp.not_isPing hc.2.2 hbetween hr]
            exact Bool.false_ne_true
          rw [hnone]
          simp

/-! ### The cause of a force -/

/-- The driver's next deed is a beat that forces a reconnect. -/
def BeatForces (s t : Session) : Prop :=
  s.drive? = some t ∧ ∃ newer beat, t.history = newer ++ { time := s.now, deed := .forced } ::
    { time := s.now, deed := .beat beat } :: s.history

/-- An attempt is entered first. -/
lemma openLine_history (s : Session) :
    ∃ new, s.openLine.history = new ++ { time := s.now, deed := .opened } :: s.history := by
  obtain ⟨new, hnew, -⟩ := (hear_traffic ({ s with line := s.line.connect.1 }.note .opened)
    s.line.connect.2).history
  exact ⟨new, hnew⟩

/-- A signal is entered first. -/
lemma handle_history (s : Session) (rest : List Signal) (x : Signal) :
    ∃ new, (({ s with queue := rest }.note (.took x)).handle x).history =
      new ++ { time := s.now, deed := .took x } :: s.history := by
  cases hx : x.isShutdown with
  | true =>
      obtain rfl : x = .shutdown := by cases x <;> simp_all [Signal.isShutdown]
      rw [handle, stop_history, note_history, List.append_cons]
      exact ⟨_, rfl⟩
  | false =>
      obtain ⟨new, hnew, -⟩ := (handle_exchange s rest hx).flow.entries
      exact ⟨new, hnew⟩

/-- A deed with a beat for its first entry is a beat. -/
lemma drive?_of_beat (h : s.drive? = some t) {new : List Record} {beat : Heartbeat.Beat}
    (hhistory : t.history = new ++ { time := s.now, deed := .beat beat } :: s.history) :
    s.running ∧ s.queue = [] ∧ s.life.retry.isDue s.now = false ∧ s.life.heartbeat.isDue s.now ∧
      t = s.beat := by
  have hfirst : ∀ {older : List Record} {r : Record}, t.history = older ++ r :: s.history →
      r.deed = .beat beat := by
    intro older r hr
    have hcons := (List.append_inj' (hr.symm.trans hhistory) (by simp)).2
    rw [(List.cons.inj hcons).1]
  obtain ⟨hrunning, ⟨x, rest, -, rfl⟩ | ⟨-, hdue, rfl⟩ | ⟨hqueue, hretry, hdue, rfl⟩⟩ := drive?_cases h
  · obtain ⟨older, holder⟩ := handle_history s rest x
    cases hfirst holder
  · obtain ⟨older, holder⟩ := openLine_history
      { s with life.retry := { s.life.retry with dueAt := none } }
    rw [retry_of_isDue hdue] at hfirst
    cases hfirst holder
  · exact ⟨hrunning, hqueue, hretry, hdue, rfl⟩

lemma BeatForces.queue (h : BeatForces s t) : s.running ∧ s.queue = [] := by
  obtain ⟨hdrive, newer, beat, hhistory⟩ := h
  rw [List.append_cons] at hhistory
  obtain ⟨hrunning, hqueue, -⟩ := drive?_of_beat hdrive hhistory
  exact ⟨hrunning, hqueue⟩

/-- What forces a reconnect is a silence longer than the threshold, on an open line and with no attempt
pending. -/
lemma BeatForces.cause (h : BeatForces s t) (hp : Pulsing s) :
    s.line.state.isOpen ∧ s.life.retry.dueAt = none ∧
      ∃ heard, lastHeard s.history = some heard ∧ heard + Parameters.staleAfter < s.now := by
  obtain ⟨hdrive, newer, beat, hhistory⟩ := h
  rw [List.append_cons] at hhistory
  obtain ⟨-, -, -, hdue, rfl⟩ := drive?_of_beat hdrive hhistory
  rw [Heartbeat.isDue, hp.dueAt, Option.any_eq_true] at hdue
  obtain ⟨due, hbeat, -⟩ := hdue
  obtain ⟨heard, hheard⟩ := hp.pulse.heard hbeat
  have hlast : s.life.heartbeat.lastActivity = some heard := hp.lastActivity.trans hheard
  have hforced : ∀ {l : List Record} {r : Record}, s.beat.history = l ++ r :: s.history →
      { time := s.now, deed := .forced } ∈ l := by
    intro l r hl
    rw [(List.append_inj' (hl.symm.trans hhistory) (by simp)).1]
    simp
  rcases Nat.lt_or_ge (heard + Parameters.staleAfter) s.now with hlate | hearly
  · rw [beat_of_late hlast hlate] at hforced
    split at hforced
    · cases hforced (l := []) rfl
    next hopen =>
      simp only [Bool.or_eq_true, not_or, Bool.not_eq_true', Bool.not_eq_false,
        Bool.not_eq_true, Option.isSome_eq_false_iff, Option.isNone_iff_eq_none] at hopen
      exact ⟨hopen.1, hopen.2, heard, hheard, hlate⟩
  · -- a ping leaves at most its frame after its beat
    rw [beat_of_early hlast hearly, handIfOpen] at hforced
    split at hforced
    · simpa using hforced (l := [{ time := s.now, deed := .handed Frame.ping.encode .beat }]) rfl
    · cases hforced (l := []) rfl

/-! ### Waiting -/

/-- An open channel with nothing in its queue waits for a beat at `due`, the server having been heard at
`heard`. -/
structure Awaiting (heard due : Time) (s : Session) : Prop where
  running : s.running
  started : s.life.started = true
  idle : s.watchers.all (·.isIdle)
  queue : s.queue = []
  isOpen : s.line.state.isOpen
  retry : s.life.retry.dueAt = none
  lastActivity : s.life.heartbeat.lastActivity = some heard
  dueAt : s.life.heartbeat.dueAt = some due
  now_le : s.now ≤ due

namespace Awaiting

lemma of_isSettled (h : s.isSettled) (hrunning : s.running) (hstarted : s.life.started = true)
    (hopen : s.line.state.isOpen) (hretry : s.life.retry.dueAt = none)
    (hheard : s.life.heartbeat.lastActivity = some heard)
    (hdue : s.life.heartbeat.dueAt = some due) : Awaiting heard due s := by
  obtain ⟨hundue, hqueue⟩ := Undue.of_isSettled h hrunning hstarted
  have hnow : s.now < due := by simpa [Heartbeat.isDue, hdue] using hundue.heartbeat
  rw [isSettled, Bool.and_eq_true] at h
  exact ⟨hrunning, hstarted, h.2, hqueue, hopen, hretry, hheard, hdue, Nat.le_of_lt hnow⟩

/-- The clock stops at the beat. -/
lemma pass (h : Awaiting heard due s) {duration : Time}
    (hstops : ∀ deadline ∈ s.nextDeadline?, s.now + duration ≤ deadline) :
    Awaiting heard due (s.pass duration) where
  running := by simpa using h.running
  started := by simpa using h.started
  idle := by simpa using h.idle
  queue := by simpa using h.queue
  isOpen := by simpa using h.isOpen
  retry := by simpa using h.retry
  lastActivity := by simpa using h.lastActivity
  dueAt := by simpa using h.dueAt
  now_le := by simpa using hstops due (by simp [nextDeadline?, h.retry, h.dueAt])

/-- All that the driver can do is to beat, and that is at its time. -/
lemma drive (h : Awaiting heard due s) (ht : s.drive? = some t) : s.now = due ∧ t = s.beat := by
  obtain ⟨-, ⟨x, rest, hqueue, -⟩ | ⟨-, hdue, -⟩ | ⟨-, -, hdue, rfl⟩⟩ := drive?_cases ht
  · simp [h.queue] at hqueue
  · simp [Retry.isDue, h.retry] at hdue
  · refine ⟨Nat.le_antisymm h.now_le ?_, rfl⟩
    simpa [Heartbeat.isDue, h.dueAt] using hdue

/-- A beat at its time is not put off. -/
lemma not_isSettled (h : Awaiting heard s.now s) : s.isSettled = false := by
  simp [isSettled, drive?, h.running, h.queue, Retry.isDue, h.retry, Heartbeat.isDue, h.dueAt]

end Awaiting

/-! ### Torn down -/

/-- A ping of the heartbeat, or a disconnect asked of the line. -/
def Deed.isPingOrClosing : Deed → Bool
  | .handed _ .beat | .closed => true
  | _ => false

/-- The pings and the disconnects of a history. -/
def pingsAndClosings (h : List Record) : List Record := h.filter (·.deed.isPingOrClosing)

lemma Deed.isPingOrClosing_of_isResponse {d : Deed} (hd : d.isResponse) :
    d.isPingOrClosing = false := by
  simp only [isResponse] at hd
  split at hd <;> simp_all [isPingOrClosing]

/-- From one session to the other these are the pings and the disconnects. -/
def Shows (shown : List Record) (s t : Session) : Prop :=
  ∃ new, t.history = new ++ s.history ∧ pingsAndClosings new = shown

namespace Shows

variable {shown shown' : List Record}

lemma suffix (h : Shows shown s t) : s.history <:+ t.history := by
  obtain ⟨new, hnew, -⟩ := h
  exact ⟨new, hnew.symm⟩

/-- Entries that are neither a ping nor a disconnect. -/
lemma nothing (new : List Record) (hhistory : t.history = new ++ s.history)
    (hnew : ∀ r ∈ new, r.deed.isPingOrClosing = false) : Shows [] s t :=
  ⟨new, hhistory, List.filter_eq_nil_iff.mpr fun r hr => by simp [hnew r hr]⟩

lemma trans (h : Shows shown s t) (h' : Shows shown' t u) : Shows (shown' ++ shown) s u := by
  obtain ⟨new, hnew, rfl⟩ := h
  obtain ⟨new', hnew', rfl⟩ := h'
  exact ⟨new' ++ new, by rw [hnew', hnew, List.append_assoc], List.filter_append ..⟩

/-- One entry may come first that is neither. -/
lemma after {r : Record} (hhistory : t.history = r :: s.history)
    (hr : r.deed.isPingOrClosing = false) (h : Shows shown t u) : Shows shown s u := by
  have hentry : Shows [] s t := .nothing [r] hhistory (by simpa using hr)
  exact List.append_nil shown ▸ hentry.trans h

/-- Nothing is entered. -/
lemma congr (h : Shows shown s t) (hhistory : u.history = t.history) : Shows shown s u :=
  h.trans (.nothing [] hhistory nofun)

lemma hear (s : Session) (events : List TransportEvent) : Shows [] s (s.hear events) := by
  obtain ⟨new, hnew, -, hposted⟩ :=
    (Flow.hear (q := fun d => !d.isPingOrClosing) s (fun _ => rfl) events).entries
  exact .nothing new hnew fun r hr => by simpa using hposted r hr

end Shows

/-- A beat in time is a ping, and the wait goes on. -/
lemma Awaiting.beat_of_early (h : Awaiting heard s.now s)
    (hearly : s.now ≤ heard + Parameters.staleAfter) :
    Awaiting heard (s.now + Parameters.pingInterval) s.beat ∧
      Shows [{ time := s.now, deed := .handed "ping:" .beat }] s s.beat := by
  have hbeat : s.beat = (s.beatNoted .ping).note (.handed "ping:" .beat) := by
    rw [Session.beat_of_early h.lastActivity hearly, handIfOpen]
    exact if_pos h.isOpen
  rw [hbeat]
  exact ⟨{ h with dueAt := rfl, now_le := Nat.le_add_right _ _ },
    .after (t := s.beatNoted .ping) rfl rfl ⟨[_], rfl, rfl⟩⟩

/-- Nothing is left to a started channel but events of the line. -/
structure Subsiding (s : Session) : Prop extends Undue s where
  idle : s.watchers.all (·.isIdle)
  queue : ∃ events : List TransportEvent, s.queue = events.map .transport

namespace Subsiding

/-- It makes no difference how often no time passes. -/
lemma pass_zero (h : Subsiding s) : Subsiding (s.pass 0) where
  running := by simpa using h.running
  started := by simpa using h.started
  retry := by simpa using h.retry
  heartbeat := by simpa using h.heartbeat
  idle := by simpa using h.idle
  queue := by simpa using h.queue

/-- More events are fired. -/
lemma hear (h : Subsiding s) (events : List TransportEvent) : Subsiding (s.hear events) where
  toUndue := h.toUndue.hear events
  idle := by simpa using h.idle
  queue := by
    obtain ⟨waiting, hwaiting⟩ := h.queue
    exact ⟨waiting ++ events, by rw [hear_queue h.running, hwaiting, List.map_append]⟩

/-- While all is calm, an event leads to no ping and no disconnect. -/
lemma handle (h : Subsiding s) (event : TransportEvent)
    (hcalm : Calm s (s.handle (.transport event))) :
    Subsiding (s.handle (.transport event)) ∧ Shows [] s (s.handle (.transport event)) := by
  have ht := Session.attends event h.started fun _ => hcalm.idles_of_noticeOf h.started
  obtain ⟨new, hnew, hresponse⟩ := ht.history
  exact ⟨{ h.toUndue.attends ht with
    idle := ht.watchers ▸ h.idle
    queue := ht.queue ▸ h.queue },
    .nothing new hnew fun r hr => Deed.isPingOrClosing_of_isResponse (hresponse r hr)⟩

/-- While all is calm, the driver handles the events and does nothing else. -/
lemma drive (h : Subsiding s) (ht : s.drive? = some t) (hcalm : Calm s t) :
    Subsiding t ∧ Shows [] s t := by
  obtain ⟨events, hevents⟩ := h.queue
  obtain ⟨-, ⟨x, rest, hqueue, rfl⟩ | ⟨-, hdue, -⟩ | ⟨-, -, hdue, -⟩⟩ := drive?_cases ht
  · obtain ⟨event, events, rfl, rfl, rfl⟩ := List.map_eq_cons_iff.mp (hevents.symm.trans hqueue)
    have htook : Subsiding ({ s with queue := events.map .transport }.note
        (.took (.transport event))) :=
      { h.toUndue.pop _ _ with
        idle := h.idle
        queue := ⟨events, rfl⟩ }
    obtain ⟨new, hnew, -⟩ :=
      (handle_exchange s (events.map .transport) (x := .transport event) rfl).flow.entries
    have hhandled := htook.handle event (hcalm.split (List.suffix_cons ..) ⟨new, hnew.symm⟩).2
    exact ⟨hhandled.1, .after rfl rfl hhandled.2⟩
  · simp [h.retry] at hdue
  · simp [h.heartbeat] at hdue

/-- The line is asked to disconnect, and more events may come of it. -/
lemma closeLine (h : Subsiding s) :
    Subsiding s.closeLine ∧ Shows [{ time := s.now, deed := .closed }] s s.closeLine := by
  have hnoted : Subsiding ({ s with line := s.line.disconnect.1 }.note .closed) :=
    ⟨⟨h.running, h.started, h.retry, h.heartbeat⟩, h.idle, h.queue⟩
  have hentry : Shows [{ time := s.now, deed := .closed }] s
      ({ s with line := s.line.disconnect.1 }.note .closed) := ⟨[_], rfl, rfl⟩
  exact ⟨hnoted.hear _, hentry.trans (.hear _ _)⟩

/-- While all is calm, a force asks the line to disconnect once. -/
lemma force (h : Subsiding s) (hcalm : Calm s s.force) :
    Subsiding s.force ∧ Shows [{ time := s.now, deed := .closed }] s s.force := by
  have hnoted : Subsiding (s.note .forced) :=
    ⟨⟨h.running, h.started, h.retry, h.heartbeat⟩, h.idle, h.queue⟩
  have hclosed := hnoted.closeLine
  have hshown : Shows [{ time := s.now, deed := .closed }] s (s.note .forced).closeLine :=
    .after rfl rfl hclosed.2
  have hforce := force_of_started h.started
  split at hforce
  · -- a loss is made as if the line had reported it
    have hlost : s.force = (s.note .forced).closeLine.handle (.transport .disconnect) := hforce
    obtain ⟨new, hnew, -⟩ := (lose_exchange (s.note .forced).closeLine).flow.entries
    have hcalm' := (hcalm.split hshown.suffix ⟨new, by rw [hforce, hnew]⟩).2
    rw [hlost] at hcalm' ⊢
    have hhandled := hclosed.1.handle .disconnect hcalm'
    exact ⟨hhandled.1, hshown.trans hhandled.2⟩
  · exact hforce ▸ ⟨hclosed.1, hshown⟩

end Subsiding

/-- While all is calm, a beat that comes too late for a ping has the line disconnect once. -/
lemma Awaiting.beat_of_late (h : Awaiting heard s.now s)
    (hlate : heard + Parameters.staleAfter < s.now) (hcalm : Calm s s.beat) :
    Subsiding s.beat ∧ Shows [{ time := s.now, deed := .closed }] s s.beat := by
  have hbeat : s.beat = (s.beatNoted (.stale (s.now - heard))).force := by
    rw [Session.beat_of_late h.lastActivity hlate, if_neg]
    simp [h.isOpen, h.retry]
  have hnoted : Subsiding (s.beatNoted (.stale (s.now - heard))) :=
    { running := h.running
      started := h.started
      retry := by simp [beatNoted, Retry.isDue, h.retry]
      heartbeat := Heartbeat.not_isDue_of_dueAt rfl
      idle := h.idle
      queue := ⟨[], h.queue⟩ }
  obtain ⟨new, hnew, -⟩ := (force_exchange (s.beatNoted (.stale (s.now - heard)))).flow.entries
  rw [hbeat] at hcalm ⊢
  have hforced := hnoted.force (hcalm.split (List.suffix_cons ..) ⟨new, hnew.symm⟩).2
  exact ⟨hforced.1, .after rfl rfl hforced.2⟩

/-! ### The stages -/

/-- How far a channel is that was left to itself in `s`: it waits for its ping, or it has sent it and
waits for the finding of the silence, or it has been torn down. Of the last, no more than its first
moment is told, and only if all was calm. -/
inductive Stage (s : Session) (heard : Time) (t : Session) : Prop
  | fresh (h : Awaiting heard (heard + .ms 25000) t) (hshown : Shows [] s t)
  | pinged (h : Awaiting heard (heard + .ms 50000) t)
      (hshown : Shows [{ time := heard + .ms 25000, deed := .handed "ping:" .beat }] s t)
  | torn (hnow : heard + .ms 50000 ≤ t.now)
      (h : Calm s t → t.now = heard + .ms 50000 → Subsiding t ∧
        Shows [{ time := heard + .ms 50000, deed := .closed },
          { time := heard + .ms 25000, deed := .handed "ping:" .beat }] s t)

namespace Stage

/-- One stage leads to the next. -/
lemma drive (h : Stage s heard t) (hst : s.history <:+ t.history) (hu : t.drive? = some u) :
    Stage s heard u := by
  cases h with
  | fresh h hshown =>
      obtain ⟨hnow, rfl⟩ := h.drive hu
      rw [← hnow] at h
      have hearly : t.now ≤ heard + Parameters.staleAfter := by
        rw [hnow]
        exact Nat.add_le_add_left (by decide) heard
      obtain ⟨hwait, hping⟩ := h.beat_of_early hearly
      have hdue : t.now + Parameters.pingInterval = heard + .ms 50000 := by
        rw [hnow]
        exact Nat.add_assoc ..
      exact .pinged (hdue ▸ hwait) (hnow ▸ hshown.trans hping)
  | pinged h hshown =>
      obtain ⟨hnow, rfl⟩ := h.drive hu
      rw [← hnow] at h
      have hlate : heard + Parameters.staleAfter < t.now := by
        rw [hnow]
        exact Nat.add_lt_add_left (by decide) heard
      refine .torn (Nat.le_of_eq ((drive?_now hu).trans hnow).symm) fun hcalm _ => ?_
      obtain ⟨hsubsiding, hclosed⟩ := h.beat_of_late hlate (hcalm.split hst (drive?_suffix hu)).2
      exact ⟨hsubsiding, hnow ▸ hshown.trans hclosed⟩
  | torn hnow h =>
      refine .torn ((drive?_now hu).symm ▸ hnow) fun hcalm hnow' => ?_
      obtain ⟨hbefore, hafter⟩ := hcalm.split hst (drive?_suffix hu)
      obtain ⟨hsubsiding, hshown⟩ := h hbefore ((drive?_now hu).symm.trans hnow')
      obtain ⟨hsubsiding', hnothing⟩ := hsubsiding.drive hu hafter
      exact ⟨hsubsiding', hshown.trans hnothing⟩

/-- Nobody has news for the channel. -/
lemma watch (h : Stage s heard t) (hst : s.history <:+ t.history) (id : Nat) :
    Stage s heard (t.watch id) := by
  cases h with
  | fresh h hshown => exact (watch_of_idle h.idle id).symm ▸ .fresh h hshown
  | pinged h hshown => exact (watch_of_idle h.idle id).symm ▸ .pinged h hshown
  | torn hnow h =>
      have htraffic : Traffic t (t.watch id) :=
        Touches.traffic (watch_touches (p := fun _ => True) t id)
      refine .torn (htraffic.now.symm ▸ hnow) fun hcalm hnow' => ?_
      obtain ⟨hsubsiding, hshown⟩ :=
        h (hcalm.split hst htraffic.suffix).1 (htraffic.now.symm.trans hnow')
      exact (watch_of_idle hsubsiding.idle id).symm ▸ ⟨hsubsiding, hshown⟩

/-- The clock stops at the ping and at the finding of the silence. -/
lemma pass (h : Stage s heard t) (hst : s.history <:+ t.history) {duration : Time}
    (hstops : ∀ deadline ∈ t.nextDeadline?, t.now + duration ≤ deadline) :
    Stage s heard (t.pass duration) := by
  have hsame : (t.pass duration).history = t.history := pass_history t duration
  have hlater : (t.pass duration).now = t.now + duration := pass_now t duration
  cases h with
  | fresh h hshown => exact .fresh (h.pass hstops) (hshown.congr hsame)
  | pinged h hshown => exact .pinged (h.pass hstops) (hshown.congr hsame)
  | torn hnow h =>
      refine .torn (hlater ▸ Nat.le_add_right_of_le hnow) fun hcalm hnow' => ?_
      -- in the first moment of the last stage no time has passed
      obtain rfl : duration = 0 := by
        rw [hlater] at hnow'
        grind
      have hbefore := (hcalm.split hst (hsame ▸ List.suffix_rfl)).1
      obtain ⟨hsubsiding, hshown⟩ := h hbefore (hlater.symm.trans hnow')
      exact ⟨hsubsiding.pass_zero, hshown.congr hsame⟩

end Stage

lemma Smooth.stage (h : Smooth s t) (hs : Awaiting heard (heard + .ms 25000) s) :
    Stage s heard t := by
  induction h with
  | refl => exact .fresh hs (.nothing [] rfl nofun)
  | drive h hu ih => exact ih.drive h.suffix hu
  | watch h id ih => exact ih.watch h.suffix id
  | pass h duration _ hstops ih => exact ih.pass h.suffix hstops

/-- When all is done in the moment in which the silence is found, the channel has been torn down. -/
lemma Stage.shows (h : Stage s heard t) (hcalm : Calm s t) (hsettled : t.isSettled)
    (hnow : t.now = heard + .ms 50000) :
    Shows [{ time := heard + .ms 50000, deed := .closed },
      { time := heard + .ms 25000, deed := .handed "ping:" .beat }] s t := by
  cases h with
  | fresh h _ =>
      have hle := hnow ▸ h.now_le
      have hlt : heard + .ms 25000 < heard + .ms 50000 := Nat.add_lt_add_left (by decide) heard
      exact absurd hle (Nat.not_le_of_lt hlt)
  | pinged h _ =>
      rw [← hnow] at h
      simp [h.not_isSettled] at hsettled
  | torn _ h => exact (h hcalm hnow).2

/-! ### Runs -/

/-- With the driver its heartbeat ends. -/
lemma heartbeat_of_not_running (now : Time) (line : Line) (moves : List Move) :
    ((fresh now line).run moves).running = false →
      ((fresh now line).run moves).life.heartbeat.dueAt = none := by
  have hended : Invariant (fun _ => True)
      fun s => s.running = false → s.life.heartbeat.dueAt = none :=
    { touch := fun h ht => by rwa [ht.traffic.running, ht.traffic.life]
      drive := fun {s t} _ ht hrunning => by
        obtain ⟨hs, ⟨rest, -, rfl⟩ | ⟨x, rest, -, -, hex⟩ | ⟨-, hex⟩⟩ := drive?_exchange ht
        · simp [Heartbeat.stop]
        · have := hex.flow.running
          simp_all
        · have := hex.flow.running
          simp_all
      pass := fun _ h => h }
  exact hended.run (by simp [fresh]) fun m _ => m.within_of_forall fun _ => trivial

/-- **Half-open connections are detected, in time and never before.** In every run over any line

* the heartbeat sends at most one ping while the server is silent, however late it is;
* it forces a reconnect only if the server was heard more than 45 s ago, the line is open and no attempt
  is pending;
* a settled channel that is started and open, with no attempt pending, with the server heard last at
  `heard` and a beat due 25 s later, is left to itself while the clock moves smoothly up to 50 s after
  `heard`, and then its heartbeat has sent one ping, after 25 s, and has had the line disconnect once, after
  50 s. -/
theorem half_open_detected (now : Time) (line : Line) (moves : List Move) :
    let s := (fresh now line).run moves
    (∀ newer silent older, s.history = newer ++ silent ++ older →
      (∀ r ∈ silent, r.deed.isActivity = false) → silent.countP (·.deed.isPing) ≤ 1) ∧
    (∀ t, BeatForces s t → s.line.state.isOpen ∧ s.life.retry.dueAt = none ∧
      ∃ heard, lastHeard s.history = some heard ∧ heard + .ms 45000 < s.now) ∧
    ∀ heard t, s.isSettled → s.life.started → s.line.state.isOpen → s.life.retry.dueAt = none →
      lastHeard s.history = some heard → s.life.heartbeat.dueAt = some (heard + .ms 25000) →
      Smooth s t → Calm s t → t.isSettled → t.now = heard + .ms 50000 →
      ∃ new, t.history = new ++ s.history ∧
        pingsAndClosings new = [{ time := heard + .ms 50000, deed := .closed },
          { time := heard + .ms 25000, deed := .handed "ping:" .beat }] := by
  intro s
  have hp : Pulsing s := pulsing_run now line moves
  have hc : Chronicle s.history := (recorded_run now line moves).chronicle
  refine ⟨?_, fun t ht => ht.cause hp, ?_⟩
  · intro newer silent older heq hsilent
    rw [heq, List.append_assoc] at hc
    have hpulse := hp.pulse
    rw [heq, List.append_assoc] at hpulse
    exact hpulse.suffix.countP_ping_le hc.suffix hsilent
  · intro heard t hsettled hstarted hopen hretry hheard hdue hsmooth hcalm hsettled' hnow
    have hrunning : s.running := by
      cases hrunning : s.running with
      | true => rfl
      | false =>
          rw [heartbeat_of_not_running now line moves hrunning] at hdue
          cases hdue
    have hwaiting : Awaiting heard (heard + .ms 25000) s :=
      .of_isSettled hsettled hrunning hstarted hopen hretry (hp.lastActivity.trans hheard) hdue
    exact (hsmooth.stage hwaiting).shows hcalm hsettled' hnow

/-- An open channel that never hears of the server again. -/
theorem half_open_detected_once :
    let s := (fresh 0 {}).run [.act .connect, .drive, .act .lineOpens, .drive]
    let t := s.run [.pass (.ms 25000), .drive, .pass (.ms 25000), .drive, .drive]
    s.isSettled ∧ s.life.started ∧ s.line.state.isOpen ∧ s.life.retry.dueAt = none ∧
      lastHeard s.history = some 0 ∧ s.life.heartbeat.dueAt = some (0 + .ms 25000) ∧ Smooth s t ∧
      Calm s t ∧ t.isSettled ∧ t.now = 0 + .ms 50000 ∧
      ∃ new, t.history = new ++ s.history ∧
        pingsAndClosings new = [{ time := 0 + .ms 50000, deed := .closed },
          { time := 0 + .ms 25000, deed := .handed "ping:" .beat }] := by
  intro s t
  have hsettled : s.isSettled := by decide +kernel
  have hstarted : s.life.started := by decide +kernel
  have hopen : s.line.state.isOpen := by decide +kernel
  have hretry : s.life.retry.dueAt = none := by decide +kernel
  have hheard : lastHeard s.history = some 0 := by decide +kernel
  have hdue : s.life.heartbeat.dueAt = some (0 + .ms 25000) := by decide +kernel
  have hsmooth : Smooth s t := Smooth.refl.run (by decide +kernel)
  have hcalm : Calm s t := by
    obtain ⟨new, hnew⟩ := hsmooth.suffix
    have hall : ∀ r ∈ t.history, r.deed.isCalm := by decide +kernel
    exact ⟨new, hnew.symm, fun r hr => hall r (hnew ▸ List.mem_append_left _ hr)⟩
  have hsettled' : t.isSettled := by decide +kernel
  have hnow : t.now = 0 + .ms 50000 := by decide +kernel
  have hshown := (half_open_detected 0 {} [.act .connect, .drive, .act .lineOpens, .drive]).2.2
    0 t hsettled hstarted hopen hretry hheard hdue hsmooth hcalm hsettled' hnow
  exact ⟨hsettled, hstarted, hopen, hretry, hheard, hdue, hsmooth, hcalm, hsettled', hnow, hshown⟩

end ResilientChannel.Session
