import ResilientChannel.Proofs.Retry.Backoff
import ResilientChannel.Proofs.Session.Invariant

/-!
The history of a session explains the state of its driver.

* **The milestones.** The deeds of the driver, without the traffic in between, told apart as far as
  they matter to the counter and to the lifecycle notices. `outage` counts the losses since the last
  thing that set the counter back, `registered` finds the callback in force, and `answer` says which
  calls a deed asks for; in a `Punctual` row each deed has got exactly those, at once.
* **The pending attempt.** `pending` reads off the history when the next attempt is due, and `begun`
  whether the channel was started.
* **The chronicle.** Every entry was made when nothing before it was later, and on grounds that lie
  before it (`Record.Lawful`): an attempt needs a start or a pending attempt that is due, a loss needs
  a started channel and advances the counter by one, a snapshot shows the counter of its moment.
* **The invariant.** `Recorded` says that the driver's state is what the history says. Each of the
  driver's operations keeps it, hence so does every run (`recorded_run`).
-/

namespace ResilientChannel.Session

variable {s t : Session}

/-! ### The milestones -/

/-- A deed of the driver, as far as it matters to the counter and to the lifecycle notices. -/
inductive Milestone
  /-- The disconnect transition. -/
  | lost
  /-- A handled `Connect`. -/
  | connected
  /-- The backoff was cut short. -/
  | accelerated
  /-- A handled registration. -/
  | registered (kind : NoticeKind) (callback : Callback)
  /-- A callback was called for a lifecycle notice. -/
  | notified (kind : NoticeKind) (tag : String) (view : View)
  /-- Anything else that the driver did. -/
  | other

/-- The milestone that a deed is, unless it is traffic. -/
def Deed.milestone? : Deed → Option Milestone
  | .posted _ | .handed .. => none
  | .lost _ => some .lost
  | .took (.transport .connect) => some .connected
  | .took (.register kind callback) => some (.registered kind callback)
  | .accelerated => some .accelerated
  | .called tag view .connect _ => some (.notified .connect tag view)
  | .called tag view .disconnect _ => some (.notified .disconnect tag view)
  | _ => some .other

/-- The milestones of a history, the latest first. -/
def milestones (history : List Record) : List Milestone := history.filterMap (·.deed.milestone?)

/-- The losses since the last `Connect` or acceleration, and one more if an acceleration came last. -/
def outage : List Milestone → Nat
  | [] => 0
  | .lost :: ms => outage ms + 1
  | .connected :: _ => 0
  | .accelerated :: _ => 1
  | .registered .. :: ms | .notified .. :: ms | .other :: ms => outage ms

/-- The callback that was registered last for a kind. -/
def registered (kind : NoticeKind) : List Milestone → Option Callback
  | [] => none
  | .registered k callback :: ms => if kind = k then some callback else registered kind ms
  | _ :: ms => registered kind ms

/-- The call that a notice leads to: one call of the registered callback, if there is one. -/
def summons (kind : NoticeKind) (ms : List Milestone) : List Milestone :=
  ((registered kind ms).map fun c => .notified kind c.tag c.view).toList

/-- The calls that a deed asks for after the milestones `ms`: a loss that brings the outage to four or
more asks for the disconnect callback, a `Connect` that ends an outage for the connect callback, and
nothing else asks for either. -/
def answer : Milestone → List Milestone → List Milestone
  | .lost, ms => if 4 ≤ outage ms + 1 then summons .disconnect ms else []
  | .connected, ms => if 0 < outage ms then summons .connect ms else []
  | _, _ => []

/-- A call for a lifecycle notice. -/
def Milestone.isNotified : Milestone → Bool
  | .notified .. => true
  | _ => false

/-- Every deed is followed at once by the calls that it asks for, and there are no others. -/
inductive Punctual : List Milestone → Prop
  | nil : Punctual []
  | step {m : Milestone} {ms : List Milestone} (h : Punctual ms) (hm : m.isNotified = false) :
      Punctual (answer m ms ++ m :: ms)

lemma milestones_cons (r : Record) (h : List Record) :
    milestones (r :: h) = r.deed.milestone?.toList ++ milestones h := by
  simp only [milestones]
  cases hr : r.deed.milestone? <;> simp [hr]

lemma milestones_append (h h' : List Record) :
    milestones (h ++ h') = milestones h ++ milestones h' := List.filterMap_append ..

/-! ### The pending attempt -/

/-- When the next attempt is due: set by a loss, and consumed, cleared or dropped since then. -/
def pending : List Record → Option Time
  | [] => none
  | r :: h =>
    match r.deed with
    | .lost n => some (r.time + Retry.delay n)
    | .took (.transport .connect) | .opened | .ended => none
    | _ => pending h

/-- A handled start. -/
def Deed.isStart : Deed → Bool
  | .took .start => true
  | _ => false

/-- A start was handled. -/
def begun (history : List Record) : Bool := history.any (·.deed.isStart)

/-! ### The chronicle -/

/-- What an entry asks of the history before it. -/
def Record.Lawful (r : Record) (older : List Record) : Prop :=
  match r.deed with
  | .opened =>
    (∃ before, older = { time := r.time, deed := .took .start } :: before ∧ begun before = false) ∨
      ∃ due, pending older = some due ∧ due ≤ r.time
  | .lost n => begun older = true ∧ n = min 8 (outage (milestones older) + 1)
  | .answered snapshot => snapshot.attempts = min 8 (outage (milestones older))
  | _ => True

/-- Every entry is lawful, and no entry is earlier than those before it. -/
def Chronicle : List Record → Prop
  | [] => True
  | r :: older => (∀ q ∈ older, q.time ≤ r.time) ∧ r.Lawful older ∧ Chronicle older

lemma Chronicle.suffix {newer : List Record} {h : List Record} :
    Chronicle (newer ++ h) → Chronicle h := by
  induction newer with
  | nil => exact id
  | cons r newer ih => exact fun hc => ih hc.2.2

/-- An entry that leaves the lifecycle as it is: neither a milestone but for calls, nor a start, an
attempt or an end. -/
def Deed.isQuiet : Deed → Bool
  | .posted _ | .handed .. | .closed | .forced | .beat _ | .called .. => true
  | .took x => !(x matches .start | .transport .connect | .register ..)
  | _ => false

lemma Deed.isQuiet_of_isTraffic {d : Deed} (h : d.isTraffic) : d.isQuiet := by
  cases d <;> simp_all [isTraffic, isQuiet]

section Quiet

variable {r : Record} (hr : r.deed.isQuiet) (h : List Record)

include hr

lemma pending_quiet : pending (r :: h) = pending h := by
  obtain ⟨time, deed⟩ := r
  simp only [Deed.isQuiet] at hr
  split at hr <;> simp_all [pending]
  next x => split <;> simp_all

lemma begun_quiet : begun (r :: h) = begun h := by
  obtain ⟨time, deed⟩ := r
  have hstart : deed.isStart = false := by
    simp only [Deed.isStart]
    split <;> simp_all [Deed.isQuiet]
  simp [begun, hstart]

lemma outage_quiet : outage (milestones (r :: h)) = outage (milestones h) := by
  obtain ⟨time, deed⟩ := r
  rw [milestones_cons]
  simp only [Deed.milestone?]
  split <;> simp_all [Deed.isQuiet, outage]

lemma registered_quiet (kind : NoticeKind) :
    registered kind (milestones (r :: h)) = registered kind (milestones h) := by
  obtain ⟨time, deed⟩ := r
  rw [milestones_cons]
  simp only [Deed.milestone?]
  split <;> simp_all [Deed.isQuiet, registered]

lemma lawful_quiet : r.Lawful h := by
  obtain ⟨time, deed⟩ := r
  rw [Record.Lawful]
  split <;> simp_all [Deed.isQuiet]

end Quiet

/-! ### The invariant -/

/-- The driver's state is what the history says. -/
structure Tracked (s : Session) : Prop where
  past : ∀ r ∈ s.history, r.time ≤ s.now
  chronicle : Chronicle s.history
  started : s.life.started = begun s.history
  attempts : s.life.retry.attempts = min 8 (outage (milestones s.history))
  dueAt : s.life.retry.dueAt = pending s.history
  slot : ∀ kind, s.life.callbacks.slot kind = registered kind (milestones s.history)

/-- In addition, no notice is outstanding and none was given without cause. -/
structure Recorded (s : Session) : Prop extends Tracked s where
  notices : Punctual (milestones s.history)

/-- The invariant reads the clock, the history and three parts of the lifecycle. -/
lemma Tracked.congr (h : Tracked s) (hnow : s.now ≤ t.now) (hhistory : t.history = s.history)
    (hstarted : t.life.started = s.life.started) (hretry : t.life.retry = s.life.retry)
    (hcallbacks : t.life.callbacks = s.life.callbacks) : Tracked t where
  past r hr := Nat.le_trans (h.past r (hhistory ▸ hr)) hnow
  chronicle := hhistory ▸ h.chronicle
  started := by rw [hstarted, hhistory, h.started]
  attempts := by rw [hretry, hhistory, h.attempts]
  dueAt := by rw [hretry, hhistory, h.dueAt]
  slot kind := by rw [hcallbacks, hhistory, h.slot]

lemma Recorded.congr (h : Recorded s) (hnow : s.now ≤ t.now) (hhistory : t.history = s.history)
    (hstarted : t.life.started = s.life.started) (hretry : t.life.retry = s.life.retry)
    (hcallbacks : t.life.callbacks = s.life.callbacks) : Recorded t where
  toTracked := h.toTracked.congr hnow hhistory hstarted hretry hcallbacks
  notices := hhistory ▸ h.notices

lemma Tracked.note (h : Tracked s) {d : Deed} (hd : d.isQuiet) : Tracked (s.note d) where
  past := by simpa using h.past
  chronicle := ⟨h.past, lawful_quiet hd _, h.chronicle⟩
  started := by rw [note_history, begun_quiet hd]; exact h.started
  attempts := by rw [note_history, outage_quiet hd]; exact h.attempts
  dueAt := by rw [note_history, pending_quiet hd]; exact h.dueAt
  slot kind := by rw [note_history, registered_quiet hd]; exact h.slot kind

lemma Recorded.note (h : Recorded s) {d : Deed} (hd : d.isQuiet)
    (hm : d.milestone? = some .other) : Recorded (s.note d) where
  toTracked := h.toTracked.note hd
  notices := by
    rw [note_history, milestones_cons, hm]
    exact h.notices.step (m := .other) rfl

lemma milestones_traffic {new : List Record} (h : List Record)
    (hnew : ∀ r ∈ new, r.deed.isTraffic) : milestones (new ++ h) = milestones h := by
  have hnone : milestones new = [] := by
    refine List.filterMap_eq_nil_iff.mpr fun r hr => ?_
    have htraffic := hnew r hr
    simp only [Deed.isTraffic] at htraffic
    split at htraffic <;> simp_all [Deed.milestone?]
  rw [milestones_append, hnone, List.nil_append]

/-- Traffic is a row of quiet notes as far as the invariant is concerned. -/
lemma Tracked.traffic (h : Tracked s) (ht : Traffic s t) : Tracked t := by
  obtain ⟨new, hhistory, hnew⟩ := ht.history
  have key : ∀ new : List Record, (∀ r ∈ new, r.deed.isTraffic ∧ r.time = s.now) →
      Tracked { s with history := new ++ s.history } := by
    intro new
    induction new with
    | nil => exact fun _ => h
    | cons r new ih =>
        intro hnew
        obtain ⟨hr, htime⟩ := hnew r (by simp)
        have hnote := (ih fun q hq => hnew q (by simp [hq])).note (Deed.isQuiet_of_isTraffic hr)
        obtain ⟨time, deed⟩ := r
        subst htime
        exact hnote
  exact (key new hnew).congr (Nat.le_of_eq ht.now.symm) hhistory (by rw [ht.life])
    (by rw [ht.life]) (by rw [ht.life])

lemma Traffic.milestones_eq (ht : Traffic s t) : milestones t.history = milestones s.history := by
  obtain ⟨new, hhistory, hnew⟩ := ht.history
  rw [hhistory, milestones_traffic _ fun r hr => (hnew r hr).1]

lemma Recorded.traffic (h : Recorded s) (ht : Traffic s t) : Recorded t where
  toTracked := h.toTracked.traffic ht
  notices := ht.milestones_eq ▸ h.notices

/-! ### Calls -/

@[simp] lemma dispatch_life (s : Session) (notice : Notice) :
    (s.dispatch notice).life = s.life := by
  cases hc : s.life.callbacks.receiver notice with
  | none => rw [dispatch_of_none hc]
  | some c =>
      obtain ⟨t, did, ht, heq⟩ := dispatch_traffic hc
      rw [heq, note_life, ht.life]

lemma Tracked.dispatch (h : Tracked s) (notice : Notice) : Tracked (s.dispatch notice) := by
  cases hc : s.life.callbacks.receiver notice with
  | none => exact (dispatch_of_none hc).symm ▸ h
  | some c =>
      obtain ⟨t, did, ht, heq⟩ := dispatch_traffic hc
      exact heq ▸ (h.traffic ht).note rfl

/-- A call for a message is no notice of the lifecycle. -/
lemma Recorded.dispatch_message (h : Recorded s) (data : String) :
    Recorded (s.dispatch (.message data)) := by
  cases hc : s.life.callbacks.receiver (.message data) with
  | none => exact (dispatch_of_none hc).symm ▸ h
  | some c =>
      obtain ⟨t, did, ht, heq⟩ := dispatch_traffic hc
      exact heq ▸ (h.traffic ht).note rfl rfl

/-- A lifecycle notice leads to one call of the callback in force. -/
lemma Tracked.milestones_dispatch (h : Tracked s) {notice : Notice}
    (hnotice : notice = .connect ∨ notice = .disconnect) :
    milestones (s.dispatch notice).history =
      summons notice.kind (milestones s.history) ++ milestones s.history := by
  have hslot : s.life.callbacks.receiver notice = registered notice.kind (milestones s.history) :=
    h.slot notice.kind
  cases hc : s.life.callbacks.receiver notice with
  | none => rw [dispatch_of_none hc, summons, ← hslot, hc]; rfl
  | some c =>
      obtain ⟨t, did, ht, heq⟩ := dispatch_traffic hc
      rw [heq, note_history, milestones_cons, ht.milestones_eq, summons, ← hslot, hc]
      rcases hnotice with rfl | rfl <;> rfl

/-! ### The operations -/

lemma Recorded.hear (h : Recorded s) (es : List TransportEvent) : Recorded (s.hear es) :=
  h.traffic (hear_traffic s es)

lemma Recorded.handIfOpen (h : Recorded s) (f : Frame) (o : Origin) :
    Recorded (s.handIfOpen f o) :=
  h.traffic (handIfOpen_traffic s f o)

/-- A live line that is graceful goes idle and reports it. -/
lemma closeLine_of_isLive (h : s.line.onDisconnect = .graceful) (hlive : s.line.state.isLive) :
    s.closeLine = ({ s with line.state := .idle }.note .closed).hear [.disconnect] := by
  rw [closeLine, Line.disconnect_of_isLive h hlive]

lemma closeLine_of_not_isLive (h : s.line.onDisconnect = .graceful)
    (hlive : s.line.state.isLive = false) : s.closeLine = s.note .closed := by
  rw [closeLine, Line.disconnect_of_not_isLive h hlive]
  rfl

lemma Recorded.closeLine (h : Recorded s) : Recorded s.closeLine := by
  have hline : Recorded { s with line := s.line.disconnect.1 } :=
    h.congr (Nat.le_refl _) rfl rfl rfl rfl
  exact (hline.note (d := .closed) rfl rfl).hear _

lemma Recorded.receive (h : Recorded s) (data : String) : Recorded (s.receive data) := by
  have hheard : Recorded s.recordActivity := h.congr (Nat.le_refl _) rfl rfl rfl rfl
  exact hheard.dispatch_message data

/-- The session after a loss, before anybody is told. -/
def lossNoted (s : Session) : Session :=
  { s with life.retry := (s.life.retry.onDisconnect s.now).2 }.note
    (.lost (s.life.retry.onDisconnect s.now).2.attempts)

lemma lose_of_not_started (h : s.life.started = false) : s.lose = s := by
  simp [lose, h]

lemma lose_of_started (h : s.life.started = true) :
    s.lose = if 3 < s.lossNoted.life.retry.attempts then s.lossNoted.dispatch .disconnect
      else s.lossNoted := by
  rw [lose, if_neg (by simp [h])]
  exact if_congr decide_eq_true_iff rfl rfl

lemma Tracked.attempts_lossNoted (h : Tracked s) :
    s.lossNoted.life.retry.attempts = min 8 (outage (milestones s.history) + 1) := by
  have hcap : s.life.retry.attempts ≤ 8 := by rw [h.attempts]; omega
  have hnext := Retry.attempts_onDisconnect hcap s.now
  rw [h.attempts] at hnext
  simp only [lossNoted, note_life]
  omega

lemma Tracked.lossNoted (h : Tracked s) (hs : s.life.started = true) : Tracked s.lossNoted where
  past := by simpa [Session.lossNoted] using h.past
  chronicle := by
    refine ⟨h.past, ⟨h.started ▸ hs, ?_⟩, h.chronicle⟩
    simpa [Session.lossNoted] using h.attempts_lossNoted
  started := by
    rw [Session.lossNoted, note_history, begun, List.any_cons]
    exact h.started
  attempts := h.attempts_lossNoted
  dueAt := rfl
  slot kind := h.slot kind

lemma Recorded.lose (h : Recorded s) : Recorded s.lose := by
  cases hs : s.life.started with
  | false => exact (lose_of_not_started hs).symm ▸ h
  | true =>
      have hnoted := h.lossNoted hs
      have hms : milestones s.lossNoted.history = .lost :: milestones s.history := rfl
      have hcount := h.attempts_lossNoted
      rw [lose_of_started hs]
      split
      · refine ⟨hnoted.dispatch _, ?_⟩
        have hpunctual := h.notices.step (m := .lost) rfl
        rw [answer, if_pos (by omega)] at hpunctual
        rw [hnoted.milestones_dispatch (.inr rfl), hms]
        exact hpunctual
      · refine ⟨hnoted, ?_⟩
        have hpunctual := h.notices.step (m := .lost) rfl
        rw [answer, if_neg (by omega)] at hpunctual
        exact hpunctual

lemma force_of_not_started (h : s.life.started = false) : s.force = s := by
  simp [force, h]

lemma force_of_started (h : s.life.started = true) :
    s.force =
      if (s.note .forced).closeLine.line.state.isOpen || !s.line.state.isLive then
        (s.note .forced).closeLine.lose
      else (s.note .forced).closeLine := by
  rw [force, if_neg (by simp [h])]

lemma Recorded.force (h : Recorded s) : Recorded s.force := by
  cases hs : s.life.started with
  | false => exact (force_of_not_started hs).symm ▸ h
  | true =>
      have hclosed := (h.note (d := .forced) rfl rfl).closeLine
      rw [force_of_started hs]
      split
      · exact hclosed.lose
      · exact hclosed

lemma Recorded.accelerate (h : Recorded s) : Recorded s.accelerate where
  past := by simpa [Session.accelerate] using h.past
  chronicle := ⟨h.past, trivial, h.chronicle⟩
  started := h.started
  attempts := rfl
  dueAt := h.dueAt
  slot kind := h.slot kind
  notices := h.notices.step (m := .accelerated) rfl

lemma Recorded.observe (h : Recorded s) (status : NetworkStatus) :
    Recorded (s.observe status) := by
  rw [Session.observe]
  generalize s.life.presence.observe status _ _ = decided
  obtain ⟨decision, presence⟩ := decided
  have hseen : Recorded { s with life.presence := presence } :=
    h.congr (Nat.le_refl _) rfl rfl rfl rfl
  match decision with
  | .ignore => exact hseen
  | .forceReconnect true => exact hseen.accelerate.force
  | .forceReconnect false => exact hseen.force

/-- The session after a `Connect` was taken from the queue and the outage is over, before anybody is
told. -/
def connectNoted (s : Session) (rest : List Signal) : Session :=
  { ({ s with queue := rest }.note (.took (.transport .connect))).recordActivity with
    life.retry := {} }

lemma greet_eq (s : Session) (rest : List Signal) :
    ({ s with queue := rest }.note (.took (.transport .connect))).greet =
      (if 0 < s.life.retry.attempts then (s.connectNoted rest).dispatch .connect
        else s.connectNoted rest).handIfOpen .ping .sync := by
  rw [greet]
  exact congrArg (handIfOpen · .ping .sync) (if_congr decide_eq_true_iff rfl rfl)

/-- Whatever the connect callback does, the outage is over. -/
lemma greet_retry (s : Session) (rest : List Signal) :
    ({ s with queue := rest }.note (.took (.transport .connect))).greet.life.retry = {} := by
  rw [greet_eq, handIfOpen_life]
  split <;> simp [connectNoted]

lemma Tracked.connectNoted (h : Tracked s) (rest : List Signal) :
    Tracked (s.connectNoted rest) where
  past := by simpa [Session.connectNoted, recordActivity] using h.past
  chronicle := ⟨h.past, trivial, h.chronicle⟩
  started := h.started
  attempts := rfl
  dueAt := rfl
  slot kind := h.slot kind

lemma Recorded.greet (h : Recorded s) (rest : List Signal) :
    Recorded ({ s with queue := rest }.note (.took (.transport .connect))).greet := by
  have hnoted := h.connectNoted rest
  have hms : milestones (s.connectNoted rest).history = .connected :: milestones s.history := rfl
  have hcount := h.attempts
  rw [greet_eq]
  refine Recorded.handIfOpen ?_ _ _
  split
  · refine ⟨hnoted.dispatch _, ?_⟩
    have hpunctual := h.notices.step (m := .connected) rfl
    rw [answer, if_pos (by omega)] at hpunctual
    rw [hnoted.milestones_dispatch (.inl rfl), hms]
    exact hpunctual
  · refine ⟨hnoted, ?_⟩
    have hpunctual := h.notices.step (m := .connected) rfl
    rw [answer, if_neg (by omega)] at hpunctual
    exact hpunctual

/-- An attempt consumes the pending one. -/
lemma Recorded.openLine (h : Recorded s)
    (lawful : Record.Lawful { time := s.now, deed := .opened } s.history) :
    Recorded { s with life.retry := { s.life.retry with dueAt := none } }.openLine := by
  refine Recorded.hear ?_ _
  exact {
    past := by simpa using h.past
    chronicle := ⟨h.past, lawful, h.chronicle⟩
    started := h.started
    attempts := h.attempts
    dueAt := rfl
    slot := h.slot
    notices := h.notices.step (m := .other) rfl }

/-- Before the start nothing is pending: a loss asks for a start. -/
lemma Chronicle.pending_eq_none {h : List Record} (hc : Chronicle h) (hb : begun h = false) :
    pending h = none := by
  induction h with
  | nil => rfl
  | cons r h ih =>
      obtain ⟨-, hr, hc⟩ := hc
      simp only [begun, List.any_cons, Bool.or_eq_false_iff] at hb
      rw [pending]
      split
      next n hlost =>
        have hbegun : begun h = true := by
          simp only [Record.Lawful, hlost] at hr
          exact hr.1
        simp [begun, hb.2] at hbegun
      · rfl
      · rfl
      · rfl
      · exact ih hc hb.2

lemma start_of_started (h : s.life.started = true) : s.start = s := by
  simp [start, h]

lemma start_of_not_started (h : s.life.started = false) :
    s.start = { s with life.started := true }.openLine := by
  rw [start, if_neg (by simp [h])]

lemma Recorded.start (h : Recorded s) (rest : List Signal) :
    Recorded ({ s with queue := rest }.note (.took .start)).start := by
  have hnoted : Recorded { { s with queue := rest }.note (.took .start) with
      life.started := true } :=
    { past := by simpa using h.past
      chronicle := ⟨h.past, trivial, h.chronicle⟩
      started := rfl
      attempts := h.attempts
      dueAt := h.dueAt
      slot := h.slot
      notices := h.notices.step (m := .other) rfl }
  cases hs : s.life.started with
  | true =>
      rw [start_of_started (by simpa using hs)]
      exact hnoted.congr (Nat.le_refl _) rfl hs rfl rfl
  | false =>
      have hb : begun s.history = false := by rw [← h.started, hs]
      have hdue : s.life.retry.dueAt = none := by
        rw [h.dueAt, h.chronicle.pending_eq_none hb]
      have hsame : { s.life.retry with dueAt := none } = s.life.retry := by rw [← hdue]
      have hopened := hnoted.openLine (.inl ⟨s.history, rfl, hb⟩)
      rw [start_of_not_started (by simpa using hs)]
      simpa only [note_life, hsame] using hopened

lemma retry_of_isDue (h : s.life.retry.isDue s.now) :
    s.retry = { s with life.retry := { s.life.retry with dueAt := none } }.openLine := by
  simp [Session.retry, Retry.takeDue, h]

lemma Recorded.retry (h : Recorded s) (hdue : s.life.retry.isDue s.now) : Recorded s.retry := by
  rw [retry_of_isDue hdue]
  refine h.openLine (.inr ?_)
  rw [Retry.isDue, h.dueAt, Option.any_eq_true] at hdue
  obtain ⟨due, hpending, hle⟩ := hdue
  exact ⟨due, hpending, by simpa using hle⟩

lemma Recorded.beat (h : Recorded s) : Recorded s.beat := by
  rw [Session.beat]
  generalize s.life.heartbeat.tick s.now = ticked
  obtain ⟨beat, heartbeat⟩ := ticked
  have hticked : Recorded { s with life.heartbeat := heartbeat } :=
    h.congr (Nat.le_refl _) rfl rfl rfl rfl
  have hnoted := hticked.note (d := .beat beat) rfl rfl
  cases beat with
  | ping => exact hnoted.handIfOpen _ _
  | stale silentFor =>
      dsimp only
      split
      · exact hnoted
      · exact hnoted.force

lemma Recorded.stop (h : Recorded s) : Recorded s.stop := by
  have hended : Recorded ({ s with
      running := false
      queue := []
      life.retry := s.life.retry.cancel
      life.heartbeat := s.life.heartbeat.stop }.note .ended) :=
    { past := by simpa using h.past
      chronicle := ⟨h.past, trivial, h.chronicle⟩
      started := h.started
      attempts := h.attempts
      dueAt := rfl
      slot := h.slot
      notices := h.notices.step (m := .other) rfl }
  rw [Session.stop]
  dsimp only
  split
  · exact hended.closeLine
  · exact hended

/-- A handled registration is in force. -/
lemma Recorded.register (h : Recorded s) (rest : List Signal) (kind : NoticeKind) (c : Callback) :
    Recorded (({ s with queue := rest }.note (.took (.register kind c))).handle
      (.register kind c)) where
  past := by simpa [handle] using h.past
  chronicle := ⟨h.past, trivial, h.chronicle⟩
  started := h.started
  attempts := h.attempts
  dueAt := h.dueAt
  slot other := by
    simp only [handle, note_life, note_history, Callbacks.slot_register, h.slot]
    rfl
  notices := h.notices.step (m := .registered kind c) rfl

lemma Recorded.answer (h : Recorded s) :
    Recorded (s.note (.answered (s.life.snapshot s.line.state s.now))) where
  past := by simpa using h.past
  chronicle := ⟨h.past, h.attempts, h.chronicle⟩
  started := h.started
  attempts := h.attempts
  dueAt := h.dueAt
  slot := h.slot
  notices := h.notices.step (m := .other) rfl

/-- The driver keeps the invariant while it handles a signal. -/
lemma Recorded.handle (h : Recorded s) (rest : List Signal) (x : Signal) :
    Recorded (({ s with queue := rest }.note (.took x)).handle x) := by
  have hpopped : Recorded { s with queue := rest } := h.congr (Nat.le_refl _) rfl rfl rfl rfl
  match x with
  | .start => exact h.start rest
  | .transport .connect => exact h.greet rest
  | .transport .disconnect => exact (hpopped.note rfl rfl).lose
  | .transport (.error _) => exact hpopped.note rfl rfl
  | .transport (.message data) => exact (hpopped.note rfl rfl).receive data
  | .register kind callback => exact h.register rest kind callback
  | .forceReconnect => exact (hpopped.note rfl rfl).force
  | .network status => exact (hpopped.note rfl rfl).observe status
  | .inspect => exact (hpopped.note rfl rfl).answer
  | .shutdown => exact (hpopped.note rfl rfl).stop

/-! ### Runs -/

/-- Whatever happens outside, the driver and the clock keep the invariant. -/
lemma recorded_invariant : Invariant (fun _ => True) Recorded where
  touch h ht := h.traffic ht.traffic
  drive h ht := by
    obtain ⟨-, ⟨x, rest, -, rfl⟩ | ⟨-, hdue, rfl⟩ | ⟨-, -, -, rfl⟩⟩ := drive?_cases ht
    · exact h.handle rest x
    · exact h.retry hdue
    · exact h.beat
  pass duration h := h.congr (Nat.le_add_right _ duration) rfl rfl rfl rfl

lemma recorded_fresh (now : Time) (line : Line) : Recorded (fresh now line) where
  past := by simp [fresh]
  chronicle := trivial
  started := rfl
  attempts := rfl
  dueAt := rfl
  slot kind := by simp [fresh, registered, milestones]
  notices := .nil

/-- **The history explains the driver's state in every run.** -/
theorem recorded_run (now : Time) (line : Line) (moves : List Move) :
    Recorded ((fresh now line).run moves) :=
  recorded_invariant.run (recorded_fresh now line) fun m _ => m.within_of_forall fun _ => trivial

end ResilientChannel.Session
