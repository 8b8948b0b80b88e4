import ResilientChannel.Proofs.Session.Exchange

/-!
The history of a session explains its heartbeat.

* **The readings.** `lastHeard` reads off the history when the server was heard last, and `beatDue` when
  the next beat is due: an interval after the latest activity or beat.
* **The law.** A beat comes once it is due. It is a ping or the finding of a silence, as the time since
  the last activity says, and the frame of a ping is handed over right after its beat
  (`Record.InBeat`, `Pulse`).
* **The spacing.** A beat is an interval later than every activity and every beat before it
  (`Chronicle.beatDue_le`). So the second beat of a silence finds it longer than the threshold
  (`Pulse.beat_again`).
* **The invariant.** `Pulsing` says that the driver's heartbeat is what the history says. Most of what
  the driver does leaves the heartbeat alone (`Beatless`, `Exchange.beatless`); what does not is shown to
  keep the invariant one by one, hence so does every run (`pulsing_run`).
-/

namespace ResilientChannel.Session

variable {s t : Session}

/-! ### The readings -/

/-- When the server was heard last. -/
def lastHeard : List Record → Option Time
  | [] => none
  | r :: older => if r.deed.isActivity then some r.time else lastHeard older

/-- When the next beat is due: set by an activity and by a beat, and dropped with the driver's end. -/
def beatDue : List Record → Option Time
  | [] => none
  | r :: older =>
    match r.deed with
    | .took (.transport .connect) | .took (.transport (.message _)) | .beat _ =>
      some (r.time + Parameters.pingInterval)
    | .ended => none
    | _ => beatDue older

/-! ### The law -/

/-- What a beat after a last activity at `heard` calls for at `now`. -/
def beatAt (heard now : Time) : Heartbeat.Beat :=
  if heard + Parameters.staleAfter < now then .stale (now - heard) else .ping

/-- What an entry asks of the history before it. -/
def Record.InBeat (r : Record) (older : List Record) : Prop :=
  match r.deed with
  | .beat beat =>
    ∃ heard due, lastHeard older = some heard ∧ beatDue older = some due ∧ due ≤ r.time ∧
      beat = beatAt heard r.time
  | .handed frame .beat =>
    frame = Frame.ping.encode ∧ ∃ before, older = { time := r.time, deed := .beat .ping } :: before
  | _ => True

/-- Every entry is lawful. -/
def Pulse : List Record → Prop
  | [] => True
  | r :: older => r.InBeat older ∧ Pulse older

lemma Pulse.suffix {newer h : List Record} : Pulse (newer ++ h) → Pulse h := by
  induction newer with
  | nil => exact id
  | cons r newer ih => exact fun hp => ih hp.2

/-- A ping is sent while the silence is no longer than the threshold. -/
lemma beatAt_eq_ping {heard now : Time} :
    beatAt heard now = .ping ↔ now ≤ heard + Parameters.staleAfter := by
  rw [beatAt]
  split <;> grind

/-- An entry that neither counts as activity nor is made by the heartbeat, nor ends the driver. -/
def Deed.isBeatless : Deed → Bool
  | .took (.transport .connect) | .took (.transport (.message _)) | .beat _ | .handed _ .beat
  | .ended => false
  | _ => true

section Beatless

variable {r : Record} (hr : r.deed.isBeatless) (h : List Record)

include hr

lemma lastHeard_beatless : lastHeard (r :: h) = lastHeard h := by
  obtain ⟨time, deed⟩ := r
  have hactivity : deed.isActivity = false := by
    simp only [Deed.isActivity]
    split <;> simp_all [Deed.isBeatless]
  simp [lastHeard, hactivity]

lemma beatDue_beatless : beatDue (r :: h) = beatDue h := by
  obtain ⟨time, deed⟩ := r
  simp only [beatDue]
  split <;> simp_all [Deed.isBeatless]

lemma inBeat_beatless : r.InBeat h := by
  obtain ⟨time, deed⟩ := r
  rw [Record.InBeat]
  split <;> simp_all [Deed.isBeatless]

end Beatless

/-! ### The spacing -/

lemma beatDue_of_isArming {r : Record} (hr : r.deed.isArming) (h : List Record) :
    beatDue (r :: h) = some (r.time + Parameters.pingInterval) := by
  obtain ⟨time, deed⟩ := r
  simp only [beatDue]
  split <;> simp_all [Deed.isArming]

/-- The next beat is due no earlier than an interval after whatever has armed it. -/
lemma Chronicle.beatDue_le {h : List Record} (hc : Chronicle h) {due : Time}
    (hdue : beatDue h = some due) {r : Record} (hmem : r ∈ h) (hr : r.deed.isArming) :
    r.time + Parameters.pingInterval ≤ due := by
  induction h with
  | nil => simp at hmem
  | cons q h ih =>
      obtain ⟨hpast, -, hc⟩ := hc
      by_cases hq : q.deed.isArming
      · -- the latest entry that armed it is no earlier than any other
        rw [beatDue_of_isArming hq, Option.some.injEq] at hdue
        have htime : r.time ≤ q.time := by
          rcases List.mem_cons.mp hmem with rfl | hmem
          · exact Nat.le_refl _
          · exact hpast r hmem
        exact hdue ▸ Nat.add_le_add_right htime _
      · have hkept : beatDue h = some due := by
          obtain ⟨time, deed⟩ := q
          simp only [beatDue] at hdue
          split at hdue <;> simp_all [Deed.isArming]
        rcases List.mem_cons.mp hmem with rfl | hmem
        · exact absurd hr hq
        · exact ih hc hkept hmem

/-- The server was heard when an activity was entered. -/
lemma exists_of_lastHeard {h : List Record} {heard : Time} (hheard : lastHeard h = some heard) :
    ∃ r ∈ h, r.deed.isActivity ∧ r.time = heard := by
  induction h with
  | nil => simp [lastHeard] at hheard
  | cons r h ih =>
      rw [lastHeard] at hheard
      split at hheard
      next hactivity => exact ⟨r, by simp, hactivity, Option.some.inj hheard⟩
      next =>
        obtain ⟨q, hmem, hq⟩ := ih hheard
        exact ⟨q, .tail _ hmem, hq⟩

lemma lastHeard_append {mid : List Record} (hmid : ∀ r ∈ mid, r.deed.isActivity = false)
    (h : List Record) : lastHeard (mid ++ h) = lastHeard h := by
  induction mid with
  | nil => rfl
  | cons r mid ih =>
      rw [List.cons_append, lastHeard, if_neg (by simp [hmid r]), ih fun q hq => hmid q (.tail _ hq)]

/-- A second beat after the same activity comes two intervals after it, and finds it too long ago for a
ping. -/
lemma Pulse.beat_again {mid before : List Record} {t t' : Time} {beat beat' : Heartbeat.Beat}
    (hp : Pulse ({ time := t, deed := .beat beat } :: (mid ++ { time := t', deed := .beat beat' } ::
      before)))
    (hc : Chronicle (mid ++ { time := t', deed := .beat beat' } :: before))
    (hmid : ∀ r ∈ mid, r.deed.isActivity = false) : beat ≠ .ping := by
  obtain ⟨⟨heard, due, hheard, hdue, hle, hbeat⟩, hp⟩ := hp
  obtain ⟨⟨heard', due', hheard', hdue', hle', -⟩, -⟩ := hp.suffix
  -- both silences began with the same activity
  obtain rfl : heard' = heard := by
    rw [lastHeard_append hmid] at hheard
    exact Option.some.inj (hheard'.symm.trans hheard)
  obtain ⟨r, hmem, hactivity, rfl⟩ := exists_of_lastHeard hheard'
  have hfirst : r.time + Parameters.pingInterval ≤ due' :=
    hc.suffix.2.2.beatDue_le hdue' hmem (Deed.isArming_of_isActivity hactivity)
  have hsecond : t' + Parameters.pingInterval ≤ due :=
    hc.beatDue_le hdue (r := { time := t', deed := .beat beat' }) (by simp) rfl
  have hinterval : Parameters.staleAfter < Parameters.pingInterval + Parameters.pingInterval := by
    decide
  rw [hbeat, ne_eq, beatAt_eq_ping]
  dsimp only at hle hle'
  grind

/-- Whoever armed the heartbeat, the server was heard before. -/
lemma Pulse.heard {h : List Record} (hp : Pulse h) {due : Time} (hdue : beatDue h = some due) :
    ∃ heard, lastHeard h = some heard := by
  induction h with
  | nil => simp [beatDue] at hdue
  | cons r h ih =>
      obtain ⟨time, deed⟩ := r
      obtain ⟨hr, hp⟩ := hp
      cases hactivity : deed.isActivity with
      | true => exact ⟨time, by simp [lastHeard, hactivity]⟩
      | false =>
          rw [lastHeard, if_neg (by simp [hactivity])]
          simp only [beatDue] at hdue
          split at hdue
          · simp [Deed.isActivity] at hactivity
          · simp [Deed.isActivity] at hactivity
          · obtain ⟨heard, -, hheard, -⟩ := hr
            exact ⟨heard, hheard⟩
          · cases hdue
          · exact ih hp hdue

/-! ### What leaves the heartbeat alone -/

/-- Between the two sessions the heartbeat was left alone. -/
abbrev Beatless : Session → Session → Prop := Spares (·.heartbeat) Deed.isBeatless

lemma Deed.isBeatless_of_isErrand {d : Deed} (h : d.isErrand) : d.isBeatless := by
  simp only [isErrand] at h
  split at h <;> first | rfl | cases h

lemma Deed.isBeatless_of_isUpheaval {d : Deed} (h : d.isUpheaval) : d.isBeatless := by
  simp only [isUpheaval] at h
  split at h <;> first | rfl | cases h

lemma Deed.not_isArming_of_isBeatless {d : Deed} (h : d.isBeatless) : ¬ d.isArming := by
  intro harming
  simp only [isArming] at harming
  split at harming <;> first | cases h | cases harming

/-- A signal that is no activity licenses nothing that concerns the heartbeat. -/
lemma Signal.Licenses.isBeatless {x : Signal} {d : Deed} (h : x.Licenses d)
    (hx : (Deed.took x).isBeatless) : d.isBeatless := by
  cases h with
  | taken => exact hx
  | start | greeting | sync | message | acceleration | answer => rfl
  | loss h => exact Deed.isBeatless_of_isUpheaval (Deed.isUpheaval_of_isSetback h)
  | force h | network h => exact Deed.isBeatless_of_isUpheaval h

lemma Touch.beatless {within : Action → Prop} (h : Touch within s t) : Beatless s t :=
  h.spares fun _ => Deed.isBeatless_of_isErrand

lemma Exchange.beatless {p : Deed → Prop} (h : Exchange p s t) (hp : ∀ d, p d → d.isBeatless) :
    Beatless s t :=
  h.spares (fun _ => Deed.isBeatless_of_isErrand) (fun d _ => hp d) fun step =>
    step.heartbeat fun d harming hd => Deed.not_isArming_of_isBeatless (hp d hd) harming

/-! ### A beat -/

/-- The session after a beat was entered and the next one set. -/
def beatNoted (s : Session) (beat : Heartbeat.Beat) : Session :=
  { s with life.heartbeat.dueAt := some (s.now + Parameters.pingInterval) }.note (.beat beat)

/-- The heartbeat is late once the last activity is too long ago. -/
lemma isLate_eq (h : Heartbeat) (now : Time) :
    h.isLate now = h.lastActivity.any (· + Parameters.staleAfter < now) := by
  rw [Heartbeat.isLate]
  congr 1
  funext heard
  exact decide_eq_decide.mpr Nat.lt_sub_iff_add_lt'

section Beat

variable {heard : Time} (hheard : s.life.heartbeat.lastActivity = some heard)

include hheard

/-- An idle channel pings. -/
lemma beat_of_early (hearly : s.now ≤ heard + Parameters.staleAfter) :
    s.beat = (s.beatNoted .ping).handIfOpen .ping .beat := by
  have hlate : s.life.heartbeat.isLate s.now = false := by
    rw [isLate_eq, hheard, Option.any_some, decide_eq_false_iff_not]
    exact Nat.not_lt_of_le hearly
  simp [beat, Heartbeat.tick, hheard, hlate, beatNoted]

/-- A silence longer than the threshold forces a reconnect, unless the channel is down or recovering. -/
lemma beat_of_late (hlate : heard + Parameters.staleAfter < s.now) :
    s.beat =
      if !s.line.state.isOpen || s.life.retry.dueAt.isSome then
        s.beatNoted (.stale (s.now - heard))
      else (s.beatNoted (.stale (s.now - heard))).force := by
  have hlate' : s.life.heartbeat.isLate s.now = true := by
    rw [isLate_eq, hheard, Option.any_some, decide_eq_true_iff]
    exact hlate
  simp [beat, Heartbeat.tick, hheard, hlate', beatNoted]

end Beat

/-- While the line is not open a beat leaves its entry, sets the next one, and does nothing else. -/
lemma beat_of_not_isOpen (h : s.line.state.isOpen = false) :
    s.beat = s.beatNoted (s.life.heartbeat.tick s.now).1 := by
  have hnext : (s.life.heartbeat.tick s.now).2 =
      { s.life.heartbeat with dueAt := some (s.now + Parameters.pingInterval) } := by
    rw [Heartbeat.tick]
    split <;> rfl
  rw [beat]
  dsimp only
  rw [hnext]
  split
  · rw [handIfOpen, if_neg (by simpa using h)]
    simp only [beatNoted, *]
  · rw [if_pos (by simpa using .inl h)]
    simp only [beatNoted, *]

/-! ### The invariant -/

/-- The driver's heartbeat is what the history says. -/
structure Pulsing (s : Session) : Prop where
  lastActivity : s.life.heartbeat.lastActivity = lastHeard s.history
  dueAt : s.life.heartbeat.dueAt = beatDue s.history
  pulse : Pulse s.history

namespace Pulsing

variable (h : Pulsing s)

include h

/-- The invariant reads the history and the heartbeat. -/
lemma congr (hhistory : t.history = s.history) (hheartbeat : t.life.heartbeat = s.life.heartbeat) :
    Pulsing t where
  lastActivity := by rw [hheartbeat, hhistory, h.lastActivity]
  dueAt := by rw [hheartbeat, hhistory, h.dueAt]
  pulse := hhistory ▸ h.pulse

lemma beatless (ht : Beatless s t) : Pulsing t := by
  obtain ⟨new, hhistory, -, hnew⟩ := ht.entries
  have key : ∀ new : List Record, (∀ r ∈ new, r.deed.isBeatless) →
      Pulsing { s with history := new ++ s.history } := by
    intro new
    induction new with
    | nil => exact fun _ => h
    | cons r new ih =>
        intro hnew
        have hr := hnew r (by simp)
        have hrest := ih fun q hq => hnew q (by simp [hq])
        exact ⟨hrest.lastActivity.trans (lastHeard_beatless hr _).symm,
          hrest.dueAt.trans (beatDue_beatless hr _).symm, inBeat_beatless hr _, hrest.pulse⟩
  exact (key new hnew).congr hhistory ht.spared

/-- A handled activity is heard. -/
lemma heard {x : Signal} (hx : (Deed.took x).isActivity) (rest : List Signal) :
    Pulsing ({ s with queue := rest }.note (.took x)).recordActivity := by
  simp only [Deed.isActivity] at hx
  split at hx
  next heq =>
    cases heq
    exact ⟨rfl, rfl, trivial, h.pulse⟩
  next heq =>
    cases heq
    exact ⟨rfl, rfl, trivial, h.pulse⟩
  next => cases hx

lemma greet (rest : List Signal) :
    Pulsing ({ s with queue := rest }.note (.took (.transport .connect))).greet := by
  have hnoted : Pulsing (s.connectNoted rest) :=
    (h.heard (x := .transport .connect) rfl rest).congr rfl rfl
  have hgreeted := greet_exchange (p := (Deed.isBeatless ·)) s rest (fun _ _ _ => rfl) rfl
  exact hnoted.beatless (hgreeted.beatless fun _ => id)

lemma receive (rest : List Signal) (data : String) :
    Pulsing (({ s with queue := rest }.note (.took (.transport (.message data)))).receive data) := by
  have hheard := h.heard (x := .transport (.message data)) rfl rest
  refine hheard.beatless (Exchange.beatless (p := (Deed.isBeatless ·)) ?_ fun _ => id)
  exact dispatch_exchange _ fun _ _ _ => rfl

lemma beat (hdue : s.life.heartbeat.isDue s.now) : Pulsing s.beat := by
  rw [Heartbeat.isDue, h.dueAt, Option.any_eq_true] at hdue
  obtain ⟨due, hbeat, hle⟩ := hdue
  obtain ⟨heard, hheard⟩ := h.pulse.heard hbeat
  have hnoted : Pulsing (s.beatNoted (beatAt heard s.now)) :=
    { lastActivity := h.lastActivity
      dueAt := rfl
      pulse := ⟨⟨heard, due, hheard, hbeat, by simpa using hle, rfl⟩, h.pulse⟩ }
  have hlast : s.life.heartbeat.lastActivity = some heard := h.lastActivity.trans hheard
  rcases Nat.lt_or_ge (heard + Parameters.staleAfter) s.now with hlate | hearly
  · rw [beatAt, if_pos hlate] at hnoted
    rw [beat_of_late hlast hlate]
    split
    · exact hnoted
    · exact hnoted.beatless ((force_exchange _).beatless fun _ => Deed.isBeatless_of_isUpheaval)
  · rw [beatAt_eq_ping.mpr hearly] at hnoted
    rw [beat_of_early hlast hearly, handIfOpen]
    split
    · exact ⟨hnoted.lastActivity, hnoted.dueAt, ⟨rfl, _, rfl⟩, hnoted.pulse⟩
    · exact hnoted

/-- The end drops the beat that was due. -/
lemma stop : Pulsing s.stop where
  lastActivity := by
    rw [stop_life, stop_history]
    split <;> exact h.lastActivity
  dueAt := by
    rw [stop_life, stop_history]
    split <;> rfl
  pulse := by
    rw [stop_history]
    split
    · exact ⟨trivial, trivial, h.pulse⟩
    · exact ⟨trivial, h.pulse⟩

lemma handle (rest : List Signal) (x : Signal) :
    Pulsing (({ s with queue := rest }.note (.took x)).handle x) := by
  have hpopped : Pulsing { s with queue := rest } := h.congr rfl rfl
  have htook (hx : (Deed.took x).isBeatless) : Pulsing ({ s with queue := rest }.note (.took x)) :=
    hpopped.beatless ⟨.entry rfl rfl rfl rfl hx, rfl⟩
  have hkept (hshutdown : x.isShutdown = false) (hx : (Deed.took x).isBeatless) :
      Pulsing (({ s with queue := rest }.note (.took x)).handle x) :=
    (htook hx).beatless ((handle_exchange s rest hshutdown).beatless fun _ hd => hd.isBeatless hx)
  cases x with
  | transport event =>
      cases event with
      | connect => exact h.greet rest
      | message data => exact h.receive rest data
      | disconnect | error => exact hkept rfl rfl
  | shutdown => exact (htook rfl).stop
  | start | register | forceReconnect | network | inspect => exact hkept rfl rfl

end Pulsing

/-! ### Runs -/

/-- Whatever happens outside, the driver and the clock keep the invariant. -/
lemma pulsing_invariant : Invariant (fun _ => True) Pulsing where
  touch h ht := h.beatless ht.beatless
  drive h ht := by
    obtain ⟨-, ⟨x, rest, -, rfl⟩ | ⟨-, hdue, rfl⟩ | ⟨-, -, hdue, rfl⟩⟩ := drive?_cases ht
    · exact h.handle rest x
    · exact h.beatless ((retry_exchange hdue).beatless (by rintro _ rfl; rfl))
    · exact h.beat hdue
  pass _ h := h.congr rfl rfl

/-- **The history explains the driver's heartbeat in every run.** -/
theorem pulsing_run (now : Time) (line : Line) (moves : List Move) :
    Pulsing ((fresh now line).run moves) := by
  have hfresh : Pulsing (fresh now line) := ⟨rfl, rfl, trivial⟩
  exact pulsing_invariant.run hfresh fun m _ => m.within_of_forall fun _ => trivial

end ResilientChannel.Session
