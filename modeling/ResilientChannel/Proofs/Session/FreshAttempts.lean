import ResilientChannel.Proofs.Session.Attempts
import ResilientChannel.Proofs.Session.HalfOpen

/-!
Which attempts a stale heartbeat tears down.

* **Unanswered attempts.** An attempt is unanswered while nothing has been heard of the server since
  (`unanswered?`). A silence is measured from the last activity, which may lie before the attempt.
* **The fresh ones.** A beat that forces a reconnect tears down an attempt of the last 45 s exactly if
  the latest attempt is unanswered and no older than that.
* **Faithful lines.** A line that reports whenever it opens is open only if it has answered the latest
  attempt, or the answer is still in the queue (`Answering`). Then no fresh attempt is torn down.
-/

namespace ResilientChannel.Session

variable {s t u : Session}

/-! ### Unanswered attempts -/

/-- The latest attempt, unless the server was heard after it. -/
def unanswered? : List Record → Option Time
  | [] => none
  | r :: older =>
    if r.deed.isActivity then none
    else if r.deed.isOpened then some r.time
    else unanswered? older

lemma exists_of_unanswered {h : List Record} {made : Time} (hmade : unanswered? h = some made) :
    ∃ r ∈ h, r.deed.isOpened ∧ r.time = made := by
  induction h with
  | nil => simp [unanswered?] at hmade
  | cons r h ih =>
      rw [unanswered?] at hmade
      split at hmade
      · cases hmade
      · split at hmade
        next hopened => exact ⟨r, by simp, hopened, Option.some.inj hmade⟩
        next =>
          obtain ⟨q, hmem, hq⟩ := ih hmade
          exact ⟨q, .tail _ hmem, hq⟩

/-- No attempt is later than the unanswered one; if there is none, the server was heard after every
attempt. -/
lemma Chronicle.opened_le {h : List Record} (hc : Chronicle h) {r : Record} (hmem : r ∈ h)
    (hr : r.deed.isOpened) :
    (∃ made, unanswered? h = some made ∧ r.time ≤ made) ∨
      unanswered? h = none ∧ ∃ heard, lastHeard h = some heard ∧ r.time ≤ heard := by
  induction h with
  | nil => simp at hmem
  | cons q h ih =>
      obtain ⟨hpast, -, hc⟩ := hc
      have hle : r.time ≤ q.time := by
        rcases List.mem_cons.mp hmem with rfl | hmem
        · exact Nat.le_refl _
        · exact hpast r hmem
      rw [unanswered?, lastHeard]
      split
      next => exact .inr ⟨rfl, q.time, rfl, hle⟩
      next =>
        split
        next => exact .inl ⟨q.time, rfl, hle⟩
        next hopened =>
          rcases List.mem_cons.mp hmem with rfl | hmem
          · exact absurd hr hopened
          · exact ih hc hmem

/-- A force by the heartbeat tears down a fresh attempt exactly if the latest one is unanswered and
fresh. -/
lemma BeatForces.fresh_iff (h : BeatForces s t) (hp : Pulsing s) (hc : Chronicle s.history) :
    (∃ r ∈ s.history, r.deed.isOpened ∧ s.now ≤ r.time + Parameters.staleAfter) ↔
      ∃ made, unanswered? s.history = some made ∧ s.now ≤ made + Parameters.staleAfter := by
  obtain ⟨-, -, heard, hheard, hlate⟩ := h.cause hp
  constructor
  · rintro ⟨r, hmem, hr, hfresh⟩
    rcases hc.opened_le hmem hr with ⟨made, hmade, hle⟩ | ⟨-, heard', hheard', hle⟩
    · exact ⟨made, hmade, Nat.le_trans hfresh (Nat.add_le_add_right hle _)⟩
    · -- the silence would have begun after the attempt
      rw [hheard, Option.some.injEq] at hheard'
      grind
  · rintro ⟨made, hmade, hfresh⟩
    obtain ⟨r, hmem, hr, rfl⟩ := exists_of_unanswered hmade
    exact ⟨r, hmem, hr, hfresh⟩

/-! ### Faithful lines -/

/-- An entry that is no attempt. -/
def Deed.isAttemptless (d : Deed) : Bool := !d.isOpened

/-- Between the two sessions no attempt was made, the line did not open without a report, and it goes idle
when told to disconnect if it did so before. -/
structure Unopening (s t : Session) : Prop extends Flow Deed.isAttemptless s t where
  opened : t.running → t.line.state = .opened →
    s.line.state = .opened ∨ .transport .connect ∈ t.queue
  graceful : s.line.onDisconnect = .graceful → t.line.onDisconnect = .graceful

namespace Unopening

/-- The line is as it was. -/
lemma of_flow (h : Flow Deed.isAttemptless s t) (hline : t.line = s.line) : Unopening s t :=
  ⟨h, fun _ hopened => .inl (hline ▸ hopened), fun hgraceful => hline ▸ hgraceful⟩

lemma refl (s : Session) : Unopening s s := of_flow (.of_eq rfl rfl rfl) rfl

lemma trans (h : Unopening s t) (h' : Unopening t u) : Unopening s u where
  toFlow := h.toFlow.trans h'.toFlow
  opened hrunning hopened := by
    rcases h'.opened hrunning hopened with hbefore | hqueued
    · rcases h.opened (h'.running ▸ hrunning) hbefore with hfirst | hqueued
      · exact .inl hfirst
      · obtain ⟨new, -, hqueue, -⟩ := h'.entries
        exact .inr (hqueue ▸ List.mem_append_left _ hqueued)
    · exact .inr hqueued
  graceful hgraceful := h'.graceful (h.graceful hgraceful)

/-- A faithful line reports whenever it opens. -/
lemma lineMove {line : Line} {events : List TransportEvent}
    (hmove : LineMove Action.IsFaithful s.line line events) :
    Unopening s ({ s with line }.hear events) where
  toFlow := by
    have hmoved : Flow Deed.isAttemptless s { s with line } := .of_eq rfl rfl rfl
    exact hmoved.trans (.hear _ (fun _ => rfl) events)
  opened hrunning hopened := by
    rw [hear_line] at hopened
    cases hmove with
    | opens =>
        refine .inr ?_
        rw [hear_queue (by simpa using hrunning)]
        simp
    | drops => cases hopened
    | moves hp => exact hp.elim
    | fires => exact .inl hopened
    | reacts => exact .inl hopened
  graceful hgraceful := by
    rw [hear_line]
    cases hmove with
    | opens | drops | moves | fires => exact hgraceful
    | @reacts toConnect toDisconnect hp =>
        cases toDisconnect with
        | none => exact hgraceful
        | some r => exact hp.2 r rfl

lemma touch (ht : Touch Action.IsFaithful s t) : Unopening s t := by
  cases ht with
  | post => exact of_flow (.post s rfl) (by simp)
  | hand => exact of_flow (.handIfOpen s _ _ rfl) (by simp)
  | line hmove => exact lineMove hmove
  | aside => exact of_flow (.of_eq rfl rfl rfl) rfl

/-- A graceful line does not open when it is told to disconnect. -/
lemma closeLine (hline : s.line.onDisconnect = .graceful) : Unopening s s.closeLine where
  toFlow := (Stroke.closes (p := (Deed.isAttemptless ·)) rfl).flow (fun _ => rfl) fun _ _ => id
  opened _ hopened := by
    have hdown := Line.isLive_disconnect hline
    rw [show s.line.disconnect.1.state = .opened by simpa [Session.closeLine] using hopened] at hdown
    cases hdown
  graceful _ := by
    have hkept : s.line.disconnect.1.onDisconnect = s.line.onDisconnect := by
      rw [Line.disconnect, Line.react]; split <;> rfl
    simpa [Session.closeLine, hkept] using hline

/-- A row of strokes that makes no attempt opens no graceful line. -/
lemma strokes (hline : s.line.onDisconnect = .graceful) (h : Strokes (Deed.isAttemptless ·) s t) :
    Unopening s t := by
  induction h with
  | refl => exact refl s
  | tail _ step ih =>
      refine ih.trans ?_
      have hflow := step.flow (q := Deed.isAttemptless) (fun _ => rfl) fun _ _ => id
      cases step with
      | closes => exact closeLine (ih.graceful hline)
      | opens h => cases h
      | resolve | arm | learn | register | note | hand => exact of_flow hflow (by simp)

/-- Callbacks do nothing but faithful actions. -/
lemma exchange (hcarries : Carries Action.IsFaithful s) (hline : s.line.onDisconnect = .graceful)
    (h : Exchange (Deed.isAttemptless ·) s t) : Unopening s t := by
  cases h with
  | silent h => exact strokes hline h
  | @call u v notice c before _ held _ called after =>
      have hbefore := strokes hline before
      have hscript : Unopening u (u.performAll c.script).1 :=
        (performAll_touches u c.script (hcarries.held _ c held)).keeps (I := Unopening u)
          (fun hu step => hu.trans (touch step)) (refl u)
      have hcalled : Unopening (u.performAll c.script).1 v :=
        called ▸ of_flow (.entry rfl rfl rfl rfl rfl) rfl
      have hdone := (hbefore.trans hscript).trans hcalled
      exact hdone.trans (strokes (hdone.graceful hline) after)

end Unopening

lemma Deed.isAttemptless_of_isUpheaval {d : Deed} (h : d.isUpheaval) : d.isAttemptless := by
  simp only [isUpheaval] at h
  split at h <;> first | rfl | cases h

lemma Deed.isAttemptless_of_isVigil {d : Deed} (h : d.isVigil) : d.isAttemptless := by
  rw [isVigil.eq_def] at h
  split at h
  · rfl
  · rfl
  · exact isAttemptless_of_isUpheaval h

/-- No signal but a start leads to an attempt. -/
lemma Signal.Licenses.isAttemptless {x : Signal} {d : Deed} (h : x.Licenses d) (hx : x ≠ .start) :
    d.isAttemptless := by
  cases h with
  | start => exact absurd rfl hx
  | taken | greeting | sync | message | acceleration | answer => rfl
  | loss h => exact Deed.isAttemptless_of_isUpheaval (Deed.isUpheaval_of_isSetback h)
  | force h | network h => exact Deed.isAttemptless_of_isUpheaval h

/-- A line that is open has answered the latest attempt, or the answer is still in the queue. -/
def Answering (s : Session) : Prop :=
  s.running → s.line.state = .opened →
    .transport .connect ∈ s.queue ∨ unanswered? s.history = none

lemma unanswered_append {new h : List Record} (hnew : ∀ r ∈ new, r.deed.isAttemptless)
    (hh : unanswered? h = none) : unanswered? (new ++ h) = none := by
  induction new with
  | nil => exact hh
  | cons r new ih =>
      have hr := hnew r (by simp)
      rw [List.cons_append, unanswered?]
      split
      · rfl
      · rw [if_neg (by simpa [Deed.isAttemptless] using hr), ih fun q hq => hnew q (.tail _ hq)]

namespace Answering

/-- What makes no attempt and opens no line in silence keeps the answer. -/
lemma unopening (h : Answering s) (ht : Unopening s t) : Answering t := by
  intro hrunning hopened
  obtain ⟨new, hhistory, hqueue, hnew⟩ := ht.entries
  rcases ht.opened hrunning hopened with hbefore | hqueued
  · rcases h (ht.running ▸ hrunning) hbefore with hqueued | hanswered
    · exact .inl (hqueue ▸ List.mem_append_left _ hqueued)
    · exact .inr (hhistory ▸ unanswered_append hnew hanswered)
  · exact .inl hqueued

/-- A report in the queue becomes an answer when it is taken. -/
lemma pop (h : Answering s) {x : Signal} {rest : List Signal} (hqueue : s.queue = x :: rest) :
    Answering ({ s with queue := rest }.note (.took x)) := by
  intro hrunning hopened
  rw [note_history, unanswered?]
  split
  next => exact .inr rfl
  next hactivity =>
    rcases h hrunning hopened with hqueued | hanswered
    · rw [hqueue, List.mem_cons] at hqueued
      rcases hqueued with rfl | hqueued
      · exact absurd rfl hactivity
      · exact .inl hqueued
    · exact .inr hanswered

/-- Whatever a graceful line does when asked to connect, it reports that it opens. -/
lemma openLine (hline : s.line.IsGraceful) : Answering s.openLine := by
  intro hrunning hopened
  rw [Session.openLine] at hrunning hopened ⊢
  rcases hline.connect_cases with heq | heq | heq <;> rw [heq] at hrunning hopened ⊢
  · cases hopened
  · refine .inl ?_
    rw [hear_queue (by simpa using hrunning)]
    simp
  · simp at hopened

lemma handle (h : Answering s) (hs : Recovering s) {x : Signal} {rest : List Signal}
    (hqueue : s.queue = x :: rest) :
    Answering (({ s with queue := rest }.note (.took x)).handle x) := by
  have htook := h.pop hqueue
  have hpopped := hs.toSound.pop hqueue
  have hkept (hshutdown : x.isShutdown = false) (hstart : x ≠ .start) :
      Answering (({ s with queue := rest }.note (.took x)).handle x) :=
    htook.unopening (.exchange hpopped.carries hpopped.graceful.disconnect
      ((handle_exchange s rest hshutdown).mono fun _ hd => hd.isAttemptless hstart))
  cases x with
  | start =>
      rw [Session.handle, start]
      split
      · exact htook
      · exact openLine hpopped.graceful
  | shutdown =>
      intro hrunning
      simp [Session.handle] at hrunning
  | transport | register | forceReconnect | network | inspect => exact hkept rfl (by simp)

end Answering

/-! ### Runs -/

/-- Faithful actions, the driver and the clock keep the answers. -/
lemma answering_invariant :
    Invariant Action.IsFaithful fun s => Recovering s ∧ Answering s where
  touch h ht := ⟨h.1.touch ht, h.2.unopening (.touch ht)⟩
  drive {s t} h ht := by
    refine ⟨recovering_invariant.drive h.1 ht, ?_⟩
    obtain ⟨-, ⟨x, rest, hqueue, rfl⟩ | ⟨-, hdue, rfl⟩ | ⟨-, -, -, rfl⟩⟩ := drive?_cases ht
    · exact h.2.handle h.1 hqueue
    · rw [retry_of_isDue hdue]
      exact Answering.openLine h.1.graceful
    · exact h.2.unopening (.exchange h.1.carries h.1.graceful.disconnect
        ((beat_exchange s).mono fun _ => Deed.isAttemptless_of_isVigil))
  pass _ h := ⟨recovering_invariant.pass _ h.1, h.2⟩

/-- **A stale heartbeat tears down a fresh attempt exactly if it is unanswered.** In every run over any
line, whenever the heartbeat forces a reconnect

* an attempt of the last 45 s is torn down if and only if the latest attempt is one of them and nothing
  has been heard of the server since;
* over a graceful line that reports whatever it does, there is no such attempt. -/
theorem fresh_attempt_torn_down_iff (now : Time) (line : Line) (moves : List Move) :
    let s := (fresh now line).run moves
    ∀ t, BeatForces s t →
      ((∃ r ∈ s.history, r.deed.isOpened ∧ s.now ≤ r.time + .ms 45000) ↔
        ∃ made, unanswered? s.history = some made ∧ s.now ≤ made + .ms 45000) ∧
      (line.IsGraceful → (∀ m ∈ moves, m.Within Action.IsFaithful) →
        ∀ r ∈ s.history, r.deed.isOpened → r.time + .ms 45000 < s.now) := by
  intro s t ht
  have hp : Pulsing s := pulsing_run now line moves
  have hc : Chronicle s.history := (recorded_run now line moves).chronicle
  refine ⟨ht.fresh_iff hp hc, fun hline hmoves r hmem hr => ?_⟩
  obtain ⟨hopen, -, heard, hheard, hlate⟩ := ht.cause hp
  obtain ⟨hrunning, hqueue⟩ := ht.queue
  have hanswering : Answering s := by
    have hfresh : Recovering (fresh now line) ∧ Answering (fresh now line) :=
      ⟨recovering_fresh now hline, fun _ _ => .inr rfl⟩
    exact (answering_invariant.run hfresh hmoves).2
  have hanswered : unanswered? s.history = none := by
    rcases hanswering hrunning (by simpa [ConnectionState.isOpen] using hopen) with hqueued | hanswered
    · simp [hqueue] at hqueued
    · exact hanswered
  rcases hc.opened_le hmem hr with ⟨made, hmade, -⟩ | ⟨-, heard', hheard', hle⟩
  · simp [hanswered] at hmade
  · rw [hheard, Option.some.injEq] at hheard'
    exact Nat.lt_of_le_of_lt (Nat.add_le_add_right (hheard' ▸ hle) _) hlate

/-- On an open line that is never heard of again the attempt was answered, and it is 50 s old when it is
torn down. -/
theorem answered_attempt_torn_down :
    let s := (fresh 0 {}).run [.act .connect, .drive, .act .lineOpens, .drive, .pass (.ms 25000), .drive,
      .pass (.ms 25000)]
    BeatForces s (s.move .drive) ∧
      ((∃ r ∈ s.history, r.deed.isOpened ∧ s.now ≤ r.time + .ms 45000) ↔
        ∃ made, unanswered? s.history = some made ∧ s.now ≤ made + .ms 45000) ∧
      ∀ r ∈ s.history, r.deed.isOpened → r.time + .ms 45000 < s.now := by
  intro s
  have hforces : BeatForces s (s.move .drive) := ⟨rfl, [_, _], .stale (.ms 50000), rfl⟩
  have hmoves : ∀ m ∈ [Move.act .connect, .drive, .act .lineOpens, .drive, .pass (.ms 25000), .drive,
      .pass (.ms 25000)], m.Within Action.IsFaithful := by
    have hstarts : Action.Within Action.IsFaithful .connect := .mk trivial nofun
    have hopens : Action.Within Action.IsFaithful .lineOpens := .mk trivial nofun
    simp [Move.Within, hstarts, hopens]
  obtain ⟨hiff, hold⟩ := fresh_attempt_torn_down_iff 0 {} _ (s.move .drive) hforces
  exact ⟨hforces, hiff, hold ⟨.inl rfl, rfl⟩ hmoves⟩

/-- The line of a poll is open from the request on, and reports it with the first answer. After half a
minute on an open line such an attempt is made, and the heartbeat has the line disconnect 19.9 s later:
the silence is measured from before the attempt. -/
theorem fresh_attempt_torn_down :
    let s := (fresh 0 {}).run [.act .connect, .drive, .act .lineOpens, .drive, .pass (.ms 25000), .drive,
      .pass (.ms 5000), .act .lineDrops, .drive, .pass (.ms 100), .drive, .act (.lineMoves .opened),
      .pass (.ms 19900)]
    ∃ t newer silent, BeatForces s t ∧
      t.history = newer ++ { time := s.now, deed := .closed } :: { time := s.now, deed := .forced } ::
        { time := s.now, deed := .beat (.stale silent) } :: s.history ∧
      ∃ r ∈ s.history, r.deed.isOpened ∧ r.time + .ms 19900 = s.now := by
  intro s
  have hhistory : (s.move .drive).history =
      [{ time := s.now, deed := .posted (.transport .disconnect) }] ++
        { time := s.now, deed := .closed } :: { time := s.now, deed := .forced } ::
        { time := s.now, deed := .beat (.stale (.ms 50000)) } :: s.history := rfl
  have hattempt : ∃ r ∈ s.history, r.deed.isOpened ∧ r.time + .ms 19900 = s.now := by decide +kernel
  exact ⟨s.move .drive, _, _, ⟨rfl, [_, _], _, hhistory⟩, hhistory, hattempt⟩

end ResilientChannel.Session
