import ResilientChannel.Proofs.Session.HalfOpen

/-!
What is left pending after the heartbeat has found the server silent for too long.

* **The finding.** A beat finds a silence (`FindsSilence`). On a line that is not open it is left at that
  (`FindsSilence.rest_of_not_isOpen`); an open connection is torn down, and the first attempt is made after
  100 ms (`FindsSilence.rest_of_opened`).
* **Hanging.** A line that never answers an attempt is neither open nor idle, and the attempt is no longer
  pending (`Hangs`). The heartbeat takes this for a recovery under way.
* **The recovery.** Over a graceful line an attempt is pending after the finding exactly if the channel does
  not hang (`stale_recovers_iff`). If it does, it hangs for good unless something comes from outside
  (`Stuck`).
-/

namespace ResilientChannel.Session

variable {s t : Session}

/-! ### The finding -/

/-- The driver's next deed is a beat that finds a silence longer than the threshold. -/
def FindsSilence (s t : Session) : Prop :=
  s.drive? = some t ∧ ∃ newer silent,
    t.history = newer ++ { time := s.now, deed := .beat (.stale silent) } :: s.history

/-- A silence is found with an empty queue and no attempt due. -/
lemma FindsSilence.found (h : FindsSilence s t) (hp : Pulsing s) :
    s.running ∧ s.queue = [] ∧ s.life.retry.isDue s.now = false ∧ t = s.beat ∧
      ∃ heard, s.life.heartbeat.lastActivity = some heard ∧ heard + Parameters.staleAfter < s.now := by
  obtain ⟨hdrive, newer, silent, hhistory⟩ := h
  obtain ⟨hrunning, hqueue, hretry, hdue, rfl⟩ := drive?_of_beat hdrive hhistory
  rw [Heartbeat.isDue, hp.dueAt, Option.any_eq_true] at hdue
  obtain ⟨due, hbeat, -⟩ := hdue
  obtain ⟨heard, hheard⟩ := hp.pulse.heard hbeat
  have hlast : s.life.heartbeat.lastActivity = some heard := hp.lastActivity.trans hheard
  refine ⟨hrunning, hqueue, hretry, rfl, heard, hlast, Nat.lt_of_not_le fun hearly => ?_⟩
  -- a beat in time would have been entered as a ping
  obtain ⟨new, hnew, -⟩ := (handIfOpen_traffic (s.beatNoted .ping) .ping .beat).history
  rw [beat_of_early hlast hearly, hnew] at hhistory
  have hcons := (List.append_inj' hhistory rfl).2
  cases (List.cons.inj hcons).1

/-- A live line reports a force. -/
lemma force_of_isLive (hs : s.life.started = true) (hgraceful : s.line.onDisconnect = .graceful)
    (hlive : s.line.state.isLive) :
    s.force = ({ s.note .forced with line.state := .idle }.note .closed).hear [.disconnect] := by
  rw [force_of_started hs, closeLine_of_isLive (by exact hgraceful) (by exact hlive), if_neg]
  simp [hlive, ConnectionState.isOpen]

/-- A force of a live line is followed by the loss that the line reports. A loss that is not told leads to
nothing else. -/
lemma Undue.exists_rest_teardown (h : Undue s) (hqueue : s.queue = [])
    (hgraceful : s.line.onDisconnect = .graceful) (hlive : s.line.state.isLive)
    (huntold : (s.life.retry.onDisconnect s.now).2.attempts ≤ 3) :
    ∃ u, ComesToRest s.force u ∧ u.life.retry = (s.life.retry.onDisconnect s.now).2 := by
  have hforce := force_of_isLive h.started hgraceful hlive
  have hforced : Undue s.force := by
    have hclosed : Undue ({ s.note .forced with line.state := .idle }.note .closed) :=
      ⟨h.running, h.started, h.retry, h.heartbeat⟩
    exact hforce ▸ hclosed.hear _
  have hreport : s.force.queue = [.transport .disconnect] := by
    have hclosed : ({ s.note .forced with line.state := .idle }.note .closed).running := h.running
    rw [hforce, hear_queue hclosed]
    exact congrArg (· ++ _) hqueue
  have hkept : s.force.life = s.life := by simp [hforce]
  have htook := hforced.pop [] (.transport .disconnect)
  have hhandled := Session.attends .disconnect htook.started fun notice hnotice => by
    rw [noticeOf, if_neg] at hnotice
    · cases hnotice
    · simpa [lossNoted, hkept] using huntold
  refine ⟨_, ComesToRest.drive ⟨.refl, (htook.attends hhandled).drive?_eq_none hhandled.queue⟩
    (drive?_of_queue hforced.running hreport), ?_⟩
  rw [hhandled.retry, note_life, note_now, hkept, force_now]
  rfl

section Found

variable (h : FindsSilence s t) (hp : Pulsing s) (hs : s.life.started = true)

include h hp hs

/-- On a line that is not open the finding changes nothing. -/
lemma FindsSilence.rest_of_not_isOpen (hopen : s.line.state.isOpen = false) :
    ComesToRest t t ∧ t.queue = [] ∧ t.line = s.line ∧ t.life.retry = s.life.retry := by
  obtain ⟨hrunning, hqueue, hretry, rfl, -⟩ := h.found hp
  rw [beat_of_not_isOpen hopen]
  generalize (s.life.heartbeat.tick s.now).1 = beat
  have hundue : Undue (s.beatNoted beat) :=
    ⟨hrunning, hs, hretry, Heartbeat.not_isDue_of_dueAt rfl⟩
  exact ⟨⟨.refl, hundue.drive?_eq_none hqueue⟩, hqueue, rfl, rfl⟩

/-- An open connection with nothing to retry is torn down, and the loss is that of a first failure. -/
lemma FindsSilence.rest_of_opened (hgraceful : s.line.onDisconnect = .graceful)
    (hopened : s.line.state = .opened) (hretry : s.life.retry = {}) :
    ∃ u, ComesToRest t u ∧
      u.life.retry = { attempts := 1, dueAt := some (s.now + .ms 100) } := by
  obtain ⟨hrunning, hqueue, hundue, rfl, heard, hheard, hlate⟩ := h.found hp
  have hbeat : s.beat = (s.beatNoted (.stale (s.now - heard))).force := by
    rw [beat_of_late hheard hlate, if_neg (by simp [hopened, ConnectionState.isOpen, hretry])]
  have hfound : Undue (s.beatNoted (.stale (s.now - heard))) :=
    ⟨hrunning, hs, hundue, Heartbeat.not_isDue_of_dueAt rfl⟩
  have hlive : s.line.state.isLive := hopened ▸ rfl
  have hfirst : (s.life.retry.onDisconnect s.now).2.attempts ≤ 3 := by
    rw [hretry]
    show 1 ≤ 3
    omega
  obtain ⟨u, hrest, hlost⟩ := hfound.exists_rest_teardown hqueue hgraceful hlive hfirst
  refine ⟨u, hbeat ▸ hrest, ?_⟩
  rw [hlost, ← show Retry.delay 1 = .ms 100 by decide]
  show (s.life.retry.onDisconnect s.now).2 = _
  rw [hretry]
  rfl

end Found

/-! ### Hanging -/

/-- The line is neither idle nor open, and no attempt is pending: what has become of the latest one is
still left open. -/
structure Hangs (s : Session) : Prop where
  not_idle : s.line.state ≠ .idle
  not_opened : s.line.state ≠ .opened
  dueAt : s.life.retry.dueAt = none

lemma Hangs.isOpen (h : s.Hangs) : s.line.state.isOpen = false := by
  simpa [ConnectionState.isOpen] using h.not_opened

/-- Nobody has anything to tell a channel that hangs. -/
structure Stuck (s : Session) : Prop extends Hangs s where
  queue : s.queue = []
  idle : s.watchers.all (·.isIdle)

namespace Stuck

/-- All that the driver can do is to beat, and whatever it finds it leaves alone. -/
lemma drive (h : Stuck s) (ht : s.drive? = some t) : Stuck t := by
  obtain ⟨-, ⟨x, rest, hqueue, -⟩ | ⟨-, hdue, -⟩ | ⟨-, -, -, rfl⟩⟩ := drive?_cases ht
  · simp [h.queue] at hqueue
  · simp [Retry.isDue, h.dueAt] at hdue
  · rw [beat_of_not_isOpen h.isOpen]
    exact { h with }

lemma pass (h : Stuck s) (duration : Time) : Stuck (s.pass duration) where
  not_idle := by simpa using h.not_idle
  not_opened := by simpa using h.not_opened
  dueAt := by simpa using h.dueAt
  queue := by simpa using h.queue
  idle := by simpa using h.idle

/-- Without anything from outside it stays so. -/
lemma smooth (h : Stuck s) (hsmooth : Smooth s t) : Stuck t := by
  induction hsmooth with
  | refl => exact h
  | drive _ hu ih => exact ih.drive hu
  | watch _ id ih => exact (watch_of_idle ih.idle id).symm ▸ ih
  | pass _ duration _ _ ih => exact ih.pass duration

end Stuck

/-! ### The recovery -/

/-- **A silence leads to a recovery unless the channel hangs.** In every run over a graceful line, in which
it reports whatever it does: when the heartbeat of a started channel has found the server silent for more
than 45 s, the channel comes to rest with an attempt pending if and only if it did not hang, that is unless
the line was neither idle nor open and its attempt no longer pending. If it did, and no watcher has news for
it, it hangs ever after while it is left to itself. The state in which it comes to rest is determined
(`ComesToRest.unique`). -/
theorem stale_recovers_iff (now : Time) {line : Line} (hline : line.IsGraceful) {moves : List Move}
    (hmoves : ∀ m ∈ moves, m.Within Action.IsFaithful) :
    let s := (fresh now line).run moves
    s.life.started → ∀ t, FindsSilence s t → ∃ u, ComesToRest t u ∧
      (u.life.retry.dueAt.isSome ↔ ¬ s.Hangs) ∧
      (s.Hangs → u.watchers.all (·.isIdle) → ∀ v, Smooth u v → v.Hangs) := by
  intro s hs t ht
  have hp : Pulsing s := pulsing_run now line moves
  have hrecovering : Recovering s := recovering_invariant.run (recovering_fresh now hline) hmoves
  obtain ⟨hrunning, hqueue, -⟩ := ht.found hp
  have hfits : Fits s.line.state s.life.retry :=
    hrecovering.fits hrunning hs (by rw [hqueue, lastNews_nil])
  by_cases hopened : s.line.state = .opened
  · have hretry := hfits.opened hopened
    obtain ⟨u, hrest, hlost⟩ :=
      ht.rest_of_opened hp hs hrecovering.graceful.disconnect hopened hretry
    have hsound : ¬ s.Hangs := fun hhangs => hhangs.not_opened hopened
    exact ⟨u, hrest, by simp [hlost, hsound], fun hhangs => absurd hhangs hsound⟩
  · have hclosed : s.line.state.isOpen = false := by simpa [ConnectionState.isOpen] using hopened
    obtain ⟨hrest, hqueue', hkept, hretry⟩ := ht.rest_of_not_isOpen hp hs hclosed
    refine ⟨t, hrest, ?_, fun hhangs hidle v hv => ?_⟩
    · rw [hretry]
      refine ⟨fun hpending hhangs => by simp [hhangs.dueAt] at hpending, fun hsound => ?_⟩
      cases hdue : s.life.retry.dueAt with
      | some due => rfl
      | none =>
          refine absurd ⟨fun hidle => ?_, hopened, hdue⟩ hsound
          simpa [hdue] using (hfits.idle hidle).1
    · have hstuck : Stuck t :=
        { not_idle := hkept ▸ hhangs.not_idle
          not_opened := hkept ▸ hhangs.not_opened
          dueAt := hretry ▸ hhangs.dueAt
          queue := hqueue'
          idle := hidle }
      exact (hstuck.smooth hv).toHangs

/-- Three losses in a row 48 s after the server was heard last: the silence of 50 s is found on an idle
line, and the attempt of the last loss is still pending. -/
theorem stale_recovers_in_outage :
    let moves : List Move := [.act .connect, .drive, .act .lineOpens, .drive, .pass (.ms 25000), .drive,
      .pass (.ms 23000), .act (.batch [.lineDrops, .lineDrops, .lineDrops]), .drive, .drive, .drive,
      .pass (.ms 2000)]
    let s := (fresh 0 {}).run moves
    let t := s.move .drive
    s.life.started ∧ FindsSilence s t ∧ t.life.retry.dueAt = some (.ms 50700) ∧
      ∃ u, ComesToRest t u ∧ (u.life.retry.dueAt.isSome ↔ ¬ s.Hangs) ∧
        (s.Hangs → u.watchers.all (·.isIdle) → ∀ v, Smooth u v → v.Hangs) := by
  intro moves s t
  have hmoves : ∀ m ∈ moves, m.Within Action.IsFaithful := by
    have hstarts : Action.Within Action.IsFaithful .connect := .mk trivial nofun
    have hopens : Action.Within Action.IsFaithful .lineOpens := .mk trivial nofun
    have hdrops : Action.Within Action.IsFaithful .lineDrops := .mk trivial nofun
    have hbatch : Action.Within Action.IsFaithful (.batch [.lineDrops, .lineDrops, .lineDrops]) :=
      .mk trivial (by simpa [Action.parts] using hdrops)
    simp [moves, Move.Within, hstarts, hopens, hbatch]
  have hstarted : s.life.started := by decide +kernel
  have hfinds : FindsSilence s t := ⟨rfl, [], .ms 50000, rfl⟩
  have hpending : t.life.retry.dueAt = some (.ms 50700) := by decide +kernel
  exact ⟨hstarted, hfinds, hpending, stale_recovers_iff 0 ⟨.inl rfl, rfl⟩ hmoves hstarted t hfinds⟩

/-- After half a minute on an open line it drops, and the attempt that follows is never answered. The
silence of 50 s is found while the line is connecting, and then nothing is left to do and no attempt
pending. -/
theorem hangs_after_drop :
    let s := (fresh 0 {}).run [.act .connect, .drive, .act .lineOpens, .drive, .pass (.ms 25000), .drive,
      .pass (.ms 5000), .act .lineDrops, .drive, .pass (.ms 100), .drive, .pass (.ms 19900)]
    let t := s.move .drive
    s.life.started ∧ FindsSilence s t ∧ ComesToRest t t ∧ t.line.state = .connecting ∧
      t.life.retry.dueAt = none :=
  ⟨rfl, ⟨rfl, [], .ms 50000, rfl⟩, ⟨.refl, rfl⟩, rfl, rfl⟩

end ResilientChannel.Session
