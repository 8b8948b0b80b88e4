import ResilientChannel.Proofs.Session.Attempts
import ResilientChannel.Proofs.Session.Pulse
import ResilientChannel.Proofs.Session.Undisturbed

/-!
What a snapshot of a channel at rest shows.

* **The pending attempt.** Behind it lies a loss, so the channel was started and its counter is not zero
  (`Chronicle.outage_pos`), and it is due no later than the longest delay from now
  (`Tracked.dueAt_sound`).
* **The next beat.** While the driver has not ended (`unended_run`), the heartbeat is armed from the first
  activity on (`exists_beatDue`). The next beat is due an interval after whatever has armed it
  (`exists_of_beatDue`), hence no later than an interval from now, and no earlier than an interval after
  the last activity.
* **At rest** nothing is overdue (`Undue`). Together this is `Snapshot.IsSound`, which holds of the
  snapshot of every settled state (`snapshots_sound`).
-/

namespace ResilientChannel

/-- A snapshot that may be shown at `now` of a channel at rest: the counter keeps below its cap, no
deadline is in the past or too far away, and the heartbeat is armed from the first activity on. -/
structure Snapshot.IsSound (snapshot : Snapshot) (now : Time) : Prop where
  attempts_le : snapshot.attempts ≤ 8
  reconnectAt : ∀ due ∈ snapshot.reconnectAt,
    snapshot.started ∧ 1 ≤ snapshot.attempts ∧ now < due ∧ due ≤ now + .ms 51200
  isSome_heartbeatAt : snapshot.heartbeatAt.isSome = snapshot.lastActivity.isSome
  heartbeatAt : ∀ heard ∈ snapshot.lastActivity, ∀ due ∈ snapshot.heartbeatAt,
    heard ≤ now ∧ now < due ∧ due ≤ now + .ms 25000 ∧ heard + .ms 25000 ≤ due
  heartbeatLate : snapshot.heartbeatLate = true ↔
    ∃ heard ∈ snapshot.lastActivity, heard + .ms 45000 < now

namespace Session

variable {s t : Session}

/-! ### The pending attempt -/

/-- Behind a pending attempt lies a loss on a started channel, and no `Connect` since. -/
lemma Chronicle.outage_pos {h : List Record} (hc : Chronicle h) {due : Time}
    (hdue : pending h = some due) : begun h = true ∧ 1 ≤ outage (milestones h) := by
  induction h with
  | nil => simp [pending] at hdue
  | cons r h ih =>
      obtain ⟨time, deed⟩ := r
      obtain ⟨-, hr, hc⟩ := hc
      have hmono : begun h = true → begun ({ time, deed } :: h) = true := by
        intro hb
        rw [begun, List.any_cons, Bool.or_eq_true]
        exact .inr hb
      cases hlost : deed.isLost with
      | true =>
          cases deed <;> simp only [Deed.isLost, Bool.false_eq_true] at hlost
          exact ⟨hmono hr.1, Nat.le_add_left 1 _⟩
      | false =>
          -- what leaves an attempt pending can only set the counter to one
          obtain ⟨hbegun, hpos⟩ : begun h = true ∧ 1 ≤ outage (milestones h) := by
            refine ih hc ?_
            rcases pending_of_not_lost (r := { time, deed }) hlost h with hnone | hsame
            · rw [hnone] at hdue
              cases hdue
            · rwa [hsame] at hdue
          refine ⟨hmono hbegun, ?_⟩
          rw [milestones_cons]
          simp only [pending] at hdue
          simp only [Deed.milestone?]
          split <;> simp_all [outage]

/-- The longest delay is that of the cap. -/
lemma delay_le {n : Nat} (h : n ≤ 8) : Time.ms (n ^ 3 * 100) ≤ .ms 51200 := by
  have hcube : n ^ 3 ≤ 8 ^ 3 := Nat.pow_le_pow_left h 3
  exact Nat.mul_le_mul_left _ (by omega)

/-- A pending attempt is that of a started channel after a loss, no further off than the longest delay. -/
lemma Tracked.dueAt_sound (h : Tracked s) {due : Time} (hdue : s.life.retry.dueAt = some due) :
    s.life.started = true ∧ 1 ≤ s.life.retry.attempts ∧ due ≤ s.now + .ms 51200 := by
  rw [h.dueAt] at hdue
  obtain ⟨hbegun, hpos⟩ := h.chronicle.outage_pos hdue
  obtain ⟨between, made, n, before, heq, -, -, hn, rfl⟩ := h.chronicle.exists_loss hdue
  have hmade : made ≤ s.now := h.past { time := made, deed := .lost n } (by simp [heq])
  refine ⟨h.started.trans hbegun, ?_, Nat.add_le_add hmade (delay_le hn)⟩
  rw [h.attempts]
  omega

/-! ### The next beat -/

/-- The driver's end. -/
def Deed.isEnd : Deed → Bool
  | .ended => true
  | _ => false

lemma Deed.isEnd_of_isOngoing {d : Deed} (h : d.isOngoing) : d.isEnd = false := by
  cases d <;> simp_all [isOngoing, isEnd]

/-- A running driver has not ended. -/
lemma unended_run (now : Time) (line : Line) (moves : List Move) :
    ((fresh now line).run moves).running →
      ∀ r ∈ ((fresh now line).run moves).history, r.deed.isEnd = false := by
  have hflow : ∀ {s t : Session}, (s.running → ∀ r ∈ s.history, r.deed.isEnd = false) →
      Flow Deed.isOngoing s t → t.running → ∀ r ∈ t.history, r.deed.isEnd = false := by
    intro s t hs ht hrunning r hr
    obtain ⟨new, hnew, -, hongoing⟩ := ht.entries
    rw [hnew] at hr
    rcases List.mem_append.mp hr with hr | hr
    · exact Deed.isEnd_of_isOngoing (hongoing r hr)
    · exact hs (ht.running ▸ hrunning) r hr
  have hunended : Invariant (fun _ => True)
      fun s => s.running → ∀ r ∈ s.history, r.deed.isEnd = false :=
    { touch := fun h ht => hflow h (ht.flow.mono fun _ => Deed.isOngoing_of_isErrand)
      drive := fun {s t} h ht => by
        obtain ⟨hs, ⟨rest, -, rfl⟩ | ⟨x, rest, -, -, hex⟩ | ⟨-, hex⟩⟩ := drive?_exchange ht
        · simp
        · refine hflow (fun _ r hr => ?_) hex.flow
          rcases List.mem_cons.mp hr with rfl | hr
          · rfl
          · exact h hs r hr
        · exact hflow h hex.flow
      pass := fun _ h => h }
  exact hunended.run (by simp [fresh]) fun m _ => m.within_of_forall fun _ => trivial

/-- From the first activity on the heartbeat is armed. -/
lemma exists_beatDue {h : List Record} (hend : ∀ r ∈ h, r.deed.isEnd = false) {heard : Time}
    (hheard : lastHeard h = some heard) : ∃ due, beatDue h = some due := by
  induction h with
  | nil => simp [lastHeard] at hheard
  | cons r h ih =>
      obtain ⟨time, deed⟩ := r
      have hdeed : deed.isEnd = false := hend { time, deed } (by simp)
      have hrest := ih fun q hq => hend q (by simp [hq])
      simp only [lastHeard] at hheard
      simp only [beatDue]
      split <;> simp_all [Deed.isActivity, Deed.isEnd]

/-- The next beat is an interval later than what has armed it. -/
lemma exists_of_beatDue {h : List Record} {due : Time} (hdue : beatDue h = some due) :
    ∃ r ∈ h, due = r.time + Parameters.pingInterval := by
  induction h with
  | nil => simp [beatDue] at hdue
  | cons r h ih =>
      by_cases hr : r.deed.isArming
      · rw [beatDue_of_isArming hr, Option.some.injEq] at hdue
        exact ⟨r, by simp, hdue.symm⟩
      · have hkept : beatDue h = some due := by
          obtain ⟨time, deed⟩ := r
          simp only [beatDue] at hdue
          split at hdue <;> simp_all [Deed.isArming]
        obtain ⟨q, hmem, hq⟩ := ih hkept
        exact ⟨q, .tail _ hmem, hq⟩

/-- The next beat is no further off than an interval from now, nor closer to the last activity. -/
lemma Pulsing.dueAt_sound (h : Pulsing s) (ht : Tracked s) {heard due : Time}
    (hheard : s.life.heartbeat.lastActivity = some heard) (hdue : s.life.heartbeat.dueAt = some due) :
    heard ≤ s.now ∧ due ≤ s.now + Parameters.pingInterval ∧
      heard + Parameters.pingInterval ≤ due := by
  rw [h.lastActivity] at hheard
  rw [h.dueAt] at hdue
  obtain ⟨r, hr, hactivity, rfl⟩ := exists_of_lastHeard hheard
  have hspaced := ht.chronicle.beatDue_le hdue hr (Deed.isArming_of_isActivity hactivity)
  obtain ⟨q, hq, rfl⟩ := exists_of_beatDue hdue
  exact ⟨ht.past r hr, Nat.add_le_add_right (ht.past q hq) _, hspaced⟩

/-- While the driver has not ended, a beat is due exactly if the server was heard. -/
lemma Pulsing.isSome_dueAt (h : Pulsing s) (hend : ∀ r ∈ s.history, r.deed.isEnd = false) :
    s.life.heartbeat.dueAt.isSome = s.life.heartbeat.lastActivity.isSome := by
  rw [h.dueAt, h.lastActivity, Bool.eq_iff_iff, Option.isSome_iff_exists, Option.isSome_iff_exists]
  constructor
  · rintro ⟨due, hdue⟩
    exact h.pulse.heard hdue
  · rintro ⟨heard, hheard⟩
    exact exists_beatDue hend hheard

/-! ### At rest -/

/-- **Every snapshot is sound.** In every run over any line, in every settled state before the end, the
snapshot of the moment shows

* a counter of at most 8;
* an attempt pending only if the channel was started and the counter is at least 1, and then later than
  now and no later than 51.2 s from now;
* a beat due exactly if the server was heard, and then later than now, no later than 25 s from now and no
  earlier than 25 s after the last activity, which is not in the future;
* a late heartbeat exactly if the server was heard more than 45 s ago;

and whoever asks for a snapshot then is answered with this one. -/
theorem snapshots_sound (now : Time) (line : Line) (moves : List Move) :
    let s := (fresh now line).run moves
    s.isSettled → s.running →
      let snapshot := s.life.snapshot s.line.state s.now
      snapshot.IsSound s.now ∧
        ∃ older, ((s.post .inspect).move .drive).history =
          { time := s.now, deed := .answered snapshot } :: older := by
  intro s hsettled hrunning snapshot
  have h : Tracked s := (recorded_run now line moves).toTracked
  have hp : Pulsing s := pulsing_run now line moves
  obtain ⟨hqueue, hretry, hbeat⟩ := rest_of_isSettled hsettled hrunning
  refine ⟨⟨?_, ?_, ?_, ?_, ?_⟩, ?_⟩
  · have hcap : snapshot.attempts = min 8 (outage (milestones s.history)) := h.attempts
    omega
  · intro due hdue
    have hnow : s.now < due := by
      rw [Retry.isDue, show s.life.retry.dueAt = some due from hdue] at hretry
      simpa using hretry
    obtain ⟨hstarted, hpos, hle⟩ := h.dueAt_sound hdue
    exact ⟨hstarted, hpos, hnow, hle⟩
  · exact hp.isSome_dueAt (unended_run now line moves hrunning)
  · intro heard hheard due hdue
    have hnow : s.now < due := by
      rw [Heartbeat.isDue, show s.life.heartbeat.dueAt = some due from hdue] at hbeat
      simpa using hbeat
    obtain ⟨hpast, hle, hspaced⟩ := hp.dueAt_sound h hheard hdue
    exact ⟨hpast, hnow, hle, hspaced⟩
  · show s.life.heartbeat.isLate s.now = true ↔ _
    rw [isLate_eq, Option.any_eq_true]
    exact exists_congr fun heard => and_congr_right fun _ => decide_eq_true_iff
  · -- nothing waits in the queue before the request
    have hposted : (s.post .inspect).queue = [.inspect] := by
      rw [post_queue, if_pos hrunning, hqueue]
      rfl
    rw [move, drive?_of_queue (by simpa using hrunning) hposted]
    exact ⟨{ time := s.now, deed := .took .inspect } :: (s.post .inspect).history, by
      simp [handle, snapshot]⟩

/-- After a drop that was heard of, with a beat due in 24 s and an attempt in 100 ms. -/
theorem snapshots_sound_after_drop :
    let s := (fresh 0 {}).run [.act .connect, .drive, .act .lineOpens, .drive, .pass (.ms 1000),
      .act .lineDrops, .drive]
    s.isSettled ∧ s.running ∧
      let snapshot := s.life.snapshot s.line.state s.now
      snapshot.reconnectAt = some (.ms 1100) ∧ snapshot.heartbeatAt = some (.ms 25000) ∧
        snapshot.lastActivity = some 0 ∧ snapshot.IsSound s.now ∧
        ∃ older, ((s.post .inspect).move .drive).history =
          { time := s.now, deed := .answered snapshot } :: older := by
  intro s
  have hsettled : s.isSettled := by decide +kernel
  have hrunning : s.running := by decide +kernel
  obtain ⟨hsound, hanswered⟩ := snapshots_sound 0 {} _ hsettled hrunning
  exact ⟨hsettled, hrunning, by decide +kernel, by decide +kernel, by decide +kernel, hsound, hanswered⟩

end Session

end ResilientChannel
