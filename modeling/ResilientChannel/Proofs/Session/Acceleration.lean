import ResilientChannel.Proofs.Session.Attempts
import ResilientChannel.Proofs.Session.Causes
import ResilientChannel.Proofs.Session.Undisturbed

/-!
What the news that the host is online does to the next attempt.

* **Forces.** `Retry.force` is what a forced reconnect makes of the controller once all that the line
  fires in answer has been handled (`exists_rest_force`). A graceful line leads to one loss, whatever
  state it was in (`Retry.force_of_graceful`).
* **Two signals.** At rest a plain `forceReconnect` leads to a force, and so does the news if the channel
  is in trouble, but with the counter set to one before it. Otherwise the news does nothing.
* **Two comparisons.** The counter is set to one also where it was zero, so the news may put the next
  attempt off: compared with a plain force exactly from a counter of zero (`online_no_later_iff`), and
  compared with the attempt that was pending when the delay of the second step is longer than what was
  left to wait (`online_keeps_iff`).
-/

namespace ResilientChannel

/-- The controller after a reconnect was forced at `now` over a line, and all was handled that the line
fired. -/
def Retry.force (r : Retry) (now : Time) (line : Line) : Retry :=
  let lost := line.disconnect.1.state.isOpen || !line.state.isLive
  line.disconnect.2.foldl (·.hear now ·) (if lost then (r.onDisconnect now).2 else r)

/-- Over a graceful line a force is one loss: the line reports it, or it is made up. -/
lemma Retry.force_of_graceful (r : Retry) (now : Time) {line : Line}
    (h : line.onDisconnect = .graceful) : r.force now line = (r.onDisconnect now).2 := by
  rw [force]
  cases hlive : line.state.isLive with
  | true =>
      rw [Line.disconnect_of_isLive h hlive]
      rfl
  | false =>
      rw [Line.disconnect_of_not_isLive h hlive]
      simp

namespace Session

open Retry (attempts_onDisconnect)

variable {s t u : Session}

/-! ### Forces -/

lemma closeLine_queue (h : s.running) :
    s.closeLine.queue = s.queue ++ s.line.disconnect.2.map .transport := by
  have hclosed : ({ s with line := s.line.disconnect.1 }.note .closed).running := h
  exact hear_queue hclosed _

/-- At rest a force is followed by what the line fires. -/
lemma exists_rest_force (h : Undue s) (hreticent : s.Reticent) (hqueue : s.queue = []) :
    ∃ t, ComesToRest s.force t ∧ t.line = s.line.disconnect.1 ∧
      t.life.retry = s.life.retry.force s.now s.line := by
  generalize hclosed : (s.note .forced).closeLine = closed
  have hundue : Undue closed := by
    have hnoted : Undue ({ s.note .forced with line := s.line.disconnect.1 }.note .closed) :=
      ⟨h.running, h.started, h.retry, h.heartbeat⟩
    exact hclosed ▸ hnoted.hear _
  have hevents : closed.queue = s.line.disconnect.2.map .transport := by
    have hforced : (s.note .forced).running := h.running
    rw [← hclosed, closeLine_queue hforced, note_queue, hqueue]
    rfl
  have hnow : closed.now = s.now := by simp [← hclosed]
  have hline : closed.line = s.line.disconnect.1 := by simp [← hclosed, closeLine]
  have hlife : closed.life = s.life := by simp [← hclosed]
  have hforce := force_of_started h.started
  rw [hclosed] at hforce
  split at hforce
  next hlost =>
    have hhandled := attends (s := closed) .disconnect hundue.started
      fun notice _ => by rw [Idles, hlife]; exact hreticent.idles notice
    obtain ⟨t, hrest, -, hline', hretry⟩ := exists_rest (hundue.attends hhandled)
      (by rw [Reticent, hhandled.callbacks, hlife]; exact hreticent) (hhandled.queue.trans hevents)
    refine ⟨t, hforce ▸ hrest, hline'.trans (hhandled.line.trans hline), ?_⟩
    rw [hretry, hhandled.retry, hhandled.now, hlife, hnow, Retry.force, if_pos (hline ▸ hlost)]
    rfl
  next hlost =>
    obtain ⟨t, hrest, -, hline', hretry⟩ := exists_rest hundue
      (by rw [Reticent, hlife]; exact hreticent) hevents
    refine ⟨t, hforce ▸ hrest, hline'.trans hline, ?_⟩
    rw [hretry, hlife, hnow, Retry.force, if_neg (hline ▸ hlost)]

/-! ### Two signals -/

/-- The channel is in trouble: a second attempt is under way, or the server has been silent for too
long. -/
def inTrouble (s : Session) : Bool := s.life.retry.inBackoff || s.life.heartbeat.isLate s.now

/-- The session after it was told something at rest and has taken it up. -/
def told (s : Session) (x : Signal) : Session := { s.post x with queue := [] }.note (.took x)

/-- What the driver is told at rest it handles at once. -/
lemma drive?_post (hrunning : s.running) (hqueue : s.queue = []) (x : Signal) :
    (s.post x).drive? = some ((s.told x).handle x) :=
  drive?_of_queue (by simpa using hrunning) (by simp [post_queue, hrunning, hqueue])

lemma Undue.told (h : Undue s) (x : Signal) : Undue (s.told x) where
  running := by simpa [Session.told] using h.running
  started := by simpa [Session.told] using h.started
  retry := by simpa [Session.told] using h.retry
  heartbeat := by simpa [Session.told] using h.heartbeat

/-- The news that the host is online forces a reconnect with the counter set to one, if the channel is
in trouble, and otherwise does nothing. -/
lemma observe_online (s : Session) :
    s.observe .online =
      if s.inTrouble then
        ({ s with life.presence := { last := some .online } }.accelerate).force
      else { s with life.presence := { last := some .online } } := by
  rw [inTrouble]
  cases htrouble : s.life.retry.inBackoff || s.life.heartbeat.isLate s.now <;>
    simp [observe, Presence.observe, htrouble]

section Rest

variable (h : Undue s) (hqueue : s.queue = [])

include h hqueue

lemma exists_rest_forceReconnect (hreticent : s.Reticent) :
    ∃ t, ComesToRest (s.post .forceReconnect) t ∧ t.line = s.line.disconnect.1 ∧
      t.life.retry = s.life.retry.force s.now s.line := by
  obtain ⟨t, hrest, hline, hretry⟩ := exists_rest_force (h.told .forceReconnect)
    (by simpa [Reticent, told] using hreticent) rfl
  refine ⟨t, hrest.drive (drive?_post h.running hqueue _), ?_, ?_⟩
  · simpa [told] using hline
  · simpa [told] using hretry

lemma exists_rest_online (hreticent : s.Reticent) (htrouble : s.inTrouble) :
    ∃ t, ComesToRest (s.post (.network .online)) t ∧ t.line = s.line.disconnect.1 ∧
      t.life.retry = s.life.retry.accelerate.force s.now s.line := by
  generalize hcut : ({ s.told (.network .online) with
    life.presence := { last := some .online } }.accelerate) = cut
  have htold := h.told (.network .online)
  have hundue : Undue cut := hcut ▸ ⟨htold.running, htold.started, htold.retry, htold.heartbeat⟩
  have hdrive := drive?_post h.running hqueue (.network .online)
  have hsame : (s.told (.network .online)).inTrouble := by
    simpa [told, inTrouble] using htrouble
  rw [handle, observe_online, if_pos hsame, hcut] at hdrive
  have hkept : cut.life.callbacks = s.life.callbacks := by simp [← hcut, told, accelerate]
  have hidle : cut.queue = [] := hcut ▸ rfl
  obtain ⟨t, hrest, hline, hretry⟩ := exists_rest_force hundue
    (by simpa [Reticent, hkept] using hreticent) hidle
  refine ⟨t, hrest.drive hdrive, ?_, ?_⟩
  · simpa [← hcut, told, accelerate] using hline
  · simpa [← hcut, told, accelerate] using hretry

lemma exists_rest_online_of_not_inTrouble (htrouble : s.inTrouble = false) :
    ∃ t, ComesToRest (s.post (.network .online)) t ∧ t.line = s.line ∧
      t.life.retry = s.life.retry := by
  have htold := h.told (.network .online)
  have hdrive := drive?_post h.running hqueue (.network .online)
  have hsame : (s.told (.network .online)).inTrouble = false := by
    simpa [told, inTrouble] using htrouble
  rw [handle, observe_online, hsame] at hdrive
  have hundue : Undue { s.told (.network .online) with life.presence := { last := some .online } } :=
    ⟨htold.running, htold.started, htold.retry, htold.heartbeat⟩
  refine ⟨_, (ComesToRest.drive ⟨.refl, hundue.drive?_eq_none rfl⟩ hdrive), ?_, ?_⟩
  · simp [told]
  · simp [told]

end Rest

/-! ### Two comparisons -/

/-- The second step of the backoff is no longer than the next one, unless the next one is the first. -/
lemma delay_two_le_iff {n : Nat} (h : n ≤ 8) :
    Retry.delay 2 ≤ Retry.delay (min 8 (n + 1)) ↔ n ≠ 0 := by
  have hsteps : ∀ n < 9, Retry.delay 2 ≤ Retry.delay (min 8 (n + 1)) ↔ n ≠ 0 := by decide
  exact hsteps n (by omega)

/-- **Coming online beats a plain force from every counter but zero.** In every settled state of a
started channel over a graceful line, with callbacks that do nothing: if the news that the host is online
leads to a forced reconnect, then it comes to rest with an attempt pending, as a plain force does, and
the former is due no later than the latter if and only if the counter was not zero. Each of the two comes
to rest in one way only (`ComesToRest.unique`). -/
theorem online_no_later_iff (now : Time) {line : Line} (hline : line.onDisconnect = .graceful)
    {moves : List Move} (hmoves : ∀ m ∈ moves, m.Within Action.StaysGraceful) :
    let s := (fresh now line).run moves
    s.isSettled → s.running → s.life.started → s.Reticent → s.inTrouble →
      ∃ t u d e, ComesToRest (s.post (.network .online)) t ∧ ComesToRest (s.post .forceReconnect) u ∧
        t.life.retry.dueAt = some d ∧ u.life.retry.dueAt = some e ∧
        (d ≤ e ↔ s.life.retry.attempts ≠ 0) := by
  intro s hsettled hrunning hstarted hreticent htrouble
  obtain ⟨hundue, hqueue⟩ := Undue.of_isSettled hsettled hrunning hstarted
  have hgraceful : s.line.onDisconnect = .graceful :=
    ((settled_invariant.run ⟨inTurn_fresh now line, fun _ => settled_fresh now hline⟩ hmoves).2
      hrunning).graceful
  have hcap : s.life.retry.attempts ≤ 8 := by
    rw [(recorded_run now line moves).attempts]
    omega
  obtain ⟨t, ht, -, hretry⟩ := exists_rest_online hundue hqueue hreticent htrouble
  obtain ⟨u, hu, -, hretry'⟩ := exists_rest_forceReconnect hundue hqueue hreticent
  rw [Retry.force_of_graceful _ _ hgraceful] at hretry hretry'
  refine ⟨t, u, s.now + Retry.delay 2, s.now + Retry.delay (min 8 (s.life.retry.attempts + 1)),
    ht, hu, hretry ▸ rfl, ?_, ?_⟩
  · rw [hretry', ← attempts_onDisconnect hcap s.now]
    rfl
  · rw [← delay_two_le_iff hcap]
    exact Nat.add_le_add_iff_left

/-- After two failures in a row the news brings the attempt forward. -/
theorem online_no_later_in_backoff :
    let s := (fresh 0 {}).run [.act .connect, .drive, .act .lineOpens, .drive, .act .lineDrops, .drive,
      .act .lineDrops, .drive]
    s.isSettled ∧ s.running ∧ s.life.started ∧ s.Reticent ∧ s.inTrouble ∧
      ∃ t u d e, ComesToRest (s.post (.network .online)) t ∧ ComesToRest (s.post .forceReconnect) u ∧
        t.life.retry.dueAt = some d ∧ u.life.retry.dueAt = some e ∧
        (d ≤ e ↔ s.life.retry.attempts ≠ 0) := by
  intro s
  have hsettled : s.isSettled := by decide +kernel
  have hrunning : s.running := by decide +kernel
  have hstarted : s.life.started := by decide +kernel
  have hreticent : s.Reticent := .of_callbacks_eq_empty rfl
  have htrouble : s.inTrouble := by decide +kernel
  have hmoves : ∀ m ∈ [Move.act .connect, .drive, .act .lineOpens, .drive, .act .lineDrops, .drive,
      .act .lineDrops, .drive], m.Within Action.StaysGraceful := by
    have hstarts : Action.Within Action.StaysGraceful .connect := .mk trivial nofun
    have hopens : Action.Within Action.StaysGraceful .lineOpens := .mk trivial nofun
    have hdrops : Action.Within Action.StaysGraceful .lineDrops := .mk trivial nofun
    simp [Move.Within, hstarts, hopens, hdrops]
  exact ⟨hsettled, hrunning, hstarted, hreticent, htrouble,
    online_no_later_iff 0 rfl hmoves hsettled hrunning hstarted hreticent htrouble⟩

/-- On an open line that has been silent for 46 s the news puts the first attempt off: it moves the
counter up from zero, and the attempt is due after 800 ms where a plain force has it due after 100 ms. -/
theorem online_later_than_force :
    let s := (fresh 0 {}).run [.act .connect, .drive, .act .lineOpens, .drive, .pass (.ms 25000), .drive,
      .pass (.ms 21000)]
    s.isSettled ∧ s.running ∧ s.life.started ∧ s.Reticent ∧ s.inTrouble ∧
      ∃ t u, ComesToRest (s.post (.network .online)) t ∧ ComesToRest (s.post .forceReconnect) u ∧
        t.life.retry.dueAt = some (.ms 46800) ∧ u.life.retry.dueAt = some (.ms 46100) := by
  intro s
  have hsettled : s.isSettled := by decide +kernel
  have hrunning : s.running := by decide +kernel
  have hstarted : s.life.started := by decide +kernel
  have hreticent : s.Reticent := .of_callbacks_eq_empty rfl
  have htrouble : s.inTrouble := by decide +kernel
  obtain ⟨hundue, hqueue⟩ := Undue.of_isSettled hsettled hrunning hstarted
  obtain ⟨t, ht, -, hretry⟩ := exists_rest_online hundue hqueue hreticent htrouble
  obtain ⟨u, hu, -, hretry'⟩ := exists_rest_forceReconnect hundue hqueue hreticent
  have hlater : (s.life.retry.accelerate.force s.now s.line).dueAt = some (.ms 46800) := by
    decide +kernel
  have hsooner : (s.life.retry.force s.now s.line).dueAt = some (.ms 46100) := by decide +kernel
  exact ⟨hsettled, hrunning, hstarted, hreticent, htrouble, t, u, ht, hu, hretry ▸ hlater,
    hretry' ▸ hsooner⟩

/-- **Coming online keeps a pending attempt from being put off when the second step fits.** In every
settled state of a started channel over any line, with callbacks that do nothing and an attempt pending
at `d`: after the news that the host is online the channel comes to rest with a live line or an attempt
due no later than `d` if and only if it was not in trouble, or the force that the news leads to leaves a
live line, or such an attempt; over a graceful line, if and only if it was not in trouble or there were
at least 800 ms left to wait. There is no other state in which it comes to rest (`ComesToRest.unique`). -/
theorem online_keeps_iff (now : Time) (line : Line) (moves : List Move) :
    let s := (fresh now line).run moves
    s.isSettled → s.running → s.life.started → s.Reticent →
      ∀ d, s.life.retry.dueAt = some d → ∃ t, ComesToRest (s.post (.network .online)) t ∧
        ((t.line.state.isLive ∨ ∃ e ≤ d, t.life.retry.dueAt = some e) ↔
          (s.inTrouble → s.line.disconnect.1.state.isLive ∨
            ∃ e ≤ d, (s.life.retry.accelerate.force s.now s.line).dueAt = some e)) ∧
        (s.line.onDisconnect = .graceful →
          ((t.line.state.isLive ∨ ∃ e ≤ d, t.life.retry.dueAt = some e) ↔
            (s.inTrouble → s.now + .ms 800 ≤ d))) := by
  intro s hsettled hrunning hstarted hreticent d hdue
  obtain ⟨hundue, hqueue⟩ := Undue.of_isSettled hsettled hrunning hstarted
  cases htrouble : s.inTrouble with
  | false =>
      obtain ⟨t, ht, -, hretry⟩ := exists_rest_online_of_not_inTrouble hundue hqueue htrouble
      have hkept : ∃ e ≤ d, t.life.retry.dueAt = some e := ⟨d, Nat.le_refl d, hretry ▸ hdue⟩
      exact ⟨t, ht, by simp [hkept], by simp [hkept]⟩
  | true =>
      obtain ⟨t, ht, hline, hretry⟩ := exists_rest_online hundue hqueue hreticent htrouble
      refine ⟨t, ht, by simp [hline, hretry], fun hgraceful => ?_⟩
      have hdown : t.line.state.isLive = false := hline ▸ Line.isLive_disconnect hgraceful
      have hnext : t.life.retry.dueAt = some (s.now + .ms 800) := by
        rw [hretry, Retry.force_of_graceful _ _ hgraceful, ← show Retry.delay 2 = .ms 800 by decide]
        rfl
      simp [hdown, hnext]

/-- After two failures in a row, with 800 ms left to wait, the news does not put the attempt off. -/
theorem online_keeps_in_backoff :
    let s := (fresh 0 {}).run [.act .connect, .drive, .act .lineOpens, .drive, .act .lineDrops, .drive,
      .act .lineDrops, .drive]
    s.isSettled ∧ s.running ∧ s.life.started ∧ s.Reticent ∧ s.life.retry.dueAt = some (.ms 800) ∧
      ∃ t, ComesToRest (s.post (.network .online)) t ∧
        ((t.line.state.isLive ∨ ∃ e ≤ .ms 800, t.life.retry.dueAt = some e) ↔
          (s.inTrouble → s.line.disconnect.1.state.isLive ∨
            ∃ e ≤ .ms 800, (s.life.retry.accelerate.force s.now s.line).dueAt = some e)) ∧
        (s.line.onDisconnect = .graceful →
          ((t.line.state.isLive ∨ ∃ e ≤ .ms 800, t.life.retry.dueAt = some e) ↔
            (s.inTrouble → s.now + .ms 800 ≤ .ms 800))) := by
  intro s
  have hsettled : s.isSettled := by decide +kernel
  have hrunning : s.running := by decide +kernel
  have hstarted : s.life.started := by decide +kernel
  have hreticent : s.Reticent := .of_callbacks_eq_empty rfl
  have hdue : s.life.retry.dueAt = some (.ms 800) := by decide +kernel
  exact ⟨hsettled, hrunning, hstarted, hreticent, hdue,
    online_keeps_iff 0 {} _ hsettled hrunning hstarted hreticent _ hdue⟩

/-- Three failures in a row, and 100 ms left of the delay of 2.7 s: the news puts the attempt off by
700 ms. -/
theorem online_postpones :
    let s := (fresh 0 {}).run [.act .connect, .drive, .act .lineOpens, .drive,
      .act (.batch [.lineDrops, .lineDrops, .lineDrops]), .drive, .drive, .drive, .pass (.ms 2600)]
    s.isSettled ∧ s.running ∧ s.life.started ∧ s.Reticent ∧ s.life.retry.dueAt = some (.ms 2700) ∧
      ∃ t, ComesToRest (s.post (.network .online)) t ∧ t.line.state.isLive = false ∧
        t.life.retry.dueAt = some (.ms 3400) := by
  intro s
  have hsettled : s.isSettled := by decide +kernel
  have hrunning : s.running := by decide +kernel
  have hstarted : s.life.started := by decide +kernel
  have hreticent : s.Reticent := .of_callbacks_eq_empty rfl
  have hdue : s.life.retry.dueAt = some (.ms 2700) := by decide +kernel
  have htrouble : s.inTrouble := by decide +kernel
  obtain ⟨hundue, hqueue⟩ := Undue.of_isSettled hsettled hrunning hstarted
  obtain ⟨t, ht, hline, hretry⟩ := exists_rest_online hundue hqueue hreticent htrouble
  have hdown : s.line.disconnect.1.state.isLive = false := by decide +kernel
  have hnext : (s.life.retry.accelerate.force s.now s.line).dueAt = some (.ms 3400) := by
    decide +kernel
  exact ⟨hsettled, hrunning, hstarted, hreticent, hdue, t, ht, hline ▸ hdown, hretry ▸ hnext⟩

end Session

end ResilientChannel
