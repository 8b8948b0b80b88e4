import ResilientChannel.Proofs.Socket.Steps

/-!
What a disconnect does to a handshake in progress.

A disconnect in the connecting state asks the conduit to close. Its task may find that request and the
outcome of the handshake ready at once, and takes either. The handshake is given up if the request is taken
or the handshake fails: the conduit never opens, and all that it still tells is its end. If the success of
the handshake is taken, the conduit opens in spite of the request (`abandoned_iff`).

* **The state.** What shows says whether the newest conduit is established (`Chronicle.connecting`,
  `Chronicle.opened`).
* **The heralds.** A `Connect` is fired for an established conduit, and for each of them, in the open state
  (`Heralded`).
* **The remainder.** A conduit that never opened has told a part of its end, so that whatever it still tells
  is a part of an end (`Ending.suffix`).
-/

namespace ResilientChannel.Socket

open Transport

variable {s : Socket} {e : Nat} {h : List Deed} {d : Deed} {evs evs' last : List TransportEvent}

/-! ### The state -/

/-- Only a conduit that was opened is established. -/
lemma Chronicle.established_le (hc : Chronicle h) (he : .established e ∈ h) : e ≤ newest h := by
  induction h with
  | nil => cases he
  | cons d h ih =>
      rcases List.mem_cons.mp he with rfl | hmem
      · exact Nat.le_of_eq hc.2.1
      · exact Nat.le_trans (ih hc.2.2 hmem) hc.newest_le

/-- While the transport is connecting, it holds the queue of the newest conduit, which is not
established. -/
lemma Chronicle.connecting (hc : Chronicle h) (hstate : (face h).1 = .connecting) :
    (face h).2 = some (newest h) ∧ .established (newest h) ∉ h := by
  induction h with
  | nil => cases hstate
  | cons d h ih =>
      cases turn d h with
      | kept hface hnewest hd =>
          rw [hface] at hstate
          obtain ⟨hheld, hnot⟩ := ih hc.2.2 hstate
          rw [hface, hnewest, List.mem_cons, not_or]
          exact ⟨hheld, (hd _).symm, hnot⟩
      | @began e =>
          refine ⟨rfl, fun hmem => ?_⟩
          have hold : .established e ∈ h := (List.mem_cons.mp hmem).resolve_left (by simp)
          have hle : e ≤ newest h := hc.2.2.established_le hold
          obtain ⟨hnew, -⟩ := hc.2.1
          omega
      | established => cases hstate
      | ended hface => simp [hface] at hstate
      | dismissed hface => simp [hface] at hstate

/-- While the transport is open, the newest conduit is established. -/
lemma Chronicle.opened (hc : Chronicle h) (hstate : (face h).1 = .opened) :
    .established (newest h) ∈ h := by
  induction h with
  | nil => cases hstate
  | cons d h ih =>
      cases turn d h with
      | kept hface hnewest =>
          rw [hface] at hstate
          rw [hnewest]
          exact .tail _ (ih hc.2.2 hstate)
      | began => cases hstate
      | @established e =>
          obtain rfl : e = newest h := hc.2.1
          exact .head _
      | ended hface => simp [hface] at hstate
      | dismissed hface => simp [hface] at hstate

/-! ### The heralds -/

/-- A `Connect` is fired for an established conduit, and for each of them after it was established, in the
open state. -/
structure Heralded (h : List Deed) : Prop where
  earned : ∀ e state, .fired e .connect state ∈ h → .established e ∈ h
  told : ∀ newer e older, h = newer ++ .established e :: older → .fired e .connect .opened ∈ newer

/-- An entry that neither establishes a conduit nor is a `Connect`. -/
def Deed.isPlain : Deed → Bool
  | .established _ | .fired _ .connect _ => false
  | _ => true

namespace Heralded

lemma nil : Heralded [] where
  earned _ _ hmem := by simp at hmem
  told _ _ _ heq := by simp at heq

lemma plain (hh : Heralded h) (hd : d.isPlain) : Heralded (d :: h) where
  earned e state hmem := by
    refine .tail _ (hh.earned e state ((List.mem_cons.mp hmem).resolve_left ?_))
    rintro rfl
    cases hd
  told newer e older heq := by
    rcases List.cons_eq_append_iff.mp heq with ⟨rfl, hcons⟩ | ⟨newer', rfl, rfl⟩
    · obtain ⟨rfl, -⟩ := List.cons_eq_cons.mp hcons
      cases hd
    · exact .tail _ (hh.told newer' e older rfl)

/-- A conduit is established, and a `Connect` is fired. -/
lemma herald (hh : Heralded h) (e : Nat) :
    Heralded (.fired e .connect .opened :: .established e :: h) where
  earned e' state hmem := by
    simp only [List.mem_cons, reduceCtorEq, false_or, Deed.fired.injEq] at hmem ⊢
    rcases hmem with ⟨rfl, -⟩ | hmem
    · exact .inl rfl
    · exact .inr (hh.earned e' state hmem)
  told newer e' older heq := by
    rcases List.cons_eq_append_iff.mp heq with ⟨rfl, hcons⟩ | ⟨newer', rfl, heq'⟩
    · cases hcons
    · rcases List.cons_eq_append_iff.mp heq' with ⟨rfl, hcons⟩ | ⟨newer'', rfl, rfl⟩
      · cases hcons
        exact .head _
      · exact .tail _ (.tail _ (hh.told newer'' e' older rfl))

end Heralded

lemma heralded_keeps : Keeps fun s => Heralded s.history := by
  refine .of_history fun {d h} hd hh => hh.plain ?_
  cases d <;> first | rfl | cases hd

namespace Heralded

lemma finish (hh : Heralded s.history) (e : Nat) : Heralded (s.finish e).history := by
  have hended : Heralded (.ended e :: s.history) := hh.plain rfl
  exact heralded_keeps.finish_history hended (hended.plain rfl)

lemma fail (hh : Heralded s.history) (e : Nat) (reason : String) :
    Heralded ((s.fire e (.error reason)).finish e).history := by
  have htold : Heralded (s.fire e (.error reason)).history :=
    heralded_keeps.fire hh fun _ => hh.plain rfl
  exact htold.finish e

/-- Whatever the task of a conduit finds ready, and whoever calls. -/
lemma move (hh : Heralded s.history) (m : Move) : Heralded (s.move m).history := by
  have hstep := step s m
  generalize s.move m = t at hstep ⊢
  cases hstep with
  | rest => exact hh
  | called call => exact heralded_keeps.perform hh call
  | @refused c _ reason => exact hh.fail c.epoch reason
  | @givenUp c => exact hh.finish c.epoch
  | @opened c _ _ _ he => exact heralded_keeps.fired (by exact he) (hh.herald c.epoch)
  | wrote => exact hh.plain rfl
  | @broke c _ _ reason => exact Heralded.fail (s := s.modify c.epoch _) hh c.epoch reason
  | @closed c => exact Heralded.finish (s := s.note (.closing c.epoch)) (hh.plain rfl) c.epoch
  | brought => exact heralded_keeps.fire hh fun _ => hh.plain rfl
  | @hungUp c => exact hh.finish c.epoch
  | @failed c reason => exact hh.fail c.epoch reason

lemma run (hh : Heralded s.history) (moves : List Move) : Heralded (s.run moves).history := by
  induction moves generalizing s with
  | nil => exact hh
  | cons m moves ih => exact ih (hh.move m)

end Heralded

/-! ### The remainder -/

lemma mem_events {event : TransportEvent} :
    event ∈ events e h ↔ ∃ state, .fired e event state ∈ h := by
  rw [events, List.mem_reverse, List.mem_filterMap]
  constructor
  · rintro ⟨d, hd, hevent⟩
    cases d with
    | fired e' event' state =>
        rw [Deed.event?] at hevent
        split at hevent
        · cases hevent
          subst e'
          exact ⟨state, hd⟩
        · cases hevent
    | _ => cases hevent
  · rintro ⟨state, hd⟩
    exact ⟨_, hd, if_pos rfl⟩

/-- What is left of the end of a conduit is part of an end. -/
lemma Ending.suffix (hlast : Ending last) (hpart : evs ++ evs' <+: last) :
    ∃ rest, Ending rest ∧ evs' <+: rest := by
  cases evs with
  | nil => exact ⟨last, hlast, hpart⟩
  | cons x evs =>
      -- nothing but the `Disconnect` is left
      refine ⟨[.disconnect], .plain, ?_⟩
      cases hlast with
      | plain =>
          have hnil := List.prefix_nil.mp (List.cons_prefix_cons.mp hpart).2
          rw [(List.append_eq_nil_iff.mp hnil).2]
          exact List.nil_prefix
      | fault reason =>
          have hrest : evs ++ evs' <+: [.disconnect] := (List.cons_prefix_cons.mp hpart).2
          cases evs with
          | nil => exact hrest
          | cons y evs =>
              have hnil := List.prefix_nil.mp (List.cons_prefix_cons.mp hrest).2
              rw [(List.append_eq_nil_iff.mp hnil).2]
              exact List.nil_prefix

/-- A conduit that never opened has told a part of its end. -/
lemma IsPartial.ending (hevs : IsPartial evs) (hconnect : .connect ∉ evs) :
    ∃ last, Ending last ∧ evs <+: last := by
  obtain ⟨report, hreport, hpart⟩ := hevs
  cases hreport with
  | refused hlast => exact ⟨report, hlast, hpart⟩
  | opened bodies hlast =>
      cases evs with
      | nil => exact ⟨_, hlast, List.nil_prefix⟩
      | cons x evs =>
          obtain ⟨rfl, -⟩ := List.cons_prefix_cons.mp hpart
          exact absurd (.head _) hconnect

/-- What a conduit still tells that has never opened is part of an end. -/
lemma Chronicle.remainder {newer older : List Deed} (hc : Chronicle (newer ++ d :: older))
    (hd : d.event? e = none) (hconnect : .connect ∉ events e (newer ++ d :: older)) :
    ∃ last, Ending last ∧ events e newer <+: last := by
  obtain ⟨last, hlast, hpart⟩ := (hc.isPartial e).ending hconnect
  have hevents : events e (newer ++ d :: older) = events e older ++ events e newer := by
    simp [events_append, events_cons, hd]
  rw [hevents] at hpart
  exact hlast.suffix hpart

/-! ### The result -/

/-- **A disconnect ends a handshake exactly if its success is not taken.** In every run, whatever the
handlers call and whatever the tasks find ready in whatever order, a disconnect in the connecting state lets
go of the queue of the newest conduit and leaves the transport closing. The success of the handshake is not
taken after that if and only if

* no `Connect` is fired for the conduit any more,
* the state is not open again before another conduit is opened,
* and all that the conduit still tells is a part of its end.
-/
theorem abandoned_iff (url : String) (handlers : Handlers Handler) (moves : List Move) :
    let s := run { url, handlers } moves
    ∀ newer older, s.history = newer ++ .called .disconnect .connecting :: older →
      (face older).2 = some (newest older) ∧
      face (.called .disconnect .connecting :: older) = (.closing, none) ∧
      (.established (newest older) ∉ newer ↔
        (∀ state, .fired (newest older) .connect state ∉ newer) ∧
        (∀ later earlier, newer = later ++ earlier →
          newest (earlier ++ .called .disconnect .connecting :: older) = newest older →
            (face (earlier ++ .called .disconnect .connecting :: older)).1 ≠ .opened) ∧
        ∃ last, Ending last ∧ events (newest older) newer <+: last) := by
  intro s newer older hh
  have hc : Chronicle s.history := ((sound_new url handlers).run moves).chronicle
  have hheralded : Heralded s.history := Heralded.run (s := { url, handlers }) .nil moves
  rw [hh] at hc hheralded
  have hcalled : Chronicle (.called .disconnect .connecting :: older) := hc.suffix
  obtain ⟨hheld, hbefore⟩ := hcalled.2.2.connecting hcalled.2.1.symm
  have hafter : ∀ {earlier : List Deed},
      .established (newest older) ∈ earlier ++ .called .disconnect .connecting :: older →
        .established (newest older) ∈ earlier := by
    intro earlier hmem
    simpa [hbefore] using hmem
  refine ⟨hheld, if_pos (by simp [hheld]), ?_, ?_⟩
  · intro hnot
    have hnever : ∀ state, .fired (newest older) .connect state ∉
        newer ++ .called .disconnect .connecting :: older := by
      intro state hmem
      exact hnot (hafter (hheralded.earned _ state hmem))
    refine ⟨?_, ?_, ?_⟩
    · intro state hmem
      exact hnever state (List.mem_append_left _ hmem)
    · rintro later earlier rfl hsame hopen
      rw [List.append_assoc] at hc
      have hopened := hc.suffix.opened hopen
      rw [hsame] at hopened
      exact hnot (List.mem_append_right _ (hafter hopened))
    · refine hc.remainder rfl fun hmem => ?_
      obtain ⟨state, hfired⟩ := mem_events.mp hmem
      exact hnever state hfired
  · rintro ⟨hconnect, -⟩ hmem
    obtain ⟨later, earlier, rfl⟩ := List.append_of_mem hmem
    rw [List.append_assoc, List.cons_append] at hheralded
    have htold : .fired (newest older) .connect .opened ∈ later := hheralded.told _ _ _ rfl
    exact hconnect .opened (List.mem_append_left _ htold)

/-- A handshake that is given up: the conduit only reports its end. -/
theorem abandoned_on_request :
    let s := run { url := "" } [.call .connect, .call .disconnect, .abandon 1]
    s.history = [.fired 1 .disconnect .idle, .ended 1] ++
        .called .disconnect .connecting :: [.began 1, .called .connect .idle] ∧
      ∃ last, Ending last ∧ events 1 [.fired 1 .disconnect .idle, .ended 1] <+: last := by
  intro s
  have hh : s.history = [.fired 1 .disconnect .idle, .ended 1] ++
      .called .disconnect .connecting :: [.began 1, .called .connect .idle] := rfl
  obtain ⟨-, -, hiff⟩ := abandoned_iff "" {} [.call .connect, .call .disconnect, .abandon 1] _ _ hh
  exact ⟨hh, (hiff.mp (by simp)).2.2⟩

/-- The success of a handshake that is taken after the request to close: the conduit opens, and a `Connect`
is fired for it. -/
theorem opened_after_disconnect :
    let s := run { url := "" } [.call .connect, .call .disconnect, .handshake 1 (.ok ())]
    s.history = [.fired 1 .connect .opened, .established 1] ++
        .called .disconnect .connecting :: [.began 1, .called .connect .idle] ∧
      s.state = .opened ∧ s.outbound = none := by
  refine ⟨?_, ?_, ?_⟩
  · rfl
  · rfl
  · rfl

end ResilientChannel.Socket
