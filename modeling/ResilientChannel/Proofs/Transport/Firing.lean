import ResilientChannel.Proofs.Polling.Count
import ResilientChannel.Proofs.Polling.Silence
import ResilientChannel.Proofs.Socket.Abandonment

/-!
The state in which a `Connect` or a `Disconnect` is fired.

A handler that is told of a `Connect` should find the transport open, so that a frame it sends is taken,
and one that is told of a `Disconnect` should find it idle, so that a connect it makes is not ignored.

* **The socket.** A `Connect` is fired right after its conduit was established, a `Disconnect` right after
  its conduit has ended (`Prompt`), and that settles the state. Whose queue is held in the open state
  depends on whether a disconnect was called since the conduit was opened (`held_iff`).
* **Long polling.** The transport is in step (`InStep`): every `Disconnect` was fired in the idle state, and
  so was the very first `Connect`, before its GET is counted. Whatever calls do, no other `Connect` comes
  from them (`InStep.steps`); one comes from the first answer of a run of polls, and its state is open
  unless the count has lost sight of that GET (`Overlooks`).
* `events_in_step` is the result for both transports.
-/

namespace ResilientChannel

/-! ### The socket -/

namespace Socket

open Transport

variable {s : Socket} {e : Nat} {d : Deed} {h newer older : List Deed} {state : ConnectionState}

/-- What a `Connect` or a `Disconnect` is fired for: its conduit was established, or has ended. -/
def Deed.cause? : Deed → Option Deed
  | .fired e .connect _ => some (.established e)
  | .fired e .disconnect _ => some (.ended e)
  | _ => none

/-- Every `Connect` and every `Disconnect` was fired right after its cause. -/
def Prompt : List Deed → Prop
  | [] => True
  | d :: older => (∀ c ∈ d.cause?, older.head? = some c) ∧ Prompt older

namespace Prompt

lemma cause (hp : Prompt (newer ++ d :: older)) : ∀ c ∈ d.cause?, older.head? = some c := by
  induction newer with
  | nil => exact hp.1
  | cons _ newer ih => exact ih hp.2

/-- An entry without a cause. -/
lemma plain (hp : Prompt h) (hd : d.cause? = none) : Prompt (d :: h) := ⟨by simp [hd], hp⟩

end Prompt

lemma prompt_keeps : Keeps fun s => Prompt s.history := by
  refine .of_history fun {d h} hd hp => hp.plain ?_
  cases d <;> first | rfl | cases hd

namespace Prompt

lemma finish (hp : Prompt s.history) (e : Nat) : Prompt (s.finish e).history := by
  have hended : Prompt (.ended e :: s.history) := hp.plain rfl
  exact prompt_keeps.finish_history hended ⟨by simp [Deed.cause?], hended⟩

lemma fail (hp : Prompt s.history) (e : Nat) (reason : String) :
    Prompt ((s.fire e (.error reason)).finish e).history := by
  have htold : Prompt (s.fire e (.error reason)).history :=
    prompt_keeps.fire hp fun _ => hp.plain rfl
  exact htold.finish e

/-- Whatever the task of a conduit finds ready, and whoever calls. -/
lemma move (hp : Prompt s.history) (m : Move) : Prompt (s.move m).history := by
  have hstep := step s m
  generalize s.move m = t at hstep ⊢
  cases hstep with
  | rest => exact hp
  | called call => exact prompt_keeps.perform hp call
  | @refused c _ reason => exact hp.fail c.epoch reason
  | @givenUp c => exact hp.finish c.epoch
  | @opened c _ _ _ he =>
      have hopened : Prompt (.established c.epoch :: s.history) := hp.plain rfl
      exact prompt_keeps.fired (by exact he) ⟨by simp [Deed.cause?, note, modify], hopened⟩
  | wrote => exact hp.plain rfl
  | @broke c _ _ reason => exact Prompt.fail (s := s.modify c.epoch _) hp c.epoch reason
  | @closed c => exact Prompt.finish (s := s.note (.closing c.epoch)) (hp.plain rfl) c.epoch
  | brought => exact prompt_keeps.fire hp fun _ => hp.plain rfl
  | @hungUp c => exact hp.finish c.epoch
  | @failed c reason => exact hp.fail c.epoch reason

lemma run (hp : Prompt s.history) (moves : List Move) : Prompt (s.run moves).history := by
  induction moves generalizing s with
  | nil => exact hp
  | cons m moves ih => exact ih (hp.move m)

end Prompt

/-- A conduit was opened, and no disconnect was called since. -/
def wanted : List Deed → Bool
  | [] => false
  | .began _ :: _ => true
  | .called .disconnect _ :: _ => false
  | _ :: older => wanted older

/-- As long as the newest conduit has not ended, its queue is held until a disconnect is called. -/
lemma held_iff (hlasting : .ended (newest h) ∉ h) :
    (face h).2 = some (newest h) ↔ wanted h = true := by
  induction h with
  | nil => simp [face, wanted]
  | cons d h ih =>
      cases d with
      | began e => simp [face, newest, wanted]
      | ended e =>
          have hne : newest h ≠ e := fun he => hlasting (by simp [newest, he])
          simp only [newest, face, if_neg hne, wanted]
          exact ih fun hmem => hlasting (.tail _ hmem)
      | called call state =>
          have hrest := ih fun hmem => hlasting (.tail _ hmem)
          cases call with
          | disconnect =>
              simp only [face, wanted]
              split
              next => simp
              next hfree => simp_all
          | _ => simpa [face, newest, wanted] using hrest
      | _ => exact ih fun hmem => hlasting (.tail _ hmem)

lemma Chronicle.newest_le_append (hc : Chronicle (newer ++ h)) : newest h ≤ newest (newer ++ h) := by
  induction newer with
  | nil => exact Nat.le_refl _
  | cons d newer ih => exact Nat.le_trans (ih hc.2.2) hc.newest_le

/-- A conduit that fires a `Connect` has not ended. -/
lemma Sound.not_ended (hs : Sound none s)
    (hh : s.history = newer ++ .fired e .connect state :: older) : .ended e ∉ older := by
  intro hmem
  obtain ⟨later, before, rfl⟩ := List.append_of_mem hmem
  have hc : Chronicle (.fired e .connect state :: (later ++ .ended e :: before)) :=
    Chronicle.suffix (hh ▸ hs.chronicle)
  have hnewest : newest before = e := by
    have hended : Chronicle (.ended e :: before) := hc.2.2.suffix
    have hle : newest before ≤ newest (later ++ .ended e :: before) :=
      hc.2.2.newest_le_append (h := .ended e :: before)
    exact Nat.le_antisymm (by rw [← hc.2.1.1] at hle; exact hle) hended.2.1.2.1
  -- its end was told at once, and nothing after it
  have hh' : s.history = (newer ++ .fired e .connect state :: later) ++ .ended e :: before := by
    simp [hh]
  obtain ⟨rest, hrest, hnone, -⟩ := hs.ended hh' hnewest
  have hfired : .fired e .connect state ∈ rest := by
    have hmem : .fired e .connect state ∈ rest ++ [.fired e .disconnect .idle] := by
      simp [← hrest]
    simpa using hmem
  have hevent : .connect ∈ events e rest := mem_events.mpr ⟨state, hfired⟩
  simp [hnone] at hevent

/-- A `Connect` is fired in the open state, and the queue is held unless a disconnect was called. -/
lemma Sound.fired_connect (hs : Sound none s) (hp : Prompt s.history)
    (hh : s.history = newer ++ .fired e .connect state :: older) :
    state = .opened ∧ ((face older).2 = some e ↔ wanted older) := by
  have hlasting := hs.not_ended hh
  have hc : Chronicle (.fired e .connect state :: older) := Chronicle.suffix (hh ▸ hs.chronicle)
  obtain ⟨hnewest, hstate, -⟩ := hc.2.1
  rw [hh] at hp
  obtain ⟨before, hbefore⟩ := List.head?_eq_some_iff.mp (hp.cause (.established e) rfl)
  refine ⟨by rw [hstate, hbefore, face], ?_⟩
  rw [hnewest] at hlasting ⊢
  exact held_iff hlasting

/-- A `Disconnect` is fired in the idle state. -/
lemma Sound.fired_disconnect (hs : Sound none s) (hp : Prompt s.history)
    (hh : s.history = newer ++ .fired e .disconnect state :: older) : state = .idle := by
  have hc : Chronicle (.fired e .disconnect state :: older) := Chronicle.suffix (hh ▸ hs.chronicle)
  obtain ⟨hnewest, hstate, -⟩ := hc.2.1
  rw [hh] at hp
  obtain ⟨before, rfl⟩ := List.head?_eq_some_iff.mp (hp.cause (.ended e) rfl)
  have hface : face (.ended e :: before) = (.idle, none) := if_pos hnewest.symm
  rw [hstate, hface]

end Socket

/-! ### Long polling -/

namespace Polling

open Transport

variable {p q : Polling} {d : Deed} {h : List Deed} {depth : Nat} {get : Get} {body : String}
  {rest : List ConnectionState} {outcome : Except RequestFault String}

/-- The state in which a `Connect` was fired. -/
def Deed.greeting? : Deed → Option ConnectionState
  | .fired .connect state => some state
  | _ => none

/-- The states in which a `Connect` was fired, in order. -/
def greetings (h : List Deed) : List ConnectionState := (h.filterMap Deed.greeting?).reverse

lemma greetings_cons (d : Deed) (h : List Deed) :
    greetings (d :: h) = greetings h ++ d.greeting?.toList := by
  cases hd : d.greeting? <;> simp [greetings, hd]

/-- Every `Disconnect` was fired in the idle state, and so was the very first `Connect`; `rest` are the
states of the later ones. -/
structure InStep (rest : List ConnectionState) (p : Polling) : Prop where
  greeted : greetings p.history = if p.first then [] else .idle :: rest
  later : p.first → rest = []
  parted : ∀ state, .fired .disconnect state ∈ p.history → state = .idle

@[simp] lemma note_first (p : Polling) (d : Deed) : (p.note d).first = p.first := rfl

lemma state_eq_idle : p.state = .idle ↔ p.outstanding = 0 := by
  rw [state]
  split
  next hpos => simp [Nat.ne_of_gt hpos]
  next hnone => simpa using hnone

/-- Only the last GET that is counted is released with nothing left. -/
lemma outstanding_of_release {σ : Nat} (h : (p.release σ).1 = some 0) :
    (p.release σ).2.outstanding = 0 := by
  rw [release] at h ⊢
  split at h <;> simp_all

namespace InStep

/-- An entry that is neither event. -/
lemma note (hp : InStep rest p) (hgreeting : d.greeting? = none)
    (hd : ∀ state, d ≠ .fired .disconnect state) : InStep rest (p.note d) where
  greeted := by
    rw [note_history, greetings_cons, hgreeting, Option.toList_none, List.append_nil]
    exact hp.greeted
  later := hp.later
  parted state hmem := hp.parted state ((List.mem_cons.mp hmem).resolve_left (hd state).symm)

lemma noteDisconnect (hp : InStep rest p) (hnone : p.outstanding = 0) :
    InStep rest (p.note (.fired .disconnect p.state)) where
  greeted := by
    rw [note_history, greetings_cons]
    exact (List.append_nil _).trans hp.greeted
  later := hp.later
  parted state hmem := by
    rcases List.mem_cons.mp hmem with heq | hmem
    · cases heq
      exact state_eq_idle.mpr hnone
    · exact hp.parted state hmem

/-- A `Connect` after the first. -/
lemma noteConnect (hp : InStep rest p) (hlater : p.first = false) :
    InStep (rest ++ [p.state]) (p.note (.fired .connect p.state)) where
  greeted := by
    have hgreeted := hp.greeted
    rw [note_history, greetings_cons, hgreeted]
    simp [hlater, Deed.greeting?]
  later := by simp [hlater]
  parted state hmem := hp.parted state ((List.mem_cons.mp hmem).resolve_left (by simp))

/-- The very first `Connect`. -/
lemma begun (hp : InStep rest p) (hidle : p.state.isOpen = false) : InStep rest p.begun := by
  have hstate : p.state = .idle := by
    rw [state] at hidle ⊢
    split <;> simp_all [ConnectionState.isOpen]
  cases hfirst : p.first with
  | true =>
      obtain rfl := hp.later hfirst
      have hgreeted := hp.greeted
      rw [hfirst, if_pos rfl] at hgreeted
      rw [Polling.begun, if_pos hfirst]
      refine ⟨?_, by simp, fun state hmem => ?_⟩
      · rw [note_history, greetings_cons, hgreeted]
        exact congrArg (fun state => [state]) hstate
      · exact hp.parted state ((List.mem_cons.mp hmem).resolve_left (by simp))
  | false =>
      have hgreeted := hp.greeted
      rw [hfirst] at hgreeted
      rw [Polling.begun, if_neg (by simp [hfirst])]
      exact ⟨hgreeted, by simp, hp.parted⟩

lemma arm (hp : InStep rest p) : InStep rest p.arm := by
  have harmed : InStep rest { p with
      outstanding := p.outstanding + 1
      inFlight := p.inFlight ++ [{ id := p.started, session := p.session }]
      started := p.started + 1 } := ⟨hp.greeted, hp.later, hp.parted⟩
  exact harmed.note rfl nofun

lemma tornDown (hp : InStep rest p) : InStep rest p.tornDown := by
  have htorn : InStep rest { p with session := p.session + 1, inFlight := [], outstanding := 0 } :=
    ⟨hp.greeted, hp.later, hp.parted⟩
  simp only [Polling.tornDown]
  split
  · exact htorn.noteDisconnect rfl
  · exact htorn

lemma step (hp : InStep rest p) (hstep : Step p q) : InStep rest q := by
  cases hstep with
  | @note d htalk =>
      refine hp.note ?_ ?_
      · cases d <;> first | rfl | cases htalk
      · rintro state rfl
        cases htalk
  | register => exact ⟨hp.greeted, hp.later, hp.parted⟩
  | begin hidle => exact hp.begun hidle
  | arm => exact hp.arm
  | tearDown => exact hp.tornDown

/-- Calls fire no `Connect` but the very first. -/
lemma steps (hp : InStep rest p) (hsteps : Steps p q) : InStep rest q := by
  induction hsteps with
  | refl => exact hp
  | tail _ hstep ih => exact ih.step hstep

/-- Once the event is noted, the rest is its handler's. -/
lemma fire {event : TransportEvent} (hp : InStep rest (p.note (.fired event p.state))) :
    InStep rest (p.fire (enter depth) event) :=
  hp.steps (fire_steps (enter_steps depth) event p)

lemma release (hp : InStep rest p) (σ : Nat) : InStep rest (p.release σ).2 := by
  rw [Polling.release]
  split
  · exact hp
  · exact ⟨hp.greeted, hp.later, hp.parted⟩

lemma conclude (hp : InStep rest p) {remaining : Option Nat}
    (hnone : remaining = some 0 → p.outstanding = 0) :
    InStep rest (p.conclude (enter depth) outcome remaining) := by
  simp only [Polling.conclude]
  split
  · split
    · exact hp.arm
    · exact hp
  · split
    next hlast => exact fire (hp.noteDisconnect (hnone hlast))
    next => exact hp

end InStep

/-! ### The end of a GET -/

/-- The answer of a GET is the first of its run of polls, and the GET is not counted. -/
def Overlooks (get : Get) (p : Polling) : Prop :=
  get ∈ p.inFlight ∧ get.session = p.session ∧ p.announced = false ∧ p.outstanding = 0

/-- No first answer of a run of polls is overlooked in a run. -/
def Counted (depth : Nat) (p : Polling) : List Move → Prop
  | [] => True
  | m :: moves =>
    (∀ get body, m = .complete get (.ok body) → ¬ Overlooks get p) ∧ Counted depth (p.move depth m) moves

lemma InStep.finished (hp : InStep rest p) (get : Get) (outcome : Except RequestFault String) :
    InStep rest (p.finished get outcome) := by
  have hless : InStep rest { p with inFlight := p.inFlight.erase get } :=
    ⟨hp.greeted, hp.later, hp.parted⟩
  exact hless.note rfl nofun

/-- The first answer of a run of polls is announced in the state that the count shows. -/
lemma InStep.told (hp : InStep rest p) (hlater : p.first = false) (depth : Nat) (get : Get)
    (outcome : Except RequestFault String) :
    InStep (rest ++ if p.announced = false ∧ outcome.isOk then [p.state] else [])
      (p.told (enter depth) get outcome) := by
  have hfinished := hp.finished get outcome
  cases outcome with
  | error fault =>
      rw [if_neg (by simp [Except.isOk, Except.toBool]), List.append_nil]
      exact InStep.fire (hfinished.note rfl nofun)
  | ok body =>
      cases hannounced : p.announced with
      | true =>
          rw [told_of_announced hannounced, if_neg (by simp), List.append_nil]
          exact InStep.fire (hfinished.note rfl nofun)
      | false =>
          have hannouncing : InStep rest { p.finished get (.ok body) with announced := true } :=
            ⟨hfinished.greeted, hfinished.later, hfinished.parted⟩
          have hgreeted : InStep (rest ++ [p.state]) (p.greeted (enter depth) get body) :=
            InStep.fire (hannouncing.noteConnect hlater)
          rw [told_of_not_announced hannounced, if_pos ⟨rfl, rfl⟩]
          exact InStep.fire (hgreeted.note rfl nofun)

/-- The end of a GET adds at most one `Connect`, fired in the open state unless the GET is overlooked. -/
lemma InStep.complete (hp : InStep rest p) (hlater : get ∈ p.inFlight → p.first = false) (depth : Nat)
    (outcome : Except RequestFault String) :
    ∃ new, InStep (rest ++ new) (p.complete (enter depth) get outcome) ∧
      ((∀ state ∈ new, state = .opened) ↔ ∀ body, outcome = .ok body → ¬ Overlooks get p) := by
  by_cases hget : get ∈ p.inFlight
  · by_cases hsession : get.session = p.session
    · have htold := hp.told (hlater hget) depth get outcome
      rw [complete_of_mem hget hsession]
      refine ⟨_, (htold.release get.session).conclude outstanding_of_release, ?_⟩
      cases outcome with
      | error fault => simp [Except.isOk, Except.toBool]
      | ok body =>
          have hcounted : p.state = .opened ↔ p.outstanding ≠ 0 :=
            state_eq_opened.trans Nat.pos_iff_ne_zero
          cases hannounced : p.announced <;>
            simp [Overlooks, hget, hsession, hannounced, hcounted, Except.isOk, Except.toBool]
    · rw [complete_of_other_session hget hsession]
      exact ⟨[], by simpa using hp.finished get outcome, by simp [Overlooks, hsession]⟩
  · rw [complete_of_not_mem hget]
    exact ⟨[], by simpa using hp, by simp [Overlooks, hget]⟩

/-! ### Runs -/

/-- Calls do not undo the first connect. -/
lemma Step.first_eq_false (hstep : Step p q) (hlater : p.first = false) : q.first = false := by
  cases hstep with
  | note | register | arm => exact hlater
  | begin =>
      rw [begun]
      split <;> rfl
  | tearDown =>
      rw [tornDown]
      split <;> exact hlater

lemma Steps.first_eq_false (hsteps : Steps p q) (hlater : p.first = false) : q.first = false := by
  induction hsteps with
  | refl => exact hlater
  | tail _ hstep ih => exact hstep.first_eq_false ih

mutual

/-- A call makes the first connect, or leaves the transport as new. -/
lemma Fresh.perform {p : Polling} (hp : Fresh p) (depth : Nat) :
    ∀ call : Call, Fresh (p.perform (enter depth) call).1 ∨
      (p.perform (enter depth) call).1.first = false
  | .connect => by
      simp only [Polling.perform]
      rw [hp.connect_eq]
      have hfired := fire_steps (enter_steps depth) .connect
        { p.note (.called .connect) with first := false, announced := true }
      exact .inr (hfired.first_eq_false rfl)
  | .disconnect => by
      simp only [Polling.perform]
      exact .inl (hp.disconnect _)
  | .send message => by
      simp only [Polling.perform]
      exact .inl (hp.send message)
  | .state | .url | .peer _ => by
      simp only [Polling.perform]
      exact .inl hp
  | .on .. => by
      simp only [Polling.perform]
      exact .inl ⟨hp.first, hp.idle, hp.silent, hp.awake⟩
  | .batch calls => by
      simp only [Polling.perform]
      exact hp.performAll depth calls

lemma Fresh.performAll {p : Polling} (hp : Fresh p) (depth : Nat) :
    ∀ calls : List Call, Fresh (p.performAll (enter depth) calls).1 ∨
      (p.performAll (enter depth) calls).1.first = false
  | [] => by
      simp only [Polling.performAll]
      exact .inl hp
  | c :: cs => by
      simp only [Polling.performAll]
      rcases hp.perform depth c with hfresh | hlater
      · exact hfresh.performAll depth cs
      · exact .inr ((performAll_steps (enter_steps depth) _ cs).first_eq_false hlater)

end

/-- A move makes the first connect, or leaves the transport as new: no GET is in flight that could end. -/
lemma Fresh.move (hp : Fresh p) (depth : Nat) (m : Move) :
    Fresh (p.move depth m) ∨ (p.move depth m).first = false := by
  cases m with
  | call call => exact hp.perform depth call
  | complete get outcome =>
      have hnone : get ∉ p.inFlight := by simp [hp.idle.2]
      rw [Polling.move, complete_of_not_mem hnone]
      exact .inl hp

/-- A move adds at most one `Connect` to the first, fired in the open state unless its GET is
overlooked. -/
lemma InStep.move (hp : InStep rest p) (hready : Fresh p ∨ p.first = false) (depth : Nat) (m : Move) :
    ∃ new, InStep (rest ++ new) (p.move depth m) ∧
      ((∀ state ∈ new, state = .opened) ↔
        ∀ get body, m = .complete get (.ok body) → ¬ Overlooks get p) := by
  cases m with
  | call call =>
      refine ⟨[], ?_, by simp⟩
      rw [List.append_nil]
      exact hp.steps (perform_steps (enter_steps depth) p call)
  | complete get outcome =>
      have hlater : get ∈ p.inFlight → p.first = false := fun hget =>
        hready.resolve_left fun hfresh => by simp [hfresh.idle.2] at hget
      obtain ⟨new, hnew, hopened⟩ := hp.complete hlater depth outcome
      refine ⟨new, hnew, hopened.trans ⟨?_, ?_⟩⟩
      · rintro hno get' body heq
        obtain ⟨rfl, rfl⟩ := by simpa using heq
        exact hno body rfl
      · rintro hno body rfl
        exact hno get body rfl

/-- The first `Connect` stays in the history. -/
lemma InStep.first_eq_false {rest' : List ConnectionState} (hq : InStep rest' q) (hp : InStep rest p)
    (hsuffix : p.history <:+ q.history) (hlater : p.first = false) : q.first = false := by
  cases hfirst : q.first with
  | false => rfl
  | true =>
      obtain ⟨new, hnew⟩ := hsuffix
      have hgreeted := hq.greeted
      rw [hfirst, if_pos rfl, ← hnew, greetings, List.filterMap_append, List.reverse_append,
        ← greetings, hp.greeted, hlater] at hgreeted
      simp at hgreeted

/-- A run is in step, and its later `Connect`s are fired in the open state if and only if none of their
GETs is overlooked. -/
lemma InStep.run (hp : InStep rest p) (hready : Fresh p ∨ p.first = false) (depth : Nat)
    (moves : List Move) :
    ∃ new, InStep (rest ++ new) (p.run depth moves) ∧
      ((∀ state ∈ new, state = .opened) ↔ Counted depth p moves) := by
  induction moves generalizing p rest with
  | nil =>
      refine ⟨[], ?_, by simp [Counted]⟩
      rw [List.append_nil]
      exact hp
  | cons m moves ih =>
      obtain ⟨new, hnew, hopened⟩ := hp.move hready depth m
      have hready' : Fresh (p.move depth m) ∨ (p.move depth m).first = false :=
        hready.elim (·.move depth m) fun hlater =>
          .inr (hnew.first_eq_false hp (move_suffix depth p m) hlater)
      obtain ⟨new', hnew', hopened'⟩ := ih hnew hready'
      refine ⟨new ++ new', ?_, ?_⟩
      · rw [← List.append_assoc]
        exact hnew'
      · rw [Counted, ← hopened, ← hopened', List.forall_mem_append]

/-- A GET that is counted is not overlooked, and without a slip every GET is. -/
lemma Balanced.counted {old : List Deed} (hp : Balanced none old p) {moves : List Move}
    (hno : NoSlip depth p moves) : Counted depth p moves := by
  induction moves generalizing p old with
  | nil => trivial
  | cons m moves ih =>
      obtain ⟨hfirst, hrest⟩ := (noSlip_cons p m moves).mp hno
      refine ⟨?_, ih (hp.move hfirst) hrest⟩
      rintro get body - ⟨hget, -, -, hnone⟩
      have hcount := hp.count
      have hpos := List.length_pos_of_mem hget
      simp only [reduceCtorEq, if_false] at hcount
      omega

end Polling

/-! ### The result -/

namespace Transport

/-- **Events and states are in step, but for the first `Connect` of long polling.** In every run, whatever
the server does and whatever the handlers call,

* a socket fires a `Connect` in the open state, and then it holds the queue of the conduit, so that a frame
  sent first thing is taken, if and only if no disconnect was called since the conduit was opened;
* a socket fires a `Disconnect` in the idle state;
* long polling fires a `Disconnect` in the idle state, its first `Connect` in the idle state too, and the
  later ones in the open state if and only if no first answer of a run of polls is overlooked;
* no answer is overlooked unless a GET slips. -/
theorem events_in_step (url : String) (handlers : Handlers Handler) :
    (∀ moves newer e state older,
      (Socket.run { url, handlers } moves).history = newer ++ .fired e .connect state :: older →
        state = .opened ∧ ((Socket.face older).2 = some e ↔ Socket.wanted older)) ∧
    (∀ moves newer e state older,
      (Socket.run { url, handlers } moves).history = newer ++ .fired e .disconnect state :: older →
        state = .idle) ∧
    ∀ depth moves,
      let p : Polling := { url, handlers }
      let h := (p.run depth moves).history
      (∀ state, .fired .disconnect state ∈ h → state = .idle) ∧
      (Polling.greetings h = [] ∨ ∃ rest, Polling.greetings h = .idle :: rest ∧
        ((∀ state ∈ rest, state = .opened) ↔ Polling.Counted depth p moves)) ∧
      (Polling.NoSlip depth p moves → Polling.Counted depth p moves) := by
  have hsound : ∀ moves, Socket.Sound none (Socket.run { url, handlers } moves) :=
    (Socket.sound_new url handlers).run
  have hprompt : ∀ moves, Socket.Prompt (Socket.run { url, handlers } moves).history :=
    Socket.Prompt.run (s := { url, handlers }) trivial
  refine ⟨?_, ?_, ?_⟩
  · intro moves newer e state older hh
    exact (hsound moves).fired_connect (hprompt moves) hh
  · intro moves newer e state older hh
    exact (hsound moves).fired_disconnect (hprompt moves) hh
  · intro depth moves p h
    have hfresh : Polling.Fresh p := ⟨rfl, ⟨rfl, rfl⟩, by simp [Polling.Silent, p], rfl⟩
    have hnew : Polling.InStep [] p := ⟨rfl, fun _ => rfl, by simp [p]⟩
    obtain ⟨rest, hrun, hopened⟩ := hnew.run (.inl hfresh) depth moves
    refine ⟨hrun.parted, ?_, (Polling.balanced_new url handlers).counted⟩
    have hgreeted := hrun.greeted
    cases hfirst : (p.run depth moves).first with
    | true =>
        rw [hfirst] at hgreeted
        exact .inl hgreeted
    | false =>
        rw [hfirst] at hgreeted
        exact .inr ⟨rest, hgreeted, hopened⟩

/-- The first connect of long polling: its handler finds the transport idle, and the frame that it sends is
dropped, though the GET is started right after. And a socket whose handshake succeeds after a disconnect
was called: its handler finds the transport open, and the frame that it sends is dropped. -/
theorem dropped_first_thing :
    (Polling.run 1 { url := "nope" }
        [.call (.on .connect "c" [.state, .send "hi"]), .call .connect]).history =
      [.began { id := 0, session := 0 }, .did (.send "hi") .done, .called (.send "hi"),
        .did .state (.state .idle), .handled "c" .connect, .fired .connect .idle, .called .connect] ∧
    (Socket.run { url := "nope" } [.call (.on .connect "c" [.state, .send "hi"]), .call .connect,
        .call .disconnect, .handshake 1 (.ok ())]).history =
      [.did (.send "hi") .done, .called (.send "hi") .opened, .did .state (.state .opened),
        .handled "c" .connect, .fired 1 .connect .opened, .established 1,
        .called .disconnect .connecting, .began 1, .called .connect .idle] := by
  exact ⟨rfl, rfl⟩

end Transport

end ResilientChannel
