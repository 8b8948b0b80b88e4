import Mathlib.Logic.Basic
import ResilientChannel.Proofs.Polling.Steps

/-!
How far a long-polling transport is silent after a disconnect.

From the `Disconnect` that a call of `disconnect` fires until the next call of `connect` nothing should
be fired and no GET started. That holds throughout a run exactly if no announcement is cut short in it
(`silent_iff_uncut`): the handlers told of a `Connect` may tear the transport down, and whoever told them
goes on regardless. The first connect starts its GET, and a GET that has been answered delivers its
message.

* **The silence.** `hushed` reads off the history whether the transport should be silent, and `Silent`
  says that it was whenever it should have been.
* **The handlers.** `Quiet σ` says that the transport has been silent, and that since its session was `σ`
  it is hushed only after a teardown, with nothing in flight and nothing counted. After the first connect
  every call keeps it, hence so does every handler (`quiet_enter`).
* **The cuts.** A move that is not cut short keeps the transport quiet, and one that is cut short breaks
  the silence (`Begun.move`).
-/

namespace ResilientChannel.Polling

open Transport

variable {p q : Polling} {σ depth : Nat} {entry : Entry} {get : Get} {h h' : List Deed} {d : Deed}
  {outcome : Except RequestFault String} {event : TransportEvent}

/-! ### The silence -/

/-- A disconnect was called. -/
def Deed.isDisconnect : Deed → Bool
  | .called .disconnect => true
  | _ => false

/-- An event was fired, or a GET was started. -/
def Deed.isLoud : Deed → Bool
  | .fired .. | .began _ => true
  | _ => false

/-- A call of `disconnect` has fired its `Disconnect`, and no connect was called since. -/
def hushed : List Deed → Bool
  | [] => false
  | .called .connect :: _ => false
  | .fired .disconnect _ :: older => older.head?.any (·.isDisconnect) || hushed older
  | _ :: older => hushed older

/-- Whatever was fired or started was so when the transport was not hushed. -/
def Silent (h : List Deed) : Prop :=
  ∀ newer d older, h = newer ++ d :: older → d.isLoud → hushed older = false

lemma hushed_cons (hconnect : d ≠ .called .connect) (hdisconnect : ∀ state, d ≠ .fired .disconnect state)
    (h : List Deed) : hushed (d :: h) = hushed h := by
  cases d with
  | called call => cases call <;> simp_all [hushed]
  | fired event state => cases event <;> simp_all [hushed]
  | _ => rfl

lemma silent_cons : Silent (d :: h) ↔ (d.isLoud → hushed h = false) ∧ Silent h := by
  constructor
  · intro hs
    refine ⟨hs [] d h rfl, ?_⟩
    intro newer d' older heq
    exact hs (d :: newer) d' older (by rw [heq, List.cons_append])
  · rintro ⟨hd, hs⟩ newer d' older heq
    cases newer with
    | nil =>
        obtain ⟨rfl, rfl⟩ := List.cons.inj heq
        exact hd
    | cons d'' newer => exact hs newer d' older (List.cons.inj heq).2

lemma Silent.suffix (hs : Silent h') (hsuffix : h <:+ h') : Silent h := by
  obtain ⟨before, rfl⟩ := hsuffix
  intro newer d older heq
  exact hs (before ++ newer) d older (by rw [heq, List.append_assoc])

/-- Something loud in the hush is never made up for. -/
lemma not_silent_of_loud (hd : d.isLoud) (hh : hushed h = true) (hsuffix : d :: h <:+ h') :
    ¬ Silent h' := by
  intro hs
  have hquiet := (silent_cons.mp (hs.suffix hsuffix)).1 hd
  simp [hh] at hquiet

/-! ### The history grows -/

lemma Step.suffix (hstep : Step p q) : p.history <:+ q.history := by
  cases hstep with
  | note => exact List.suffix_cons _ _
  | register => exact List.suffix_rfl
  | begin =>
      rw [begun]
      split
      · exact List.suffix_cons _ _
      · exact List.suffix_rfl
  | arm => exact List.suffix_cons _ _
  | tearDown =>
      rw [tornDown]
      split
      · exact List.suffix_cons _ _
      · exact List.suffix_rfl

lemma Steps.suffix (hsteps : Steps p q) : p.history <:+ q.history := by
  induction hsteps with
  | refl => exact List.suffix_rfl
  | tail _ hstep ih => exact ih.trans hstep.suffix

lemma fire_suffix (depth : Nat) (event : TransportEvent) (p : Polling) :
    .fired event p.state :: p.history <:+ (p.fire (enter depth) event).history :=
  (fire_steps (enter_steps depth) event p).suffix

@[simp] lemma release_history (σ : Nat) (p : Polling) : (p.release σ).2.history = p.history := by
  rw [release]
  split <;> rfl

@[simp] lemma release_session (σ : Nat) (p : Polling) : (p.release σ).2.session = p.session := by
  rw [release]
  split <;> rfl

lemma conclude_suffix (depth : Nat) (outcome : Except RequestFault String) (remaining : Option Nat)
    (p : Polling) : p.history <:+ (p.conclude (enter depth) outcome remaining).history := by
  cases outcome with
  | ok body =>
      rw [conclude]
      split
      · exact List.suffix_cons _ _
      · exact List.suffix_rfl
  | error fault =>
      rw [conclude]
      split
      · exact (List.suffix_cons _ _).trans (fire_suffix depth _ _)
      · exact List.suffix_rfl

/-- A GET has ended, and nobody has been told yet. -/
def finished (get : Get) (outcome : Except RequestFault String) (p : Polling) : Polling :=
  { p with inFlight := p.inFlight.erase get }.note (.ended get outcome)

/-- The handlers are told of a `Connect`, since this is the first answer to the run of polls. -/
def greeted (entry : Entry) (get : Get) (body : String) (p : Polling) : Polling :=
  { p.finished get (.ok body) with announced := true }.fire entry .connect

lemma told_of_announced (hannounced : p.announced) (entry : Entry) (get : Get) (body : String) :
    p.told entry get (.ok body) = (p.finished get (.ok body)).fire entry (.message body) :=
  congrArg (fire entry (.message body)) (if_pos hannounced)

lemma told_of_not_announced (hannounced : p.announced = false) (entry : Entry) (get : Get)
    (body : String) :
    p.told entry get (.ok body) = (p.greeted entry get body).fire entry (.message body) :=
  congrArg (fire entry (.message body)) (if_neg (by simp [note, hannounced]))

lemma complete_of_other_session (hget : get ∈ p.inFlight) (hsession : get.session ≠ p.session) :
    p.complete entry get outcome = p.finished get outcome := by
  rw [complete, if_neg (not_not_intro hget)]
  exact if_pos (Ne.symm hsession)

lemma told_suffix (depth : Nat) (get : Get) (outcome : Except RequestFault String) (p : Polling) :
    p.history <:+ (p.told (enter depth) get outcome).history := by
  have hfire : ∀ (r : Polling) (event : TransportEvent),
      r.history <:+ (r.fire (enter depth) event).history := fun r event =>
    (List.suffix_cons _ _).trans (fire_suffix depth event r)
  have hfinished : p.history <:+ (p.finished get outcome).history := List.suffix_cons _ _
  cases outcome with
  | error fault => exact hfinished.trans (hfire _ _)
  | ok body =>
      cases hannounced : p.announced with
      | true =>
          rw [told_of_announced hannounced]
          exact hfinished.trans (hfire _ _)
      | false =>
          have hgreeted : (p.finished get (.ok body)).history <:+
              (p.greeted (enter depth) get body).history :=
            hfire { p.finished get (.ok body) with announced := true } .connect
          rw [told_of_not_announced hannounced]
          exact (hfinished.trans hgreeted).trans (hfire _ _)

/-- What comes after the telling adds to the history. -/
lemma complete_suffix (depth : Nat) (hget : get ∈ p.inFlight) (hsession : get.session = p.session)
    (outcome : Except RequestFault String) :
    (p.told (enter depth) get outcome).history <:+
      (p.complete (enter depth) get outcome).history := by
  rw [complete_of_mem hget hsession]
  simpa using conclude_suffix depth outcome _ ((p.told (enter depth) get outcome).release _).2

lemma move_suffix (depth : Nat) (p : Polling) (m : Move) :
    p.history <:+ (p.move depth m).history := by
  cases m with
  | call call => exact (perform_steps (enter_steps depth) p call).suffix
  | complete get outcome =>
      rw [move]
      by_cases hget : get ∈ p.inFlight
      · by_cases hsession : get.session = p.session
        · exact (told_suffix depth get outcome p).trans (complete_suffix depth hget hsession outcome)
        · rw [complete_of_other_session hget hsession]
          exact List.suffix_cons _ _
      · exact (complete_of_not_mem hget).symm ▸ List.suffix_rfl

lemma run_suffix (depth : Nat) (p : Polling) (moves : List Move) :
    p.history <:+ (p.run depth moves).history := by
  induction moves generalizing p with
  | nil => exact List.suffix_rfl
  | cons m moves ih => exact (move_suffix depth p m).trans (ih _)

/-! ### The handlers -/

/-- After the first connect: the transport has been silent, and if it is hushed its session has changed
since `σ`, nothing is in flight and nothing is counted. -/
structure Quiet (σ : Nat) (p : Polling) : Prop where
  later : p.first = false
  past : σ ≤ p.session
  silent : Silent p.history
  rest : hushed p.history → σ < p.session ∧ p.inFlight = [] ∧ p.outstanding = 0

/-- Handlers keep the transport quiet. -/
def Entry.IsQuiet (entry : Entry) : Prop :=
  ∀ {σ : Nat} {p : Polling} (handler : Handler), Quiet σ p → Quiet σ (entry handler p)

namespace Quiet

lemma weaken (hp : Quiet σ p) {τ : Nat} (hτ : τ ≤ σ) : Quiet τ p where
  later := hp.later
  past := Nat.le_trans hτ hp.past
  silent := hp.silent
  rest hh := by
    obtain ⟨hlt, hnone⟩ := hp.rest hh
    exact ⟨Nat.lt_of_le_of_lt hτ hlt, hnone⟩

/-- Within its session the transport is not hushed. -/
lemma not_hushed (hp : Quiet σ p) (hsession : p.session = σ) : hushed p.history = false := by
  cases hh : hushed p.history with
  | false => rfl
  | true =>
      have hlt := (hp.rest hh).1
      omega

/-- One more entry, if it does not bring the hush about. -/
lemma note (hp : Quiet σ p) (hloud : d.isLoud → hushed p.history = false)
    (hh : hushed (d :: p.history) → hushed p.history) : Quiet σ (p.note d) where
  later := hp.later
  past := hp.past
  silent := silent_cons.mpr ⟨hloud, hp.silent⟩
  rest hd := hp.rest (hh hd)

/-- An entry that is only talk. -/
lemma talk (hp : Quiet σ p) (hd : d.isTalk) : Quiet σ (p.note d) := by
  refine hp.note ?_ ?_
  · intro hloud
    cases d <;> simp_all [Deed.isTalk, Deed.isLoud]
  · intro hh
    by_cases hconnect : d = .called .connect
    · subst hconnect
      simp [hushed] at hh
    · rwa [hushed_cons hconnect (by rintro state rfl; simp [Deed.isTalk] at hd)] at hh

/-- A GET is started where the transport is not hushed. -/
lemma arm (hp : Quiet σ p) (hh : hushed p.history = false) : Quiet σ p.arm where
  later := hp.later
  past := hp.past
  silent := silent_cons.mpr ⟨fun _ => hh, hp.silent⟩
  rest hd := absurd (hd.symm.trans hh) (by simp)

/-- Once an event is fired, the rest is its handler's. -/
lemma entered (hentry : entry.IsQuiet) (hp : Quiet σ (p.note (.fired event p.state))) :
    Quiet σ (p.fire entry event) := by
  rw [Polling.fire]
  split
  · exact hp
  · exact hentry _ (hp.talk rfl)

/-- An event is fired where the transport is not hushed, and not by a disconnect. -/
lemma fire (hp : Quiet σ p) (hentry : entry.IsQuiet) (hh : hushed p.history = false)
    (hdisconnect : event = .disconnect → p.history.head?.any (·.isDisconnect) = false) :
    Quiet σ (p.fire entry event) := by
  refine entered hentry (hp.note (fun _ => hh) ?_)
  intro hfired
  by_cases hevent : event = .disconnect
  · subst hevent
    simp [hushed, hdisconnect rfl, hh] at hfired
  · rwa [hushed_cons (by simp) (by simp [hevent])] at hfired

/-- With the first connect behind it, a connect fires nothing. -/
lemma connect (hp : Quiet σ p) (entry : Entry) : Quiet σ (p.connect entry) := by
  have hcalled : Quiet σ (p.note (.called .connect)) := hp.talk rfl
  rw [Polling.connect]
  dsimp only
  split
  · exact hcalled
  · have hlater : (p.note (.called .connect)).first = false := hp.later
    have hbegun : Quiet σ { p.note (.called .connect) with first := false, announced := false } :=
      ⟨rfl, hcalled.past, hcalled.silent, hcalled.rest⟩
    rw [hlater]
    exact hbegun.arm rfl

/-- A disconnect that has something to report begins the hush, with nothing left in flight. -/
lemma disconnect (hp : Quiet σ p) (hentry : entry.IsQuiet) : Quiet σ (p.disconnect entry) := by
  have hcalled : Quiet σ (p.note (.called .disconnect)) := hp.talk rfl
  have hlt : σ < p.session + 1 := Nat.lt_succ_of_le hp.past
  rw [Polling.disconnect]
  split
  next hopen =>
    have hpos : 0 < p.outstanding := hopen
    have hh : hushed p.history = false := by
      cases hh : hushed p.history with
      | false => rfl
      | true =>
          have hzero := (hp.rest hh).2.2
          omega
    refine entered hentry ?_
    exact {
      later := hp.later
      past := Nat.le_of_lt hlt
      silent := silent_cons.mpr ⟨fun _ => hh, hcalled.silent⟩
      rest := fun _ => ⟨hlt, rfl, rfl⟩ }
  next => exact ⟨hp.later, Nat.le_of_lt hlt, hcalled.silent, fun _ => ⟨hlt, rfl, rfl⟩⟩

lemma send (hp : Quiet σ p) (message : String) : Quiet σ (p.send message) := by
  have hcalled : Quiet σ (p.note (.called (.send message))) := hp.talk rfl
  rw [Polling.send]
  split
  · exact hcalled.talk rfl
  · exact hcalled

end Quiet

mutual

/-- After the first connect every call keeps the transport quiet. -/
lemma Quiet.perform {p : Polling} (hp : Quiet σ p) (hentry : entry.IsQuiet) :
    ∀ call : Call, Quiet σ (p.perform entry call).1
  | .connect => by
      simp only [Polling.perform]
      exact hp.connect entry
  | .disconnect => by
      simp only [Polling.perform]
      exact hp.disconnect hentry
  | .send message => by
      simp only [Polling.perform]
      exact hp.send message
  | .state | .url | .peer _ => by
      simp only [Polling.perform]
      exact hp
  | .on .. => by
      simp only [Polling.perform]
      exact ⟨hp.later, hp.past, hp.silent, hp.rest⟩
  | .batch calls => by
      simp only [Polling.perform]
      exact hp.performAll hentry calls

lemma Quiet.performAll {p : Polling} (hp : Quiet σ p) (hentry : entry.IsQuiet) :
    ∀ calls : List Call, Quiet σ (p.performAll entry calls).1
  | [] => by
      simp only [Polling.performAll]
      exact hp
  | c :: cs => by
      simp only [Polling.performAll]
      exact (hp.perform hentry c).performAll hentry cs

end

/-- **Whatever handlers do keeps the transport quiet**, at every depth of nesting. -/
lemma quiet_enter (depth : Nat) : (enter depth).IsQuiet := by
  induction depth with
  | zero => exact fun _ hp => hp
  | succ depth ih =>
      intro σ p handler hp
      rw [enter]
      induction handler.script generalizing p with
      | nil => exact hp
      | cons call calls ihcalls => exact ihcalls ((hp.perform ih call).talk rfl)

/-! ### The end of a GET -/

/-- The last entry of a telling is not a call. -/
lemma head_fire (depth : Nat) (event : TransportEvent) (p : Polling) :
    (p.fire (enter depth) event).history.head?.any (·.isDisconnect) = false := by
  have key : ∀ (script : List Call) (entry : Entry) (q : Polling),
      q.history.head?.any (·.isDisconnect) = false →
        (script.foldl (fun p call => (p.perform entry call).1.note
          (.did call (p.perform entry call).2)) q).history.head?.any (·.isDisconnect) = false := by
    intro script entry
    induction script with
    | nil => exact fun q hq => hq
    | cons call script ih => exact fun q _ => ih _ rfl
  rw [fire]
  split
  · rfl
  · cases depth with
    | zero => rfl
    | succ depth => exact key _ _ _ rfl

lemma head_told (depth : Nat) (get : Get) (outcome : Except RequestFault String) (p : Polling) :
    (p.told (enter depth) get outcome).history.head?.any (·.isDisconnect) = false := by
  cases outcome with
  | error fault => exact head_fire depth _ _
  | ok body => exact head_fire depth _ _

namespace Quiet

lemma release (hp : Quiet σ p) : Quiet σ (p.release σ).2 := by
  rw [Polling.release]
  split
  · exact hp
  next n hcount =>
    refine ⟨hp.later, hp.past, hp.silent, fun hh => ?_⟩
    obtain ⟨-, -, hzero⟩ := hp.rest hh
    omega

/-- The release says how many GETs remain only within their session. -/
lemma session_of_release (h : (p.release σ).1.isSome) : p.session = σ := by
  rw [Polling.release] at h
  split at h
  · cases h
  · simpa using h

/-- What comes of the end of a GET comes within its session, hence not in the hush. -/
lemma conclude (hp : Quiet σ p) {remaining : Option Nat} (hsession : remaining.isSome → p.session = σ)
    (hhead : p.history.head?.any (·.isDisconnect) = false) (depth : Nat)
    (outcome : Except RequestFault String) :
    Quiet σ (p.conclude (enter depth) outcome remaining) := by
  cases remaining with
  | none => cases outcome <;> simpa [Polling.conclude] using hp
  | some n =>
      have hh := hp.not_hushed (hsession rfl)
      cases outcome with
      | ok body =>
          rw [Polling.conclude]
          split
          · exact hp.arm hh
          · exact hp
      | error fault =>
          rw [Polling.conclude]
          split
          · exact hp.fire (quiet_enter depth) hh fun _ => hhead
          · exact hp

/-- The end of a GET is told in silence if the handlers told of its `Connect` leave the hush alone. -/
lemma told (hp : Quiet σ p) (hh : hushed p.history = false) (depth : Nat) (get : Get)
    (outcome : Except RequestFault String)
    (hcut : ∀ body, outcome = .ok body → p.announced = false →
      hushed (p.greeted (enter depth) get body).history = false) :
    Quiet σ (p.told (enter depth) get outcome) := by
  have hfinished : Quiet σ (p.finished get outcome) := by
    refine ⟨hp.later, hp.past, silent_cons.mpr ⟨nofun, hp.silent⟩, fun hfinished => ?_⟩
    exact absurd (hfinished.symm.trans hh) (by simp)
  have hentry : (enter depth).IsQuiet := quiet_enter depth
  cases outcome with
  | error fault => exact hfinished.fire hentry hh nofun
  | ok body =>
      cases hannounced : p.announced with
      | true =>
          rw [told_of_announced hannounced]
          exact hfinished.fire hentry hh nofun
      | false =>
          have hannouncing : Quiet σ { p.finished get (.ok body) with announced := true } :=
            ⟨hfinished.later, hfinished.past, hfinished.silent, hfinished.rest⟩
          have hgreeted : Quiet σ (p.greeted (enter depth) get body) :=
            hannouncing.fire hentry hh nofun
          rw [told_of_not_announced hannounced]
          exact hgreeted.fire hentry (hcut body rfl hannounced) nofun

end Quiet

/-! ### The cuts -/

/-- The handlers are told of the first connect. -/
def opening (entry : Entry) (p : Polling) : Polling :=
  { p.note (.called .connect) with first := false, announced := true }.fire entry .connect

mutual

/-- A call makes the first connect, and the handlers that are told of it leave the transport hushed. -/
def CutCall (entry : Entry) (p : Polling) : Call → Prop
  | .connect => p.first ∧ hushed (p.opening entry).history
  | .batch calls => CutCalls entry p calls
  | _ => False

/-- One of the calls makes the first connect and is cut short. -/
def CutCalls (entry : Entry) (p : Polling) : List Call → Prop
  | [] => False
  | c :: cs => CutCall entry p c ∨ CutCalls entry (p.perform entry c).1 cs

end

/-- A move announces a connect, and the handlers that are told of it leave the transport hushed: that of
the first connect, or that of a GET whose answer is the first of its run of polls. -/
def Cut (depth : Nat) (p : Polling) : Move → Prop
  | .call call => CutCall (enter depth) p call
  | .complete get outcome =>
    get ∈ p.inFlight ∧ get.session = p.session ∧ p.announced = false ∧
      ∃ body, outcome = .ok body ∧ hushed (p.greeted (enter depth) get body).history

/-- No move of a run is cut short. -/
def Uncut (depth : Nat) (p : Polling) : List Move → Prop
  | [] => True
  | m :: moves => ¬ Cut depth p m ∧ Uncut depth (p.move depth m) moves

/-- Before the first connect: nothing was counted or fired yet. -/
structure Fresh (p : Polling) : Prop where
  first : p.first = true
  idle : p.outstanding = 0 ∧ p.inFlight = []
  silent : Silent p.history
  awake : hushed p.history = false

/-- The transport is as new, or has been quiet since its first connect. -/
def Begun (p : Polling) : Prop := Fresh p ∨ Quiet 0 p

namespace Fresh

lemma talk (hp : Fresh p) (hd : d.isTalk) : Fresh (p.note d) where
  first := hp.first
  idle := hp.idle
  silent := silent_cons.mpr ⟨fun _ => hp.awake, hp.silent⟩
  awake := by
    by_cases hconnect : d = .called .connect
    · subst hconnect
      rfl
    · rw [note_history, hushed_cons hconnect (by rintro state rfl; simp [Deed.isTalk] at hd)]
      exact hp.awake

lemma disconnect (hp : Fresh p) (entry : Entry) : Fresh (p.disconnect entry) := by
  have hcalled : Fresh (p.note (.called .disconnect)) := hp.talk rfl
  rw [Polling.disconnect]
  split
  next hopen =>
    have hzero := hp.idle.1
    have hpos : 0 < p.outstanding := hopen
    omega
  next => exact ⟨hcalled.first, ⟨rfl, rfl⟩, hcalled.silent, hcalled.awake⟩

lemma isOpen_eq (hp : Fresh p) : p.state.isOpen = false := by
  rw [state, hp.idle.1]
  rfl

lemma send (hp : Fresh p) (message : String) : Fresh (p.send message) := by
  have hcalled : Fresh (p.note (.called (.send message))) := hp.talk rfl
  rw [Polling.send, if_neg (by simp [hcalled.isOpen_eq])]
  exact hcalled

/-- The first connect is told to the handlers, and then a GET is started whatever they did. -/
lemma connect_eq (hp : Fresh p) (entry : Entry) : p.connect entry = (p.opening entry).arm := by
  have hcalled : Fresh (p.note (.called .connect)) := hp.talk rfl
  rw [connect]
  dsimp only
  rw [if_neg (by simp [hcalled.isOpen_eq]), if_pos hcalled.first, hcalled.first]
  rfl

/-- The handlers told of the first connect keep the transport quiet. -/
lemma opening (hp : Fresh p) (hentry : entry.IsQuiet) : Quiet 0 (p.opening entry) := by
  have hcalled : Fresh (p.note (.called .connect)) := hp.talk rfl
  have hannounced : Quiet 0 { p.note (.called .connect) with first := false, announced := true } := by
    refine ⟨rfl, Nat.zero_le _, hcalled.silent, fun hh => ?_⟩
    exact absurd (hh.symm.trans hcalled.awake) (by simp)
  exact hannounced.fire hentry hcalled.awake nofun

end Fresh

mutual

/-- A call that is not cut short keeps the transport quiet, and one that is breaks the silence. -/
lemma Begun.perform {p : Polling} (hp : Begun p) :
    ∀ call : Call, (¬ CutCall (enter depth) p call → Begun (p.perform (enter depth) call).1) ∧
      (CutCall (enter depth) p call → ¬ Silent (p.perform (enter depth) call).1.history)
  | .connect => by
      simp only [Polling.perform, CutCall]
      rcases hp with hp | hp
      · have hopening := hp.opening (quiet_enter depth)
        rw [hp.connect_eq]
        refine ⟨fun huncut => .inr (hopening.arm ?_), fun hcut => ?_⟩
        · simpa [hp.first] using huncut
        · exact not_silent_of_loud rfl hcut.2 List.suffix_rfl
      · exact ⟨fun _ => .inr (hp.connect _), fun hcut => absurd hcut.1 (by simp [hp.later])⟩
  | .disconnect => by
      simp only [Polling.perform, CutCall]
      refine ⟨fun _ => ?_, False.elim⟩
      rcases hp with hp | hp
      · exact .inl (hp.disconnect _)
      · exact .inr (hp.disconnect (quiet_enter depth))
  | .send message => by
      simp only [Polling.perform, CutCall]
      refine ⟨fun _ => ?_, False.elim⟩
      rcases hp with hp | hp
      · exact .inl (hp.send message)
      · exact .inr (hp.send message)
  | .state | .url | .peer _ => by
      simp only [Polling.perform, CutCall]
      exact ⟨fun _ => hp, False.elim⟩
  | .on .. => by
      simp only [Polling.perform, CutCall]
      refine ⟨fun _ => ?_, False.elim⟩
      rcases hp with hp | hp
      · exact .inl ⟨hp.first, hp.idle, hp.silent, hp.awake⟩
      · exact .inr ⟨hp.later, hp.past, hp.silent, hp.rest⟩
  | .batch calls => by
      simp only [Polling.perform, CutCall]
      exact hp.performAll calls

lemma Begun.performAll {p : Polling} (hp : Begun p) :
    ∀ calls : List Call, (¬ CutCalls (enter depth) p calls → Begun (p.performAll (enter depth) calls).1) ∧
      (CutCalls (enter depth) p calls → ¬ Silent (p.performAll (enter depth) calls).1.history)
  | [] => by
      simp only [Polling.performAll, CutCalls]
      exact ⟨fun _ => hp, False.elim⟩
  | c :: cs => by
      simp only [Polling.performAll, CutCalls, not_or]
      obtain ⟨hkept, hbroken⟩ := hp.perform c
      by_cases hcut : CutCall (enter depth) p c
      · -- whatever comes later, the silence stays broken
        refine ⟨fun huncut => absurd hcut huncut.1, fun _ hs => hbroken hcut (hs.suffix ?_)⟩
        exact (performAll_steps (enter_steps depth) _ cs).suffix
      · obtain ⟨hkept', hbroken'⟩ := (hkept hcut).performAll cs
        exact ⟨fun huncut => hkept' huncut.2, fun hcuts => hbroken' (hcuts.resolve_left hcut)⟩

end

/-- With something in flight the transport is not hushed. -/
lemma Quiet.not_hushed_of_mem (hp : Quiet σ p) (hget : get ∈ p.inFlight) :
    hushed p.history = false := by
  cases hh : hushed p.history with
  | false => rfl
  | true =>
      obtain ⟨-, hnone, -⟩ := hp.rest hh
      simp [hnone] at hget

/-- The end of a GET keeps the transport quiet unless it is cut short. -/
lemma Quiet.complete (hp : Quiet 0 p)
    (hcut : ¬ Cut depth p (.complete get outcome)) :
    Quiet 0 (p.complete (enter depth) get outcome) := by
  by_cases hget : get ∈ p.inFlight
  · have hh := hp.not_hushed_of_mem hget
    by_cases hsession : get.session = p.session
    · have hthis : Quiet get.session p := by
        refine ⟨hp.later, Nat.le_of_eq hsession, hp.silent, fun htrue => ?_⟩
        exact absurd (htrue.symm.trans hh) (by simp)
      have htold : Quiet get.session (p.told (enter depth) get outcome) := by
        refine hthis.told hh depth get outcome fun body hbody hannounced => ?_
        simpa [Cut, hget, hsession, hbody, hannounced] using hcut
      rw [complete_of_mem hget hsession]
      refine (htold.release.conclude ?_ ?_ depth outcome).weaken (Nat.zero_le _)
      · intro hsome
        rw [release_session]
        exact Quiet.session_of_release hsome
      · rw [release_history]
        exact head_told depth get outcome p
    · rw [complete_of_other_session hget hsession]
      refine ⟨hp.later, hp.past, silent_cons.mpr ⟨nofun, hp.silent⟩, fun htrue => ?_⟩
      exact absurd (htrue.symm.trans hh) (by simp)
  · rw [complete_of_not_mem hget]
    exact hp

/-- A GET that is cut short delivers its message in the hush. -/
lemma not_silent_of_cut (hcut : Cut depth p (.complete get outcome)) :
    ¬ Silent (p.complete (enter depth) get outcome).history := by
  obtain ⟨hget, hsession, hannounced, body, rfl, hh⟩ := hcut
  have htold : .fired (.message body) (p.greeted (enter depth) get body).state ::
      (p.greeted (enter depth) get body).history <:+
        (p.told (enter depth) get (.ok body)).history := by
    rw [told_of_not_announced hannounced]
    exact fire_suffix depth _ _
  exact not_silent_of_loud rfl hh (htold.trans (complete_suffix depth hget hsession _))

lemma Begun.move (hp : Begun p) (depth : Nat) (m : Move) :
    (¬ Cut depth p m → Begun (p.move depth m)) ∧ (Cut depth p m → ¬ Silent (p.move depth m).history) := by
  cases m with
  | call call => exact hp.perform call
  | complete get outcome =>
      refine ⟨fun hcut => ?_, not_silent_of_cut⟩
      rcases hp with hp | hp
      · have hnone : get ∉ p.inFlight := by simp [hp.idle.2]
        rw [Polling.move, complete_of_not_mem hnone]
        exact .inl hp
      · exact .inr (hp.complete hcut)

lemma Begun.silent (hp : Begun p) : Silent p.history := by
  rcases hp with hp | hp
  · exact hp.silent
  · exact hp.silent

lemma Begun.rest (hp : Begun p) (hh : hushed p.history) : p.inFlight = [] ∧ p.outstanding = 0 := by
  rcases hp with hp | hp
  · exact ⟨hp.idle.2, hp.idle.1⟩
  · exact (hp.rest hh).2

/-- A run that is not cut short keeps the transport quiet, and one that is breaks the silence. -/
lemma Begun.run (hp : Begun p) (depth : Nat) (moves : List Move) :
    (Uncut depth p moves → Begun (p.run depth moves)) ∧
      (¬ Uncut depth p moves → ¬ Silent (p.run depth moves).history) := by
  induction moves generalizing p with
  | nil => exact ⟨fun _ => hp, fun hcut => absurd trivial hcut⟩
  | cons m moves ih =>
      obtain ⟨hkept, hbroken⟩ := hp.move depth m
      by_cases hcut : Cut depth p m
      · refine ⟨fun huncut => absurd hcut huncut.1, fun _ hs => hbroken hcut ?_⟩
        exact hs.suffix (run_suffix depth (p.move depth m) moves)
      · obtain ⟨hkept', hbroken'⟩ := ih (hkept hcut)
        exact ⟨fun huncut => hkept' huncut.2, fun hcuts => hbroken' fun huncut => hcuts ⟨hcut, huncut⟩⟩

/-! ### The result -/

/-- **The transport is silent after a disconnect unless an announcement is cut short.** In every run,
whatever the handlers call,

* from the `Disconnect` that a call of `disconnect` fires to the next call of `connect` no event is fired
  and no GET started, if and only if no announcement of a connect is cut short in the run;
* up to then nothing is in flight and nothing counted whenever the transport should be silent;
* a GET whose session is over when the handlers have been told of its end adds nothing to the history: it
  fires nothing and is not followed by another. -/
theorem silent_iff_uncut (depth : Nat) (url : String) (handlers : Handlers Handler)
    (moves : List Move) :
    let p : Polling := { url, handlers }
    let q := p.run depth moves
    ((∀ newer d older, q.history = newer ++ d :: older → d.isLoud → hushed older = false) ↔
      Uncut depth p moves) ∧
    (Uncut depth p moves → hushed q.history → q.inFlight = [] ∧ q.outstanding = 0) ∧
    ∀ get ∈ q.inFlight, get.session = q.session → ∀ outcome,
      (q.told (enter depth) get outcome).session ≠ get.session →
        (q.complete (enter depth) get outcome).history =
          (q.told (enter depth) get outcome).history := by
  intro p q
  have hp : Begun p := .inl ⟨rfl, ⟨rfl, rfl⟩, by simp [Silent, p], rfl⟩
  obtain ⟨hkept, hbroken⟩ := hp.run depth moves
  refine ⟨⟨fun hs => ?_, fun huncut => (hkept huncut).silent⟩, fun huncut => (hkept huncut).rest, ?_⟩
  · by_cases huncut : Uncut depth p moves
    · exact huncut
    · exact absurd hs (hbroken huncut)
  · intro get hget hsession outcome hover
    have hnone : ((q.told (enter depth) get outcome).release get.session).1 = none := by
      cases hremaining : ((q.told (enter depth) get outcome).release get.session).1 with
      | none => rfl
      | some n => exact absurd (Quiet.session_of_release (by simp [hremaining])) hover
    rw [complete_of_mem hget hsession, hnone]
    cases outcome <;> simp [conclude]

/-- Two announcements that are cut short. The handlers told of the first connect connect and disconnect,
and then a GET is started. The handler told of a later connect disconnects, and then the message comes. -/
theorem loud_after_teardown :
    let opening : List Move :=
      [.call (.on .connect "c" [.connect, .disconnect]), .call .connect]
    let answer : List Move :=
      [.call .connect, .complete { id := 0, session := 0 } (.error .malformed),
        .call (.on .connect "c" [.disconnect]), .call .connect,
        .complete { id := 1, session := 0 } (.ok "late")]
    let p : Polling := { url := "nope" }
    (∃ older, (p.run 2 opening).history = .began { id := 1, session := 1 } :: older ∧ hushed older) ∧
    ∃ state older, (p.run 2 answer).history = .fired (.message "late") state :: older ∧ hushed older := by
  intro opening answer p
  exact ⟨⟨_, rfl, rfl⟩, ⟨_, _, rfl, rfl⟩⟩

end ResilientChannel.Polling
