import Mathlib.Logic.Basic
import ResilientChannel.Proofs.Polling.Steps

/-!
How far the count of a long-polling transport is exact.

The count is lowered at the end of a GET, after the handlers have been told, and before anybody asks
whether the GET's session is still the current one. It is exact at every moment of a run exactly if
no GET slips (`exact_iff_noSlip`): a GET slips if the handlers that are told of its end tear the
transport down and start another GET, which is then in flight and uncounted.

* **The invariant.** `Balanced owed old` says of the state in the midst of a GET's end, of session
  `owed`, that the count is the number of GETs in flight, and one more as long as that session lasts.
  Every step of the handlers keeps it (`Balanced.step`), hence so do all handlers together.
* **The release.** While the session lasts, the release takes back what is owed
  (`Balanced.release_eq`); after a disconnect it takes from the GETs of the next session
  (`Balanced.release_eq_of_ne`).
-/

namespace ResilientChannel.Polling

open Transport

variable {p q : Polling} {owed : Option Nat} {old : List Deed} {depth : Nat} {get : Get}
  {outcome : Except RequestFault String} {σ : Nat}

/-- The count is the number of GETs of the current session in flight. -/
def Exact (p : Polling) : Prop := p.outstanding = p.inFlight.countP (·.session = p.session)

/-- The handlers that are told of a GET's end tear the transport down and start a GET anew. -/
def Slips (depth : Nat) (get : Get) (outcome : Except RequestFault String) (p : Polling) : Prop :=
  get ∈ p.inFlight ∧ (p.told (enter depth) get outcome).session ≠ get.session ∧
    (p.told (enter depth) get outcome).inFlight ≠ []

/-- No GET slips in a run. -/
def NoSlip (depth : Nat) (p : Polling) (moves : List Move) : Prop :=
  ∀ before get outcome, before ++ [.complete get outcome] <+: moves →
    ¬ Slips depth get outcome (p.run depth before)

/-! ### The invariant -/

/-- All GETs in flight belong to the current session. The count is theirs, and one more as long as
the session `owed` lasts; if that is over, its end was reported after the deeds `old`. -/
structure Balanced (owed : Option Nat) (old : List Deed) (p : Polling) : Prop where
  current : ∀ get ∈ p.inFlight, get.session = p.session
  past : ∀ σ ∈ owed, σ ≤ p.session
  count : p.outstanding = p.inFlight.length + if owed = some p.session then 1 else 0
  reported : ∃ new, p.history = new ++ old ∧
    ∀ σ ∈ owed, p.session ≠ σ → ∃ state, .fired .disconnect state ∈ new

lemma Balanced.note (h : Balanced owed old p) (d : Deed) : Balanced owed old (p.note d) where
  current := h.current
  past := h.past
  count := h.count
  reported := by
    obtain ⟨new, hnew, hreported⟩ := h.reported
    refine ⟨d :: new, by rw [note_history, hnew, List.cons_append], fun σ hσ hne => ?_⟩
    obtain ⟨state, hmem⟩ := hreported σ hσ hne
    exact ⟨state, .tail _ hmem⟩

lemma Balanced.arm (h : Balanced owed old p) : Balanced owed old p.arm := by
  have harmed : Balanced owed old { p with
      outstanding := p.outstanding + 1
      inFlight := p.inFlight ++ [{ id := p.started, session := p.session }]
      started := p.started + 1 } :=
    { current := fun get hget => by
        rcases List.mem_append.mp hget with hget | hget
        · exact h.current get hget
        · rw [List.mem_singleton.mp hget]
      past := h.past
      count := by
        have hcount := h.count
        simp only [List.length_append, List.length_singleton]
        omega
      reported := h.reported }
  exact harmed.note _

/-- A teardown leaves nothing in flight and nothing counted. What is owed is void from then on. -/
lemma Balanced.tornDown (h : Balanced owed old p) : Balanced owed old p.tornDown := by
  have hvoid : owed ≠ some (p.session + 1) := fun ho => by
    have hle := h.past _ ho
    omega
  obtain ⟨new, hnew, hreported⟩ := h.reported
  simp only [Polling.tornDown]
  split
  · exact {
      current := by simp
      past := fun σ hσ => Nat.le_succ_of_le (h.past σ hσ)
      count := by simp [hvoid]
      reported := ⟨_ :: new, by rw [note_history, hnew]; rfl, fun _ _ _ => ⟨_, .head _⟩⟩ }
  next hidle =>
    -- with nothing counted the session that is owed was torn down before
    refine ⟨by simp, fun σ hσ => Nat.le_succ_of_le (h.past σ hσ), by simp [hvoid],
      new, hnew, fun σ hσ _ => hreported σ hσ fun hs => ?_⟩
    have hcount := h.count
    rw [if_pos (by rw [hs]; exact hσ)] at hcount
    omega

lemma Balanced.step (h : Balanced owed old p) (hstep : Step p q) : Balanced owed old q := by
  cases hstep with
  | note => exact h.note _
  | register => exact ⟨h.current, h.past, h.count, h.reported⟩
  | begin =>
      have hbegun : Balanced owed old { p with first := false, announced := p.first } :=
        ⟨h.current, h.past, h.count, h.reported⟩
      simp only [begun]
      split
      · exact hbegun.note _
      · exact hbegun
  | arm => exact h.arm
  | tearDown => exact h.tornDown

lemma Balanced.steps (h : Balanced owed old p) (hsteps : Steps p q) : Balanced owed old q := by
  induction hsteps with
  | refl => exact h
  | tail _ hstep ih => exact ih.step hstep

lemma Balanced.fire (h : Balanced owed old p) (event : TransportEvent) :
    Balanced owed old (p.fire (enter depth) event) :=
  (h.note _).steps (fire_steps (enter_steps depth) event p)

/-! ### The release -/

/-- The handlers find the GET counted, and what they do keeps the balance. -/
lemma Balanced.told (h : Balanced none old p) (hget : get ∈ p.inFlight) (depth : Nat)
    (outcome : Except RequestFault String) :
    Balanced (some get.session) p.history (p.told (enter depth) get outcome) := by
  have hended : Balanced (some get.session) p.history
      ({ p with inFlight := p.inFlight.erase get }.note (.ended get outcome)) :=
    { current := fun g hg => h.current g (List.mem_of_mem_erase hg)
      past := by simp [h.current get hget]
      count := by
        have hcount := h.count
        have hpos := List.length_pos_of_mem hget
        simp only [note_outstanding, note_inFlight, note_session, h.current get hget, if_true,
          List.length_erase_of_mem hget]
        simp only [reduceCtorEq, if_false] at hcount
        omega
      reported := ⟨[.ended get outcome], rfl, fun σ hσ hne => by
        cases hσ
        exact absurd (h.current get hget).symm hne⟩ }
  have hannounced : Balanced (some get.session) p.history
      { { p with inFlight := p.inFlight.erase get }.note (.ended get outcome) with
        announced := true } :=
    ⟨hended.current, hended.past, hended.count, hended.reported⟩
  simp only [Polling.told]
  cases outcome with
  | ok body =>
      refine Balanced.fire ?_ _
      split
      · exact hended
      · exact hannounced.fire _
  | error fault => exact hended.fire _

/-- Within its session the release takes back what is owed. -/
lemma Balanced.release_eq (h : Balanced (some σ) old p) (hs : p.session = σ) :
    p.release σ = (some p.inFlight.length, { p with outstanding := p.inFlight.length }) := by
  have hcount : p.outstanding = p.inFlight.length + 1 := by
    rw [h.count, if_pos (by rw [hs])]
  simp [release, hcount, hs]

/-- Once the session is over, the release takes from the GETs of the next one. -/
lemma Balanced.release_eq_of_ne (h : Balanced (some σ) old p) (hs : p.session ≠ σ) :
    p.release σ = (none, { p with outstanding := p.inFlight.length - 1 }) := by
  have hcount : p.outstanding = p.inFlight.length := by
    rw [h.count, if_neg (by simpa using hs.symm), Nat.add_zero]
  rw [release]
  split
  next hzero =>
    have hsame : p.inFlight.length - 1 = p.outstanding := by omega
    rw [hsame]
  next n hsucc => simp [← hcount, hsucc, hs]

/-- What is owed is settled: the GETs in flight are all that is counted. -/
lemma Balanced.settled (h : Balanced owed old p) :
    Balanced none old { p with outstanding := p.inFlight.length } where
  current := h.current
  past := nofun
  count := by simp
  reported := by
    obtain ⟨new, hnew, -⟩ := h.reported
    exact ⟨new, hnew, nofun⟩

lemma Balanced.exact (h : Balanced none old p) : Exact p := by
  have hall : p.inFlight.countP (·.session = p.session) = p.inFlight.length :=
    List.countP_eq_length.mpr fun get hget => by simpa using h.current get hget
  rw [Exact, hall, h.count]
  simp

/-! ### The end of a GET -/

lemma state_eq_opened : p.state = .opened ↔ 0 < p.outstanding := by
  rw [state]
  split <;> simp_all

/-- The deeds so far may be taken as the old ones. -/
lemma Balanced.here (h : Balanced none old p) : Balanced none p.history p :=
  ⟨h.current, nofun, h.count, [], rfl, nofun⟩

lemma conclude_none (p : Polling) : p.conclude (enter depth) outcome none = p := by
  cases outcome <;> simp [conclude]

lemma Balanced.conclude (h : Balanced none old p) (remaining : Option Nat) :
    Balanced none old (p.conclude (enter depth) outcome remaining) := by
  simp only [Polling.conclude]
  split
  · split
    · exact h.arm
    · exact h
  · split
    · exact h.fire _
    · exact h

/-- The balance is kept when a GET ends, unless it slips. -/
lemma Balanced.complete (h : Balanced none old p) (hslip : ¬ Slips depth get outcome p) :
    Balanced none p.history (p.complete (enter depth) get outcome) := by
  by_cases hget : get ∈ p.inFlight
  · have htold := h.told hget depth outcome
    rw [complete_of_mem hget (h.current get hget)]
    by_cases hs : (p.told (enter depth) get outcome).session = get.session
    · rw [htold.release_eq hs]
      exact htold.settled.conclude _
    · have hnone : (p.told (enter depth) get outcome).inFlight = [] := by
        simpa [Slips, hget, hs] using hslip
      have hsettled := htold.settled
      rw [htold.release_eq_of_ne hs, conclude_none]
      simpa [hnone] using hsettled
  · rw [complete_of_not_mem hget]
    exact h.here

/-- A slip leaves a GET in flight that is not counted. -/
lemma Balanced.not_exact (h : Balanced none old p) (hslip : Slips depth get outcome p) :
    ¬ Exact (p.complete (enter depth) get outcome) := by
  obtain ⟨hget, hs, hsome⟩ := hslip
  have htold := h.told hget depth outcome
  have hexact := htold.settled.exact
  have hpos := List.length_pos_iff.mpr hsome
  rw [complete_of_mem hget (h.current get hget), htold.release_eq_of_ne hs, conclude_none]
  rw [Exact] at hexact ⊢
  dsimp only at hexact ⊢
  omega

/-- The poll goes on, or a `Disconnect` is reported. -/
lemma Balanced.opened_or_reported_conclude (h : Balanced none old p) (depth : Nat)
    (outcome : Except RequestFault String) :
    ∃ new, (p.conclude (enter depth) outcome (some p.outstanding)).history = new ++ p.history ∧
      ((p.conclude (enter depth) outcome (some p.outstanding)).state = .opened ∨
        ∃ state, .fired .disconnect state ∈ new) := by
  have hopened : 0 < p.outstanding → ∃ new, p.history = new ++ p.history ∧
      (p.state = .opened ∨ ∃ state, .fired .disconnect state ∈ new) :=
    fun hpos => ⟨[], rfl, .inl (state_eq_opened.mpr hpos)⟩
  cases outcome with
  | ok body =>
      by_cases hfew : p.outstanding ≤ 1
      · have hagain : p.conclude (enter depth) (.ok body) (some p.outstanding) = p.arm := by
          simp [Polling.conclude, hfew]
        rw [hagain]
        exact ⟨[.began _], rfl, .inl (state_eq_opened.mpr (Nat.succ_pos _))⟩
      · have hlast : p.conclude (enter depth) (.ok body) (some p.outstanding) = p := by
          simp [Polling.conclude, hfew]
        rw [hlast]
        exact hopened (by omega)
  | error fault =>
      by_cases hnone : p.outstanding = 0
      · have hsteps := fire_steps (enter_steps depth) .disconnect p
        obtain ⟨new, hnew, -⟩ := ((h.note (.fired .disconnect p.state)).here.steps hsteps).reported
        refine ⟨new ++ [.fired .disconnect p.state], ?_, .inr ⟨p.state, by simp⟩⟩
        simpa [Polling.conclude, hnone] using hnew
      · have hlast : p.conclude (enter depth) (.error fault) (some p.outstanding) = p := by
          simp [Polling.conclude, hnone]
        rw [hlast]
        exact hopened (by omega)

/-- When a GET ends that is counted, the poll goes on or a `Disconnect` is reported. -/
lemma Balanced.opened_or_reported (h : Balanced none old p) (hget : get ∈ p.inFlight) :
    ∃ new, (p.complete (enter depth) get outcome).history = new ++ p.history ∧
      ((p.complete (enter depth) get outcome).state = .opened ∨
        ∃ state, .fired .disconnect state ∈ new) := by
  have htold := h.told hget depth outcome
  obtain ⟨new, hnew, hreported⟩ := htold.reported
  rw [complete_of_mem hget (h.current get hget)]
  by_cases hs : (p.told (enter depth) get outcome).session = get.session
  · obtain ⟨new', hnew', hend⟩ := htold.settled.opened_or_reported_conclude depth outcome
    rw [htold.release_eq hs]
    refine ⟨new' ++ new, by rw [hnew', hnew, List.append_assoc], hend.imp_right ?_⟩
    rintro ⟨state, hmem⟩
    exact ⟨state, List.mem_append_left _ hmem⟩
  · rw [htold.release_eq_of_ne hs, conclude_none]
    exact ⟨new, hnew, .inr (hreported _ rfl hs)⟩

/-! ### Runs -/

lemma Balanced.move (h : Balanced none old p) {m : Move}
    (hslip : ∀ get outcome, m = .complete get outcome → ¬ Slips depth get outcome p) :
    Balanced none p.history (move depth p m) := by
  cases m with
  | call call => exact h.here.steps (perform_steps (enter_steps depth) p call)
  | complete get outcome => exact h.complete (hslip get outcome rfl)

lemma balanced_new (url : String) (handlers : Handlers Handler) :
    Balanced none [] { url, handlers } :=
  ⟨nofun, nofun, rfl, [], rfl, nofun⟩

/-- What holds at every moment of a run holds at its beginning and at every moment from the first
move on. -/
lemma forall_prefix_cons {P : List Move → Prop} (m : Move) (moves : List Move) :
    (∀ before, before <+: m :: moves → P before) ↔
      P [] ∧ ∀ before, before <+: moves → P (m :: before) := by
  constructor
  · intro h
    exact ⟨h [] List.nil_prefix, fun before hb => h _ (List.cons_prefix_cons.mpr ⟨rfl, hb⟩)⟩
  · rintro ⟨hnil, hcons⟩ before hb
    cases before with
    | nil => exact hnil
    | cons m' before =>
        obtain ⟨rfl, htail⟩ := List.cons_prefix_cons.mp hb
        exact hcons before htail

lemma noSlip_cons (p : Polling) (m : Move) (moves : List Move) :
    NoSlip depth p (m :: moves) ↔
      (∀ get outcome, m = .complete get outcome → ¬ Slips depth get outcome p) ∧
        NoSlip depth (p.move depth m) moves := by
  constructor
  · intro h
    refine ⟨fun get outcome hm => h [] get outcome ?_, fun before get outcome hb => ?_⟩
    · exact List.cons_prefix_cons.mpr ⟨hm.symm, List.nil_prefix⟩
    · exact h (m :: before) get outcome (List.cons_prefix_cons.mpr ⟨rfl, hb⟩)
  · rintro ⟨hfirst, hrest⟩ before get outcome hb
    cases before with
    | nil => exact hfirst get outcome (List.cons_prefix_cons.mp hb).1.symm
    | cons m' before =>
        obtain ⟨rfl, htail⟩ := List.cons_prefix_cons.mp hb
        exact hrest before get outcome htail

/-- A run is exact throughout if and only if no GET slips in it: the first slip breaks the count. -/
lemma Balanced.exact_throughout_iff (h : Balanced none old p) (moves : List Move) :
    (∀ before, before <+: moves → Exact (p.run depth before)) ↔ NoSlip depth p moves := by
  induction moves generalizing p old with
  | nil =>
      constructor
      · intro _ before get outcome hb
        simp at hb
      · intro _ before hb
        rw [List.prefix_nil.mp hb]
        exact h.exact
  | cons m moves ih =>
      rw [forall_prefix_cons, noSlip_cons]
      by_cases hslip : ∀ get outcome, m = .complete get outcome → ¬ Slips depth get outcome p
      · exact and_congr (iff_of_true h.exact hslip) (ih (h.move hslip))
      · refine iff_of_false (fun hexact => ?_) fun hno => hslip hno.1
        simp only [not_forall, not_not] at hslip
        obtain ⟨get, outcome, rfl, hslips⟩ := hslip
        exact h.not_exact hslips (hexact.2 [] List.nil_prefix)

/-- The balance is kept throughout a run in which no GET slips. -/
lemma Balanced.run (h : Balanced none old p) {moves : List Move} (hno : NoSlip depth p moves) :
    ∃ old, Balanced none old (p.run depth moves) := by
  induction moves generalizing p old with
  | nil => exact ⟨old, h⟩
  | cons m moves ih =>
      obtain ⟨hfirst, hrest⟩ := (noSlip_cons p m moves).mp hno
      exact ih (h.move hfirst) hrest

/-- **The count is exact unless a GET slips.** At every moment of a run the count is the number of
GETs of the current session in flight, if and only if no GET slips in the run. Up to then the
transport is open exactly if such a GET is in flight, and when one of them ends the poll goes on or
a `Disconnect` is reported. -/
theorem exact_iff_noSlip (depth : Nat) (url : String) (handlers : Handlers Handler)
    (moves : List Move) :
    let p : Polling := { url, handlers }
    ((∀ before, before <+: moves → Exact (p.run depth before)) ↔ NoSlip depth p moves) ∧
    (NoSlip depth p moves →
      let q := p.run depth moves
      (q.state = .opened ↔ ∃ get ∈ q.inFlight, get.session = q.session) ∧
      ∀ get ∈ q.inFlight, ∀ outcome, ∃ new,
        (q.complete (enter depth) get outcome).history = new ++ q.history ∧
        ((q.complete (enter depth) get outcome).state = .opened ∨
          ∃ state, .fired .disconnect state ∈ new)) := by
  intro p
  have hnew : Balanced none [] p := balanced_new url handlers
  refine ⟨hnew.exact_throughout_iff moves, fun hno => ?_⟩
  obtain ⟨old, h⟩ := hnew.run hno
  refine ⟨?_, fun get hget outcome => h.opened_or_reported hget⟩
  rw [state_eq_opened, h.exact, List.countP_pos_iff]
  simp

/-- A slip: an error handler gives way to a silent one, tears the transport down and connects again.
The new GET is in flight, and the transport takes itself for idle. -/
theorem uncounted_after_slip :
    let moves : List Move :=
      [.call (.on .error "e" [.on .error "u" [], .disconnect, .connect]), .call .connect,
        .complete { id := 0, session := 0 } (.error .malformed)]
    let q := run 1 { url := "nope" } moves
    q.session = 1 ∧ q.inFlight = [{ id := 1, session := 1 }] ∧ q.state = .idle ∧ ¬ Exact q := by
  refine ⟨rfl, rfl, rfl, ?_⟩
  rw [Exact]
  decide

end ResilientChannel.Polling
