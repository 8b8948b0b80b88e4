import ResilientChannel.Proofs.Session.Notices
import ResilientChannel.Proofs.Session.Pulse

/-!
When the connect callback is called.

The driver goes by the counter alone: a `Connect` that finds it above zero is told to the application. The
counter is up after a loss, so the first `Connect` of a channel is told as well when an attempt has failed
before it.

* **Troubles.** A loss or an acceleration is what raises the counter; up to the first `Connect` the
  outage is zero if and only if there was neither (`outage_eq_zero_iff`).
* **The calls.** Every call of the connect callback stands right after a handled `Connect`, before which
  the outage was above zero (`Punctual.connected_of_notified`), and every such `Connect` calls the callback
  in force (`Punctual.exists_notified`).
* **The accelerations.** The backoff is cut short only after a loss, or once the server has been heard
  (`Grounded`, `grounded_run`).
* `returns_earned_iff`: what came before a `Connect` that the application is told of, and exactly when all
  the calls of a run tell of a return. `returned_at_first` is a run whose first attempt fails and whose
  first `Connect` is told.
-/

namespace ResilientChannel.Session

variable {s t : Session} {ms newer older : List Milestone} {tag : String} {view : View}

/-! ### Troubles -/

/-- What raises the counter: a loss or an acceleration. -/
def Milestone.isTrouble : Milestone → Bool
  | .lost | .accelerated => true
  | _ => false

/-- Without a `Connect` in between, every trouble counts. -/
lemma outage_eq_zero_iff (h : .connected ∉ ms) :
    outage ms = 0 ↔ ∀ m ∈ ms, m.isTrouble = false := by
  induction ms with
  | nil => simp [outage]
  | cons m ms ih =>
      simp only [List.mem_cons, not_or] at h
      have hrest := ih h.2
      cases m with
      | connected => exact absurd rfl h.1
      | lost | accelerated => simp [outage, Milestone.isTrouble]
      | registered | notified | other => simpa [outage, Milestone.isTrouble] using hrest

/-- An outage has begun with some trouble, unless there was a `Connect` before it. -/
lemma exists_isTrouble_of_outage (h : 0 < outage ms) :
    .connected ∈ ms ∨ ∃ m ∈ ms, m.isTrouble := by
  by_cases hconnected : Milestone.connected ∈ ms
  · exact .inl hconnected
  · refine .inr (Decidable.not_forall_not.mp fun hcalm => ?_)
    have hzero := (outage_eq_zero_iff hconnected).mpr (by simpa using hcalm)
    omega

lemma exists_isTrouble_iff : (∃ m ∈ ms, m.isTrouble) ↔ .lost ∈ ms ∨ .accelerated ∈ ms := by
  constructor
  · rintro ⟨m, hm, htrouble⟩
    cases m <;> simp_all [Milestone.isTrouble]
  · rintro (hm | hm) <;> exact ⟨_, hm, rfl⟩

/-! ### The calls -/

/-- The connect callback in force is called right after a `Connect` that ends an outage, and only
then. -/
lemma Punctual.connected_of_notified (h : Punctual ms)
    (heq : ms = newer ++ .notified .connect tag view :: older) :
    ∃ before, older = .connected :: before ∧ 0 < outage before ∧
      registered .connect before ≠ none := by
  obtain ⟨m, before, rfl, -, hmem⟩ := h.exists_cause rfl heq
  have hsummons : ∀ k, Milestone.notified .connect tag view ∈ summons k before →
      k = .connect ∧ registered k before ≠ none := by
    intro k hk
    obtain ⟨c, hc, hcall⟩ : ∃ c, registered k before = some c ∧
        Milestone.notified k c.tag c.view = .notified .connect tag view := by
      simpa [summons] using hk
    cases hcall
    exact ⟨rfl, by simp [hc]⟩
  simp only [answer] at hmem
  split at hmem
  · split at hmem
    next => cases (hsummons _ hmem).1
    next => simp at hmem
  · split at hmem
    next hcount => exact ⟨before, rfl, hcount, (hsummons _ hmem).2⟩
    next => simp at hmem
  · simp at hmem

/-- A `Connect` that ends an outage calls the connect callback in force. -/
lemma Punctual.exists_notified (h : Punctual ms) (heq : ms = newer ++ .connected :: older)
    (hcount : 0 < outage older) (hforce : registered .connect older ≠ none) :
    ∃ front tag view, ms = front ++ .notified .connect tag view :: .connected :: older := by
  obtain ⟨c, hc⟩ := Option.ne_none_iff_exists'.mp hforce
  obtain ⟨front, hfront⟩ := h.answer_suffix (m := .connected) rfl heq
  have hcall : answer .connected older = [.notified .connect c.tag c.view] := by
    simp [answer, hcount, summons, hc]
  exact ⟨front, c.tag, c.view, by rw [heq, ← hfront, hcall]; simp⟩

/-! ### The accelerations -/

/-- Something was lost, or the server was heard. -/
def Stirred (h : List Record) : Prop := .lost ∈ milestones h ∨ ∃ r ∈ h, r.deed.isActivity

/-- Every acceleration has its grounds before it. -/
def Grounded : List Record → Prop
  | [] => True
  | r :: older => (r.deed = .accelerated → Stirred older) ∧ Grounded older

/-- An entry that is no acceleration. -/
def Deed.isUnhurried : Deed → Bool
  | .accelerated => false
  | _ => true

lemma Deed.isUnhurried_of_isErrand {d : Deed} (h : d.isErrand) : d.isUnhurried := by
  cases d <;> simp_all [isErrand, isUnhurried]

lemma Deed.isUnhurried_of_isUpheaval {d : Deed} (h : d.isUpheaval) : d.isUnhurried := by
  cases d <;> simp_all [isUpheaval, isUnhurried]

lemma Deed.isUnhurried_of_isVigil {d : Deed} (h : d.isVigil) : d.isUnhurried := by
  cases d <;> simp_all [isVigil, isUpheaval, isUnhurried]

/-- Only news of the network licenses an acceleration. -/
lemma Signal.Licenses.isUnhurried {x : Signal} {d : Deed} (h : x.Licenses d)
    (hx : ∀ status, x ≠ .network status) : d.isUnhurried := by
  cases h with
  | taken | start | greeting | sync | message | answer => rfl
  | loss h => exact Deed.isUnhurried_of_isUpheaval (Deed.isUpheaval_of_isSetback h)
  | force h => exact Deed.isUnhurried_of_isUpheaval h
  | acceleration | network => exact absurd rfl (hx _)

/-- A second attempt is under way only after a loss. -/
lemma lost_mem_of_outage (h : 1 < outage ms) : .lost ∈ ms := by
  induction ms with
  | nil => simp [outage] at h
  | cons m ms ih =>
      cases m with
      | lost => exact .head ms
      | connected | accelerated => simp [outage] at h
      | registered | notified | other => exact .tail _ (ih h)

/-- A backoff is cut short in its second step, or when the server has been silent for too long. -/
lemma stirred_of_inTrouble (hrecorded : Recorded s) (hpulsing : Pulsing s)
    (h : s.life.retry.inBackoff || s.life.heartbeat.isLate s.now) : Stirred s.history := by
  rcases Bool.or_eq_true_iff.mp h with hbackoff | hlate
  · refine .inl (lost_mem_of_outage ?_)
    have hcount : 1 < s.life.retry.attempts := by simpa [Retry.inBackoff] using hbackoff
    rw [hrecorded.attempts] at hcount
    omega
  · rw [isLate_eq, hpulsing.lastActivity, Option.any_eq_true] at hlate
    obtain ⟨heard, hheard, -⟩ := hlate
    obtain ⟨r, hmem, hactivity, -⟩ := exists_of_lastHeard hheard
    exact .inr ⟨r, hmem, hactivity⟩

namespace Grounded

variable {h : List Record}

lemma append {new : List Record} (hnew : ∀ r ∈ new, r.deed.isUnhurried) (hh : Grounded h) :
    Grounded (new ++ h) := by
  induction new with
  | nil => exact hh
  | cons r new ih =>
      refine ⟨fun hr => ?_, ih fun q hq => hnew q (.tail _ hq)⟩
      have hunhurried := hnew r (by simp)
      rw [hr] at hunhurried
      cases hunhurried

lemma stirred {newer older : List Record} {r : Record} (hr : r.deed = .accelerated) :
    Grounded (newer ++ r :: older) → Stirred older := by
  induction newer with
  | nil => exact fun hg => hg.1 hr
  | cons q newer ih => exact fun hg => ih hg.2

lemma flow (hg : Grounded s.history) (ht : Flow Deed.isUnhurried s t) : Grounded t.history := by
  obtain ⟨new, hnew, -, hr⟩ := ht.entries
  exact hnew ▸ hg.append hr

lemma exchange {p : Deed → Prop} (hg : Grounded s.history) (h : Exchange p s t)
    (hp : ∀ d, p d → d.isUnhurried) : Grounded t.history :=
  hg.flow (h.flow_of (fun _ => Deed.isUnhurried_of_isErrand) fun d _ => hp d)

/-- The driver cuts the backoff short only if it has grounds to. -/
lemma observe (hg : Grounded s.history) (hrecorded : Recorded s) (hpulsing : Pulsing s)
    (status : NetworkStatus) : Grounded (s.observe status).history := by
  have hforced {u : Session} (hu : Grounded u.history) : Grounded u.force.history :=
    hu.exchange (force_exchange u) fun _ => Deed.isUnhurried_of_isUpheaval
  cases status with
  | offline =>
      simp only [Session.observe, Presence.observe]
      exact hforced hg
  | online =>
      cases htrouble : s.life.retry.inBackoff || s.life.heartbeat.isLate s.now with
      | false =>
          simp only [Session.observe, Presence.observe, htrouble]
          exact hg
      | true =>
          have hstirred := stirred_of_inTrouble hrecorded hpulsing htrouble
          simp only [Session.observe, Presence.observe, htrouble]
          exact hforced ⟨fun _ => hstirred, hg⟩

end Grounded

/-- Everything that happens keeps the grounds of the accelerations. -/
lemma grounded_invariant : Invariant (fun _ => True) fun s =>
    (Recorded s ∧ Pulsing s) ∧ Grounded s.history where
  touch h ht := ⟨⟨recorded_invariant.touch h.1.1 ht, pulsing_invariant.touch h.1.2 ht⟩,
    h.2.flow (ht.flow.mono fun _ => Deed.isUnhurried_of_isErrand)⟩
  drive {s t} h ht := by
    obtain ⟨⟨hrecorded, hpulsing⟩, hg⟩ := h
    refine ⟨⟨recorded_invariant.drive hrecorded ht, pulsing_invariant.drive hpulsing ht⟩, ?_⟩
    obtain ⟨-, ⟨x, rest, -, rfl⟩ | ⟨-, hdue, rfl⟩ | ⟨-, -, -, rfl⟩⟩ := drive?_cases ht
    · have htook (x : Signal) : Grounded ({ s with queue := rest }.note (.took x)).history :=
        ⟨by simp, hg⟩
      have hkept (hshutdown : x.isShutdown = false) (hnetwork : ∀ status, x ≠ .network status) :
          Grounded (({ s with queue := rest }.note (.took x)).handle x).history :=
        (htook x).exchange (handle_exchange s rest hshutdown) fun _ hd => hd.isUnhurried hnetwork
      cases x with
      | network status =>
          have hpopped : Recorded { s with queue := rest } :=
            hrecorded.congr (Nat.le_refl _) rfl rfl rfl rfl
          have hpopped' : Pulsing { s with queue := rest } := hpulsing.congr rfl rfl
          exact (htook _).observe (hpopped.note rfl rfl)
            (hpopped'.beatless ⟨.entry rfl rfl rfl rfl rfl, rfl⟩) status
      | shutdown =>
          simp only [handle, stop_history]
          split
          · exact ⟨by simp, by simp, htook .shutdown⟩
          · exact ⟨by simp, htook .shutdown⟩
      | start | transport | register | forceReconnect | inspect => exact hkept rfl (by simp)
    · exact hg.exchange (retry_exchange hdue) (by rintro _ rfl; rfl)
    · exact hg.exchange (beat_exchange s) fun _ => Deed.isUnhurried_of_isVigil
  pass duration h :=
    ⟨⟨recorded_invariant.pass duration h.1.1, pulsing_invariant.pass duration h.1.2⟩, h.2⟩

lemma grounded_run (now : Time) (line : Line) (moves : List Move) :
    Grounded ((fresh now line).run moves).history := by
  have hpulsing : Pulsing (fresh now line) := ⟨rfl, rfl, trivial⟩
  exact (grounded_invariant.run (s := fresh now line) ⟨⟨recorded_fresh now line, hpulsing⟩, trivial⟩
    fun m _ => m.within_of_forall fun _ => trivial).2

/-! ### The result -/

/-- **The connect callback tells that the channel is back, from a failed attempt as well.** In every run over
any line,

* every call of the connect callback stands right after a handled `Connect` that ends an outage, and before
  it there was an earlier one, a loss or an acceleration;
* before each of these `Connect`s there was an earlier one if and only if the first `Connect` of the run
  found no connect callback in force, or no loss and no acceleration before it;
* every acceleration has a loss, a `Connect` or a message before it, so without a message before the first
  `Connect` a call at that `Connect` has a loss before it. -/
theorem returns_earned_iff (now : Time) (line : Line) (moves : List Move) :
    let history := ((fresh now line).run moves).history
    let ms := milestones history
    (∀ newer tag view older, ms = newer ++ .notified .connect tag view :: older →
      ∃ before, older = .connected :: before ∧ 0 < outage before ∧
        (.connected ∈ before ∨ .lost ∈ before ∨ .accelerated ∈ before)) ∧
    ((∀ newer tag view older, ms = newer ++ .notified .connect tag view :: older →
        ∃ before, older = .connected :: before ∧ .connected ∈ before) ↔
      ∀ newer older, ms = newer ++ .connected :: older → .connected ∉ older →
        registered .connect older ≠ none → .lost ∉ older ∧ .accelerated ∉ older) ∧
    (∀ newer r older, history = newer ++ r :: older → r.deed = .accelerated →
      .lost ∈ milestones older ∨ ∃ q ∈ older, q.deed.isActivity) := by
  intro history ms
  have h : Punctual ms := (recorded_run now line moves).notices
  refine ⟨?_, ⟨?_, ?_⟩, ?_⟩
  · intro newer tag view older heq
    obtain ⟨before, rfl, hcount, -⟩ := h.connected_of_notified heq
    exact ⟨before, rfl, hcount,
      (exists_isTrouble_of_outage hcount).imp_right exists_isTrouble_iff.mp⟩
  · intro hearned newer older heq hfirst hforce
    rcases Nat.eq_zero_or_pos (outage older) with hzero | hcount
    · refine not_or.mp fun htrouble => ?_
      obtain ⟨m, hm, hraises⟩ := exists_isTrouble_iff.mpr htrouble
      exact absurd hraises (by simp [(outage_eq_zero_iff hfirst).mp hzero m hm])
    · -- trouble has raised the counter, so this very `Connect` calls the callback in force
      obtain ⟨front, tag, view, hcall⟩ := h.exists_notified heq hcount hforce
      obtain ⟨before, hbefore, hmem⟩ := hearned front tag view _ hcall
      cases hbefore
      exact absurd hmem hfirst
  · intro hcalm newer tag view older heq
    obtain ⟨before, rfl, hcount, hforce⟩ := h.connected_of_notified heq
    refine ⟨before, rfl, ?_⟩
    by_cases hfirst : Milestone.connected ∈ before
    · exact hfirst
    · have hnone := hcalm (newer ++ [.notified .connect tag view]) before (by simpa using heq)
        hfirst hforce
      have htrouble := (exists_isTrouble_of_outage hcount).resolve_left hfirst
      exact absurd (exists_isTrouble_iff.mp htrouble) (not_or.mpr hnone)
  · intro newer r older heq hr
    exact (heq ▸ grounded_run now line moves : Grounded (newer ++ r :: older)).stirred hr

/-- A line that fires `Connect` only for a requested connection, and refuses the first request: when the
second is accepted, the callback is called right after the first `Connect` of all, before which there was
a loss. -/
theorem returned_at_first :
    let refused : List Move := [.act (.lineReacts (some .refuse) none), .act (.onReconnect "back" []),
      .drive, .act .connect, .drive, .drive, .drive]
    let accepted : List Move := [.act (.lineReacts (some .accept) none), .pass (.ms 100), .drive,
      .drive]
    let ms := milestones ((fresh 0 {}).run (refused ++ accepted)).history
    ∃ newer tag view before, ms = newer ++ .notified .connect tag view :: .connected :: before ∧
      .connected ∉ before ∧ .lost ∈ before := by
  intro refused accepted ms
  have hrun : ms = [] ++ .notified .connect "back" .nothing :: .connected :: [.other, .lost, .other, .other,
      .other, .other, .registered .connect { tag := "back", view := .nothing, script := [] }] := rfl
  exact ⟨_, _, _, _, hrun, by simp, by simp⟩

end ResilientChannel.Session
