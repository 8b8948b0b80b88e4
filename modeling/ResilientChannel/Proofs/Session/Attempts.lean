import Mathlib.Algebra.Ring.Nat
import ResilientChannel.Proofs.Session.Chronicle

/-!
Every attempt to connect is earned by a loss of its own.

Apart from the attempt of the first start, an attempt is made only once the delay of the latest loss
has passed, when no `Connect` has ended the outage and no other attempt has used that loss
(`attempts_earned`). So there is at most one attempt more than there are losses, and two attempts
are at least a tenth of a second apart.

The proof reads the chronicle alone. `Chronicle.exists_loss` finds the loss behind a pending attempt,
`Chronicle.countP_opened_le` counts, and `Chronicle.spaced` follows from the loss between two
attempts.
-/

namespace ResilientChannel.Session

/-- The disconnect transition. -/
def Deed.isLost : Deed → Bool
  | .lost _ => true
  | _ => false

/-- A handled `Connect`. -/
def Deed.isConnected : Deed → Bool
  | .took (.transport .connect) => true
  | _ => false

/-- An attempt to connect. -/
def Deed.isOpened : Deed → Bool
  | .opened => true
  | _ => false

/-- An attempt at `t` right after the first start that was handled. -/
def IsFirst (t : Time) (older : List Record) : Prop :=
  ∃ before, older = { time := t, deed := .took .start } :: before ∧
    ∀ r ∈ before, r.deed.isStart = false ∧ r.deed.isOpened = false

/-- An attempt at `t` that waited for the delay of the latest loss, and since that loss neither was a
`Connect` handled nor another attempt made. -/
def IsEarned (t : Time) (older : List Record) : Prop :=
  ∃ between s n before, older = between ++ { time := s, deed := .lost n } :: before ∧
    (∀ r ∈ between,
      r.deed.isLost = false ∧ r.deed.isConnected = false ∧ r.deed.isOpened = false) ∧
    1 ≤ n ∧ n ≤ 8 ∧ s + .ms (n ^ 3 * 100) ≤ t

namespace Chronicle

variable {h : List Record}

/-- Behind a pending attempt lies the latest loss, and nothing that would have cleared it. -/
lemma exists_loss {due : Time} (hc : Chronicle h) (hdue : pending h = some due) :
    ∃ between s n before, h = between ++ { time := s, deed := .lost n } :: before ∧
      (∀ r ∈ between,
        r.deed.isLost = false ∧ r.deed.isConnected = false ∧ r.deed.isOpened = false) ∧
      1 ≤ n ∧ n ≤ 8 ∧ due = s + .ms (n ^ 3 * 100) := by
  induction h with
  | nil => simp [pending] at hdue
  | cons r h ih =>
      obtain ⟨time, deed⟩ := r
      obtain ⟨-, hr, hc⟩ := hc
      cases hlost : deed.isLost with
      | true =>
          -- the loss itself: it set the attempt, by the law that `Lawful` gives its counter
          cases deed <;> simp only [Deed.isLost, Bool.false_eq_true] at hlost
          next n =>
            have hn : n = min 8 (outage (milestones h) + 1) := hr.2
            have hn1 : 1 ≤ n := by omega
            have hn8 : n ≤ 8 := by omega
            refine ⟨[], time, n, h, rfl, by simp, hn1, hn8, ?_⟩
            simp only [pending, Option.some.injEq] at hdue
            rw [← hdue, Retry.delay_of_le hn8]
      | false =>
          have hkept : pending h = some due ∧ deed.isConnected = false ∧ deed.isOpened = false := by
            rw [pending] at hdue
            simp only [Deed.isConnected, Deed.isOpened]
            split at hdue <;> simp_all [Deed.isLost]
          obtain ⟨between, s, n, before, rfl, hbetween, hrest⟩ := ih hc hkept.1
          refine ⟨{ time, deed } :: between, s, n, before, rfl, ?_, hrest⟩
          intro r hr
          rcases List.mem_cons.mp hr with rfl | hr
          · exact ⟨hlost, hkept.2⟩
          · exact hbetween r hr

/-- Before the first start nothing is attempted. -/
lemma not_opened (hc : Chronicle h) (hb : begun h = false) :
    ∀ r ∈ h, r.deed.isStart = false ∧ r.deed.isOpened = false := by
  induction h with
  | nil => simp
  | cons r h ih =>
      obtain ⟨-, hr, hc⟩ := hc
      simp only [begun, List.any_cons, Bool.or_eq_false_iff] at hb
      have hopened : r.deed.isOpened = false := by
        simp only [Deed.isOpened]
        split
        next ho =>
          simp only [Record.Lawful, ho] at hr
          rcases hr with ⟨before, rfl, -⟩ | ⟨due, hdue, -⟩
          · simp [Deed.isStart] at hb
          · rw [hc.pending_eq_none hb.2] at hdue
            cases hdue
        next => rfl
      intro q hq
      rcases List.mem_cons.mp hq with rfl | hq
      · exact ⟨hb.1, hopened⟩
      · exact ih hc hb.2 q hq

lemma countP_opened_eq_zero (hc : Chronicle h) (hb : begun h = false) :
    h.countP (·.deed.isOpened) = 0 :=
  List.countP_eq_zero.mpr fun r hr => by simp [(hc.not_opened hb r hr).2]

/-- An attempt is the first or earned. -/
lemma opened_cases {t : Time} (hc : Chronicle ({ time := t, deed := .opened } :: h)) :
    IsFirst t h ∨ IsEarned t h := by
  obtain ⟨-, hr, hc⟩ := hc
  rcases hr with ⟨before, rfl, hb⟩ | ⟨due, hdue, hle⟩
  · exact .inl ⟨before, rfl, hc.2.2.not_opened hb⟩
  · obtain ⟨between, s, n, before, heq, hbetween, hn1, hn8, rfl⟩ := hc.exists_loss hdue
    exact .inr ⟨between, s, n, before, heq, hbetween, hn1, hn8, hle⟩

/-- Between two attempts lies the loss that earned the later one. -/
lemma spaced {t t' : Time} {mid older : List Record}
    (hc : Chronicle ({ time := t, deed := .opened } ::
      (mid ++ { time := t', deed := .opened } :: older))) :
    t' + .ms 100 ≤ t := by
  have hlater := hc.2.2
  rcases hc.opened_cases with ⟨before, heq, hbefore⟩ | ⟨between, s, n, before, heq, hbetween, hn1,
    -, hle⟩
  · -- nothing was attempted before the first start
    cases mid with
    | nil => simp at heq
    | cons r mid =>
        simp only [List.cons_append, List.cons.injEq] at heq
        have hopened := hbefore { time := t', deed := .opened } (by simp [← heq.2])
        simp [Deed.isOpened] at hopened
  · -- the earlier attempt is not among the entries after the loss, so it lies before the loss
    have hmem : { time := t', deed := .opened } ∈ before := by
      rcases List.append_eq_append_iff.mp heq with ⟨c, rfl, hcut⟩ | ⟨c, rfl, hcut⟩
      · cases c with
        | nil => simp at hcut
        | cons r c =>
            simp only [List.cons_append, List.cons.injEq] at hcut
            have hopened := hbetween r (by simp)
            simp [← hcut.1, Deed.isOpened] at hopened
      · cases c with
        | nil => simp at hcut
        | cons r c =>
            simp only [List.cons_append, List.cons.injEq] at hcut
            simp [hcut.2]
    have htime : t' ≤ s := by
      rw [heq] at hlater
      exact hlater.suffix.1 _ hmem
    have hdelay : Time.ms 100 ≤ .ms (n ^ 3 * 100) :=
      Nat.mul_le_mul_left _ (Nat.le_mul_of_pos_left 100 (Nat.pow_pos hn1))
    calc t' + .ms 100 ≤ s + .ms (n ^ 3 * 100) := Nat.add_le_add htime hdelay
      _ ≤ t := hle

/-- What is no loss leaves the pending attempt alone or clears it. -/
lemma pending_of_not_lost {r : Record} (hr : r.deed.isLost = false) (h : List Record) :
    pending (r :: h) = none ∨ pending (r :: h) = pending h := by
  simp only [pending]
  split
  next n hn => simp [hn, Deed.isLost] at hr
  · exact .inl rfl
  · exact .inl rfl
  · exact .inl rfl
  · exact .inr rfl

/-- Each attempt after the first uses up a loss; a pending one has not used its loss yet. -/
lemma countP_opened_le (hc : Chronicle h) :
    h.countP (·.deed.isOpened) + (pending h).isSome.toNat ≤
      (begun h).toNat + h.countP (·.deed.isLost) := by
  induction h with
  | nil => simp [pending, begun]
  | cons r h ih =>
      obtain ⟨time, deed⟩ := r
      obtain ⟨-, hr, hc⟩ := hc
      have hle := ih hc
      have hbegun : (begun h).toNat ≤ (begun ({ time, deed } :: h)).toNat := by
        simp only [begun, List.any_cons]
        cases deed.isStart <;> simp [Bool.toNat_le]
      rw [List.countP_cons, List.countP_cons]
      by_cases hopened : deed = .opened
      · subst hopened
        have ho : Deed.opened.isOpened = true := rfl
        have hl : Deed.opened.isLost = false := rfl
        have hcleared : pending ({ time, deed := .opened } :: h) = none := rfl
        simp only [ho, hl, hcleared, if_true, Bool.false_eq_true, if_false, Option.isSome_none,
          Bool.toNat_false]
        rcases hr with ⟨before, heq, hb⟩ | ⟨due, hdue, -⟩
        · -- the first start: no attempt was made before it
          dsimp only at heq
          subst heq
          have hnone := hc.2.2.countP_opened_eq_zero hb
          have hstart : (Deed.took .start).isOpened = false := rfl
          have hone : (begun ({ time, deed := .opened } :: { time, deed := .took .start } ::
              before)).toNat = 1 := rfl
          rw [List.countP_cons, hnone]
          simp only [hstart, Bool.false_eq_true, if_false]
          omega
        · simp only [hdue, Option.isSome_some, Bool.toNat_true] at hle
          omega
      · have hnot : deed.isOpened = false := by
          cases deed <;> first | rfl | exact absurd rfl hopened
        cases hlost : deed.isLost with
        | true =>
            have hsome : (pending ({ time, deed } :: h)).isSome.toNat ≤ 1 := Bool.toNat_le _
            simp only [hnot, Bool.false_eq_true, if_false, if_true]
            omega
        | false =>
            simp only [hnot, Bool.false_eq_true, if_false]
            rcases pending_of_not_lost (r := { time, deed }) hlost h with hp | hp
            · rw [hp, Option.isSome_none, Bool.toNat_false]
              omega
            · rw [hp]
              omega

end Chronicle

/-- **Every attempt is earned.** In every run over any line, an attempt other than that of the first
start is made after a loss whose counter `n` lies between 1 and 8, at least `n³·100` ms later, with
no `Connect` handled and no other attempt made since; the losses bound the attempts, and two attempts
are at least 100 ms apart. -/
theorem attempts_earned (now : Time) (line : Line) (moves : List Move) :
    let h := ((fresh now line).run moves).history
    (∀ newer t older, h = newer ++ { time := t, deed := .opened } :: older →
      IsFirst t older ∨ IsEarned t older) ∧
    h.countP (·.deed.isOpened) ≤ 1 + h.countP (·.deed.isLost) ∧
    ∀ newer t mid t' older,
      h = newer ++ { time := t, deed := .opened } ::
        (mid ++ { time := t', deed := .opened } :: older) →
      t' + .ms 100 ≤ t := by
  have hc := (recorded_run now line moves).chronicle
  refine ⟨?_, ?_, ?_⟩
  · intro newer t older heq
    rw [heq] at hc
    exact hc.suffix.opened_cases
  · have hle := hc.countP_opened_le
    have hone := Bool.toNat_le (begun ((fresh now line).run moves).history)
    omega
  · intro newer t mid t' older heq
    rw [heq] at hc
    exact hc.suffix.spaced

end ResilientChannel.Session
