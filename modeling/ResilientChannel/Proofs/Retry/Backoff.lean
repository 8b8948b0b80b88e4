import Mathlib.Algebra.Order.Ring.Nat
import Mathlib.Order.Bounds.Basic
import Mathlib.Order.Interval.Set.Defs
import Mathlib.Tactic.Ring
import ResilientChannel.Retry

/-!
The backoff law, and the controller that goes by it.

* **The law.** A cube fits in 32 bits exactly up to the counter `lastCubic` (`cube_lt_iff`). Up to there the
  delay is the cube in tenths of a second, and above it is the fallback (`delay_eq`); a cube of 32 bits leaves
  room for the unit in 64 (`product?_of_cube?`, `toNat_words`).
* **The controller.** An `Operation` is what can be done to it, and `losses` lists the losses among operations
  in any order and at any times. No operation takes the counter above the cap (`attempts_perform_le`), and only
  a connect and an acceleration take it down (`le_attempts_perform`).
* `backoff_exact`: the law for all counters, and the part of it that the controller uses.
-/

namespace ResilientChannel.Retry

/-! ### The law -/

/-- The largest counter whose cube fits in 32 bits. -/
def lastCubic : Nat := 1625

lemma cube_lt_iff {n : Nat} : n ^ 3 < 2 ^ 32 ↔ n ≤ lastCubic := by
  constructor
  · intro h
    by_contra hgt
    have hnext : 1626 ^ 3 ≤ n ^ 3 := Nat.pow_le_pow_left (Nat.lt_of_not_le hgt) 3
    omega
  · intro h
    have hlast : n ^ 3 ≤ 1625 ^ 3 := Nat.pow_le_pow_left h 3
    omega

lemma isGreatest_lastCubic : IsGreatest {n : Nat | n ^ 3 < 2 ^ 32} lastCubic :=
  ⟨cube_lt_iff.mpr le_rfl, fun _ h => cube_lt_iff.mp h⟩

lemma cube?_eq (n : Nat) : cube? n = if n ^ 3 < 2 ^ 32 then some (n ^ 3) else none := by
  have hcube : n * n * n = n ^ 3 := by ring
  rw [cube?, hcube]
  rfl

/-- A cube of 32 bits leaves room for the unit in 64. -/
lemma product?_of_cube? {n m : Nat} (h : cube? n = some m) :
    product? m Parameters.backoffUnit = some (m * 100) := by
  have hm : m < 2 ^ 32 := by
    rw [cube?_eq] at h
    split at h
    · next hfits => rwa [← Option.some.inj h]
    · cases h
  have hroom : m * 100 < UInt64.size := by
    show m * 100 < 2 ^ 64
    omega
  exact if_pos hroom

/-- **The law**, for every counter. -/
lemma delay_eq (n : Nat) :
    delay n = if n ^ 3 < 2 ^ 32 then .ms (n ^ 3 * 100) else .ms 1001 := by
  by_cases hfits : n ^ 3 < 2 ^ 32
  · have hcube : cube? n = some (n ^ 3) := by rw [cube?_eq, if_pos hfits]
    rw [if_pos hfits, delay, hcube, Option.bind_some, product?_of_cube? hcube]
  · have hcube : cube? n = none := by rw [cube?_eq, if_neg hfits]
    rw [if_neg hfits, delay, hcube]
    rfl

/-- In words of 32 and 64 bits neither the cube nor the product wraps around. -/
lemma toNat_words {n : UInt32} (h : n.toNat ^ 3 < 2 ^ 32) :
    ((n * n * n).toUInt64 * 100).toNat = n.toNat ^ 3 * 100 := by
  have hpow : n.toNat * n.toNat * n.toNat = n.toNat ^ 3 := by ring
  have hcube : (n * n * n).toNat = n.toNat ^ 3 := by
    rw [UInt32.toNat_mul, UInt32.toNat_mul, Nat.mod_mul_mod, hpow, Nat.mod_eq_of_lt h]
  rw [UInt64.toNat_mul, UInt32.toNat_toUInt64, hcube]
  exact Nat.mod_eq_of_lt (show n.toNat ^ 3 * 100 < 2 ^ 64 by omega)

lemma delay_of_le_lastCubic {n : Nat} (h : n ≤ lastCubic) : delay n = .ms (n ^ 3 * 100) := by
  rw [delay_eq, if_pos (cube_lt_iff.mpr h)]

lemma delay_of_lastCubic_lt {n : Nat} (h : lastCubic < n) : delay n = .ms 1001 := by
  rw [delay_eq, if_neg (mt cube_lt_iff.mp (Nat.not_le.mpr h))]

/-- Up to the cap the delay is the cubic law, with no fallback. -/
lemma delay_of_le {n : Nat} (h : n ≤ 8) : delay n = .ms (n ^ 3 * 100) :=
  delay_of_le_lastCubic (h.trans (by decide))

/-- Every delay takes some time. -/
lemma delay_pos {n : Nat} (h : 1 ≤ n) : 0 < delay n := by
  have hcube : 0 < n ^ 3 := Nat.pow_pos h
  rw [delay_eq]
  split
  · exact Nat.mul_pos (by decide) (Nat.mul_pos hcube (by decide))
  · decide

/-- As long as the law holds, one failure more makes the delay longer. -/
lemma strictMonoOn_delay : StrictMonoOn delay (Set.Iic lastCubic) := by
  intro m hm n hn hlt
  have hcube : m ^ 3 * 100 < n ^ 3 * 100 :=
    Nat.mul_lt_mul_of_pos_right (Nat.pow_lt_pow_left hlt (by decide)) (by decide)
  calc delay m = .ms (m ^ 3 * 100) := delay_of_le_lastCubic hm
    _ < .ms (n ^ 3 * 100) := Nat.mul_lt_mul_of_pos_left hcube (by decide)
    _ = delay n := (delay_of_le_lastCubic hn).symm

/-! ### One operation -/

variable {r : Retry}

/-- What can be done to a controller. -/
inductive Operation
  | connect
  | disconnect (now : Time)
  | accelerate
  | takeDue (now : Time)
  | cancel
deriving DecidableEq, Repr

/-- The controller after an operation. -/
def perform (r : Retry) : Operation → Retry
  | .connect => r.onConnect.2
  | .disconnect now => (r.onDisconnect now).2
  | .accelerate => r.accelerate
  | .takeDue now => (r.takeDue now).2
  | .cancel => r.cancel

lemma attempts_onDisconnect (h : r.attempts ≤ 8) (now : Time) :
    (r.onDisconnect now).2.attempts = min 8 (r.attempts + 1) := by
  have hcap : Parameters.attemptCap = 8 := rfl
  rw [onDisconnect]
  dsimp only
  split <;> omega

lemma one_le_attempts_onDisconnect (r : Retry) (now : Time) :
    1 ≤ (r.onDisconnect now).2.attempts := by
  have hcap : Parameters.attemptCap = 8 := rfl
  rw [onDisconnect]
  dsimp only
  split <;> omega

lemma attempts_takeDue (r : Retry) (now : Time) : (r.takeDue now).2.attempts = r.attempts := by
  rw [takeDue]
  split <;> rfl

/-- The counter stays within its cap. -/
lemma attempts_perform_le (h : r.attempts ≤ 8) (op : Operation) : (r.perform op).attempts ≤ 8 := by
  cases op with
  | connect => exact Nat.zero_le 8
  | disconnect now =>
      have hnext := attempts_onDisconnect h now
      show (r.onDisconnect now).2.attempts ≤ 8
      omega
  | accelerate => exact Nat.one_le_ofNat
  | takeDue now => exact (attempts_takeDue r now).trans_le h
  | cancel => exact h

/-- Only a connect and an acceleration take the counter down. -/
lemma le_attempts_perform (h : r.attempts ≤ 8) {op : Operation} (hconnect : op ≠ .connect)
    (haccelerate : op ≠ .accelerate) : r.attempts ≤ (r.perform op).attempts := by
  cases op with
  | connect => exact absurd rfl hconnect
  | disconnect now =>
      have hnext := attempts_onDisconnect h now
      show r.attempts ≤ (r.onDisconnect now).2.attempts
      omega
  | accelerate => exact absurd rfl haccelerate
  | takeDue now => exact (attempts_takeDue r now).ge
  | cancel => exact le_rfl

/-! ### Any sequence of operations -/

/-- The controller after operations, one after another. -/
def run (r : Retry) (ops : List Operation) : Retry := ops.foldl perform r

/-- A loss that a controller was told of: when, what it led to, and the controller it left. -/
structure Loss where
  time : Time
  outcome : Outcome
  after : Retry

/-- The loss that an operation is, if it is one. -/
def Operation.loss? (r : Retry) : Operation → Option Loss
  | disconnect now =>
      some { time := now, outcome := (r.onDisconnect now).1, after := (r.onDisconnect now).2 }
  | connect | accelerate | takeDue _ | cancel => none

/-- The losses among operations, in order. -/
def losses (r : Retry) : List Operation → List Loss
  | [] => []
  | op :: ops => (op.loss? r).toList ++ (r.perform op).losses ops

lemma attempts_run_le (h : r.attempts ≤ 8) (ops : List Operation) : (r.run ops).attempts ≤ 8 := by
  induction ops generalizing r with
  | nil => exact h
  | cons op ops ih => exact ih (attempts_perform_le h op)

lemma attempts_of_loss? {op : Operation} {l : Loss} (hl : op.loss? r = some l) :
    l.outcome.attempts = (r.perform op).attempts := by
  cases op with
  | disconnect now =>
      obtain rfl := Option.some.inj hl
      rfl
  | connect | accelerate | takeDue _ | cancel => cases hl

/-- **One loss.** Its counter lies between one and the cap, its delay is that of the law, and the next attempt is
due when the delay has passed. -/
lemma of_loss? (h : r.attempts ≤ 8) {op : Operation} {l : Loss} (hl : op.loss? r = some l) :
    (1 ≤ l.outcome.attempts ∧ l.outcome.attempts ≤ 8) ∧
      l.outcome.delay = .ms (l.outcome.attempts ^ 3 * 100) ∧
      l.after = { attempts := l.outcome.attempts, dueAt := some (l.time + l.outcome.delay) } := by
  cases op with
  | disconnect now =>
      obtain rfl := Option.some.inj hl
      have hone := one_le_attempts_onDisconnect r now
      have hcap := attempts_perform_le h (.disconnect now)
      exact ⟨⟨hone, hcap⟩, delay_of_le hcap, rfl⟩
  | connect | accelerate | takeDue _ | cancel => cases hl

lemma of_mem_losses (h : r.attempts ≤ 8) {ops : List Operation} {l : Loss} (hl : l ∈ r.losses ops) :
    (1 ≤ l.outcome.attempts ∧ l.outcome.attempts ≤ 8) ∧
      l.outcome.delay = .ms (l.outcome.attempts ^ 3 * 100) ∧
      l.after = { attempts := l.outcome.attempts, dueAt := some (l.time + l.outcome.delay) } := by
  induction ops generalizing r with
  | nil => cases hl
  | cons op ops ih =>
      rw [losses, List.mem_append, Option.mem_toList] at hl
      rcases hl with hl | hl
      · exact of_loss? h hl
      · exact ih (attempts_perform_le h op) hl

section Stretch

variable {ops : List Operation}

lemma le_of_mem_losses (h : r.attempts ≤ 8) (hconnect : .connect ∉ ops) (haccelerate : .accelerate ∉ ops)
    {l : Loss} (hl : l ∈ r.losses ops) : r.attempts ≤ l.outcome.attempts := by
  induction ops generalizing r with
  | nil => cases hl
  | cons op ops ih =>
      rw [List.mem_cons, not_or] at hconnect haccelerate
      have hstep : r.attempts ≤ (r.perform op).attempts :=
        le_attempts_perform h (Ne.symm hconnect.1) (Ne.symm haccelerate.1)
      rw [losses, List.mem_append, Option.mem_toList] at hl
      rcases hl with hl | hl
      · rwa [attempts_of_loss? hl]
      · exact hstep.trans (ih (attempts_perform_le h op) hconnect.2 haccelerate.2 hl)

/-- **A stretch without a connect and an acceleration.** The counter of a loss is no smaller than that of any
loss before it. -/
lemma pairwise_losses (h : r.attempts ≤ 8) (hconnect : .connect ∉ ops) (haccelerate : .accelerate ∉ ops) :
    (r.losses ops).Pairwise fun l l' => l.outcome.attempts ≤ l'.outcome.attempts := by
  induction ops generalizing r with
  | nil => exact .nil
  | cons op ops ih =>
      rw [List.mem_cons, not_or] at hconnect haccelerate
      have hnext := attempts_perform_le h op
      rw [losses, List.pairwise_append]
      refine ⟨?_, ih hnext hconnect.2 haccelerate.2, ?_⟩
      · cases op.loss? r <;> simp
      · intro l hl l' hl'
        rw [Option.mem_toList] at hl
        rw [attempts_of_loss? hl]
        exact le_of_mem_losses hnext hconnect.2 haccelerate.2 hl'

end Stretch

/-- **Backoff is exact.** The delay is the cubic law wherever the cube fits in 32 bits and the fallback
elsewhere; the product always fits, and words compute the law without wrapping around. So the delay grows with
the counter up to the largest one whose cube fits, and is the same for all beyond it. Whatever is done to a fresh
controller, and whenever, each loss leads to a counter between 1 and 8, to the delay of the law, never the
fallback, and to an attempt that is due when the delay has passed; and as long as there is neither a connect nor
an acceleration, no delay is shorter than one before it. -/
theorem backoff_exact :
    (∀ n, delay n = if n ^ 3 < 2 ^ 32 then .ms (n ^ 3 * 100) else .ms 1001) ∧
      (∀ n m, cube? n = some m → product? m Parameters.backoffUnit = some (m * 100)) ∧
      (∀ n : UInt32, n.toNat ^ 3 < 2 ^ 32 →
        delay n.toNat = .ms ((n * n * n).toUInt64 * 100).toNat) ∧
      (∃ last, IsGreatest {n : Nat | n ^ 3 < 2 ^ 32} last ∧ StrictMonoOn delay (Set.Iic last) ∧
        ∀ m n, last < m → last < n → delay m = delay n) ∧
      (∀ ops, ∀ l ∈ losses {} ops,
        (1 ≤ l.outcome.attempts ∧ l.outcome.attempts ≤ 8) ∧
        l.outcome.delay = .ms (l.outcome.attempts ^ 3 * 100) ∧
        l.outcome.delay ≠ .ms Parameters.backoffFallback ∧
        l.after.dueAt = some (l.time + l.outcome.delay)) ∧
      ∀ before stretch, .connect ∉ stretch → .accelerate ∉ stretch →
        ((run {} before).losses stretch).Pairwise fun l l' => l.outcome.delay ≤ l'.outcome.delay := by
  have hfresh : ({} : Retry).attempts ≤ 8 := Nat.zero_le 8
  refine ⟨delay_eq, fun n m => product?_of_cube?, fun n hn => ?_, ?_, fun ops l hl => ?_, ?_⟩
  · rw [delay_eq, if_pos hn, toNat_words hn]
  · refine ⟨lastCubic, isGreatest_lastCubic, strictMonoOn_delay, fun m n hm hn => ?_⟩
    rw [delay_of_lastCubic_lt hm, delay_of_lastCubic_lt hn]
  · obtain ⟨hcounter, hdelay, hafter⟩ := of_mem_losses hfresh hl
    refine ⟨hcounter, hdelay, fun hfallback => ?_, by rw [hafter]⟩
    -- the fallback is no multiple of the unit
    have hunit : 1000 * (l.outcome.attempts ^ 3 * 100) = 1000 * 1001 := hdelay.symm.trans hfallback
    omega
  · intro before stretch hconnect haccelerate
    have hcap := attempts_run_le hfresh before
    refine (pairwise_losses hcap hconnect haccelerate).imp_of_mem fun hl hl' hle => ?_
    rw [(of_mem_losses hcap hl).2.1, (of_mem_losses hcap hl').2.1]
    exact Nat.mul_le_mul_left _ (Nat.mul_le_mul_right _ (Nat.pow_le_pow_left hle 3))

/-- At the end of the law: the longest delay, and the fallback. -/
example : delay 1625 = .ms 429101562500 ∧ delay 1626 = .ms 1001 := by decide

end ResilientChannel.Retry
