import ResilientChannel.Proofs.Url.Authority

/-!
Ports are read as they are written.

A port that was read fits into sixteen bits and is not the one that its scheme stands for anyway
(`isPort_of_port`). Such a port is written in decimal digits behind a colon, or not at all if there is none,
and reading what was written gives the port (`port_text`).
-/

namespace ResilientChannel.Url.Parser

/-- What reading says of the port of a URL. -/
def IsPort (scheme : String) (port : Option Nat) : Prop :=
  ∀ p ∈ port, p ≤ 65535 ∧ some p ≠ defaultPort? scheme

/-- The written form of a port, with the colon in front. -/
def portText (port : Option Nat) : List Char := port.elim [] fun p => ':' :: Nat.toDigits 10 p

lemma portDigits_le {read n : Option Nat} {cs rest : List Char} (hread : ∀ p ∈ read, p ≤ 65535)
    (h : portDigits read cs = .ok (n, rest)) : ∀ p ∈ n, p ≤ 65535 := by
  fun_induction portDigits read cs with
  | case1 | case4 =>
    cases h
    exact hread
  | case3 read c cs hdigit value hle ih =>
    refine ih (fun p hp => ?_) h
    rw [← Option.some.inj hp]
    exact Nat.not_lt.mp hle
  | _ => cases h

lemma isPort_of_port {scheme : String} {cs rest : List Char} {p : Option Nat}
    (h : port scheme cs = .ok (p, rest)) : IsPort scheme p := by
  unfold port at h
  split at h
  · obtain ⟨⟨read, behind⟩, hdigits, heq⟩ := exists_of_map_eq_ok h
    obtain ⟨rfl, -⟩ := Prod.mk.inj heq
    intro q hq
    split at hq
    · cases hq
    · next hdefault =>
      rw [← Option.mem_def.mp hq]
      exact ⟨portDigits_le (by simp) hdigits q hq, hdefault⟩
  · cases h
    intro q hq
    cases hq

/-- Digits that stay within sixteen bits are read to their end. -/
lemma portDigits_digits {cs : List Char} (hcs : ∀ c ∈ cs, c.isDigit = true) (value : Nat)
    (hle : Nat.ofDigitChars 10 cs value ≤ 65535) :
    portDigits (some value) cs = .ok (some (Nat.ofDigitChars 10 cs value), []) := by
  induction cs generalizing value with
  | nil => rfl
  | cons c cs ih =>
    obtain ⟨hc, hcs⟩ := List.forall_mem_cons.mp hcs
    rw [Nat.ofDigitChars_cons] at hle ⊢
    have hsmall : 10 * value + (c.toNat - 0x30) ≤ 65535 := by
      rw [Nat.ofDigitChars_eq_ofDigitChars_zero] at hle
      have hpow := Nat.le_mul_of_pos_left (10 * value + (c.toNat - 0x30))
        (Nat.pow_pos (n := cs.length) (by decide : 0 < 10))
      exact Nat.le_trans hpow (Nat.le_trans (Nat.le_add_right _ _) hle)
    rw [portDigits, if_pos hc]
    simp only [Option.getD_some, Nat.not_lt.mpr hsmall, if_false]
    exact ih hcs _ hle

/-- **Reading a written port** gives the port. -/
lemma port_text {scheme : String} {p : Option Nat} (hp : IsPort scheme p) :
    port scheme (portText p) = .ok (p, []) := by
  cases p with
  | none => rfl
  | some p =>
    obtain ⟨hle, hdefault⟩ := hp p rfl
    have hdigits : ∀ c ∈ Nat.toDigits 10 p, c.isDigit = true := fun c hc =>
      Nat.isDigit_of_mem_toDigits (by decide) (by decide) hc
    have hread : portDigits none (Nat.toDigits 10 p) = .ok (some p, []) := by
      have hvalue := portDigits_digits hdigits 0 (by rwa [Nat.ofDigitChars_ten_toDigits])
      rw [Nat.ofDigitChars_ten_toDigits] at hvalue
      obtain ⟨c, cs, htext⟩ := List.exists_cons_of_ne_nil (Nat.toDigits_ne_nil (b := 10) (n := p))
      rw [htext] at hvalue hdigits ⊢
      rw [portDigits, if_pos (hdigits c List.mem_cons_self)] at hvalue ⊢
      exact hvalue
    simp only [portText, Option.elim_some, port, hread, Except.map, if_neg hdefault]

end ResilientChannel.Url.Parser
