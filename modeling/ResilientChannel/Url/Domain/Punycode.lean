/-!
Punycode: labels beyond ASCII written within ASCII.

* `Punycode.encode` writes the characters within ASCII, a hyphen if there are any, and then for each
  further character, in ascending order, how far it lies from the one before it. Distances are
  written in digits of varying weight, and the weights adapt to the distances seen so far.
* `Punycode.decode?` reads such a text back.
-/

namespace ResilientChannel.Url.Domain.Punycode

/-! ### Digits and weights -/

/-- The character of a digit: letters, then decimal digits. -/
def digitChar (d : Nat) : Char :=
  if d < 26 then Char.ofNat (0x61 + d) else Char.ofNat (0x30 + d - 26)

/-- The digit of a character. -/
def digitValue? (c : Char) : Option Nat :=
  if 'a' ≤ c ∧ c ≤ 'z' then some (c.toNat - 0x61)
  else if 'A' ≤ c ∧ c ≤ 'Z' then some (c.toNat - 0x41)
  else if '0' ≤ c ∧ c ≤ '9' then some (c.toNat - 0x30 + 26)
  else none

/-- The threshold of the digit at place `k`: a smaller digit is the last one. -/
def threshold (k bias : Nat) : Nat :=
  if k ≤ bias then 1 else if bias + 26 ≤ k then 26 else k - bias

theorem threshold_pos (k bias : Nat) : 0 < threshold k bias := by
  unfold threshold; split <;> (try split) <;> omega

theorem threshold_le (k bias : Nat) : threshold k bias ≤ 26 := by
  unfold threshold; split <;> (try split) <;> omega

/-- Brings a distance down to the range of one digit, counting the places that it takes. -/
def scaleDown (delta k : Nat) : Nat × Nat :=
  if 455 < delta then scaleDown (delta / 35) (k + 36) else (delta, k)
termination_by delta
decreasing_by exact Nat.div_lt_self (by omega) (by omega)

/-- The bias after a distance, `points` characters having been placed. -/
def adapt (delta points : Nat) (isFirst : Bool) : Nat :=
  let delta := if isFirst then delta / 700 else delta / 2
  let (delta, k) := scaleDown (delta + delta / points) 0
  k + 36 * delta / (delta + 38)

/-! ### Encoding -/

/-- The digits of a distance, from place `k` on. -/
def digits (bias k q : Nat) : List Char :=
  let t := threshold k bias
  if q < t then [digitChar q]
  else digitChar (t + (q - t) % (36 - t)) :: digits bias (k + 36) ((q - t) / (36 - t))
termination_by q
decreasing_by
  have h1 := threshold_pos k bias
  have h2 := threshold_le k bias
  calc (q - threshold k bias) / (36 - threshold k bias)
      ≤ q - threshold k bias := Nat.div_le_self _ _
    _ < q := by omega

/-- Where the encoder stands: the digits so far, the distance since the last character, the bias and
the number of characters placed. -/
structure Encoder where
  out : List Char := []
  delta : Nat := 0
  bias : Nat := 72
  placed : Nat
deriving Repr

/-- Passes over a character of the text while placing the code point `m`; `basic` characters were
placed at the start. -/
def Encoder.pass (basic m : Nat) (e : Encoder) (c : Char) : Encoder :=
  if c.toNat < m then { e with delta := e.delta + 1 }
  else if c.toNat = m then
    { out := e.out ++ digits e.bias 36 e.delta
      delta := 0
      bias := adapt e.delta (e.placed + 1) (e.placed = basic)
      placed := e.placed + 1 }
  else e

/-- Places the code points beyond ASCII, given in ascending order, from `n` on. -/
def Encoder.place (text : List Char) (basic : Nat) : List Nat → (n : Nat) → Encoder → Encoder
  | [], _, e => e
  | m :: rest, n, e =>
    let e := { e with delta := e.delta + (m - n) * (e.placed + 1) }
    let e := text.foldl (Encoder.pass basic m) e
    Encoder.place text basic rest (m + 1) { e with delta := e.delta + 1 }

/-- Puts a number into an ascending list without doubles. -/
def insert (n : Nat) : List Nat → List Nat
  | [] => [n]
  | m :: rest => if n < m then n :: m :: rest else if n = m then m :: rest else m :: insert n rest

/-- The code points beyond ASCII of a text, ascending and without doubles. -/
def extended (text : List Char) : List Nat :=
  ((text.map Char.toNat).filter (0x80 ≤ ·)).foldr insert []

/-- The written form of a text. -/
def encode (text : List Char) : List Char :=
  let basic := text.filter (·.toNat < 0x80)
  let e := Encoder.place text basic.length (extended text) 0x80 { placed := basic.length }
  basic ++ (if basic.isEmpty then [] else ['-']) ++ e.out

/-! ### Decoding -/

/-- Reads a distance: the index that it leads to from `i`, and what follows its digits. -/
def readDistance (bias : Nat) : List Char → (k weight i : Nat) → Option (Nat × List Char)
  | [], _, _, _ => none
  | c :: rest, k, weight, i =>
    match digitValue? c with
    | none => none
    | some d =>
      if d < threshold k bias then some (i + d * weight, rest)
      else readDistance bias rest (k + 36) (weight * (36 - threshold k bias)) (i + d * weight)

/-- The character of a code point, if it is one. -/
def char? (n : Nat) : Option Char := if n.isValidChar then some (Char.ofNat n) else none

/-- Reads the characters beyond ASCII and puts them in their places. `n` and `i` are the code point
and the place of the last one. There are no more of them than `fuel`. -/
def place : (fuel : Nat) → (text : List Char) → (n i bias : Nat) → List Char → Option (List Char)
  | _, text, _, _, _, [] => some text
  | 0, _, _, _, _, _ => none
  | fuel + 1, text, n, i, bias, cs =>
    match readDistance bias cs 36 1 i with
    | none => none
    | some (reached, rest) =>
      let points := text.length + 1
      match char? (n + reached / points) with
      | none => none
      | some c =>
        let at_ := reached % points
        place fuel (text.insertIdx at_ c) (n + reached / points) (at_ + 1)
          (adapt (reached - i) points (i = 0)) rest

/-- Splits at the last hyphen that has something in front of it. -/
def splitBasic (cs : List Char) : List Char × List Char :=
  match cs.reverse.span (· ≠ '-') with
  | (back, '-' :: front@(_ :: _)) => (front.reverse, back.reverse)
  | _ => ([], cs)

/-- Reads a text back. -/
def decode? (cs : List Char) : Option (List Char) :=
  let (basic, rest) := splitBasic cs
  if basic.all (·.toNat < 0x80) then place rest.length basic 0x80 0 72 rest else none

end ResilientChannel.Url.Domain.Punycode
