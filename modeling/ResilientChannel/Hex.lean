/-!
Hexadecimal digits: read in either case, written in the case that a format asks for.
-/

namespace ResilientChannel.Hex

/-- The value of a digit. -/
def value? (c : Char) : Option Nat :=
  if '0' ≤ c ∧ c ≤ '9' then some (c.toNat - 0x30)
  else if 'a' ≤ c ∧ c ≤ 'f' then some (c.toNat - 0x57)
  else if 'A' ≤ c ∧ c ≤ 'F' then some (c.toNat - 0x37)
  else none

/-- The digit of a value, in upper case. -/
def upper (n : Nat) : Char := Char.ofNat (if n < 10 then 0x30 + n else 0x37 + n)

/-- The digit of a value, in lower case. -/
def lower (n : Nat) : Char := Char.ofNat (if n < 10 then 0x30 + n else 0x57 + n)

theorem value?_lower {n : Nat} (h : n < 16) : value? (lower n) = some n :=
  (by decide : ∀ n < 16, value? (lower n) = some n) n h

end ResilientChannel.Hex
