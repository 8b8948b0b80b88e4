import ResilientChannel.Url.Fault
import ResilientChannel.Url.Percent

/-!
IPv4 addresses as hosts.

A host whose last label is a number is an IPv4 address or nothing. Up to four numbers are read, in
decimal, in octal behind a zero, or in hexadecimal behind `0x`; each but the last stands for one
byte, and the last one fills what is left (`Ipv4.parse`). Written are always four decimal bytes
(`Ipv4.text`).
-/

namespace ResilientChannel.Url

/-- An IPv4 address. -/
structure Ipv4 where
  value : UInt32
deriving DecidableEq, Repr, Inhabited

namespace Ipv4

/-- Splits at full stops. -/
def labels (cs : List Char) : List (List Char) := cs.splitOn '.'

/-- The value of a digit in a base up to sixteen. -/
def digit? (base : Nat) (c : Char) : Option Nat :=
  (Hex.value? c).filter (· < base)

/-- The value of digits in a base. -/
def value? (base : Nat) (cs : List Char) : Option Nat :=
  cs.foldlM (fun n c => (digit? base c).map (base * n + ·)) 0

/-- Reads a number; its form decides the base. A prefix alone stands for zero. -/
def number? : List Char → Option Nat
  | [] => none
  | '0' :: 'x' :: rest => value? 16 rest
  | '0' :: 'X' :: rest => value? 16 rest
  | '0' :: c :: rest => value? 8 (c :: rest)
  | cs => value? 10 cs

/-- The labels without the empty one behind a final full stop. -/
def dropFinalEmpty (ls : List (List Char)) : List (List Char) :=
  if ls.getLast? = some [] then ls.dropLast else ls

/-- The last label is a number, in digits alone or in one of the forms that `number?` reads. -/
def endsInNumber (cs : List Char) : Bool :=
  match (dropFinalEmpty (labels cs)).getLast? with
  | some last => (!last.isEmpty && last.all (·.isDigit)) || (number? last).isSome
  | none => false

/-- Puts the leading bytes in front of the value of the last number. -/
def assemble (leading : List Nat) (last : Nat) : Option Ipv4 :=
  let room := 1 <<< (8 * (4 - leading.length))
  if last < room && leading.length < 4 && leading.all (· < 256) then
    some ⟨UInt32.ofNat (leading.foldl (fun n b => 256 * n + b) 0 * room + last)⟩
  else none

/-- Reads an address. -/
def parse (cs : List Char) : Except Fault Ipv4 :=
  match (dropFinalEmpty (labels cs)).mapM number? with
  | some numbers =>
    match numbers.getLast? with
    | some last =>
      match assemble numbers.dropLast last with
      | some address => .ok address
      | none => .error .invalidIpv4
    | none => .error .invalidIpv4
  | none => .error .invalidIpv4

/-- The four bytes, the most significant first. -/
def bytes (a : Ipv4) : List Nat :=
  let n := a.value.toNat
  [n >>> 24, (n >>> 16) % 256, (n >>> 8) % 256, n % 256]

/-- The written form of an address. -/
def text (a : Ipv4) : String := ".".intercalate (a.bytes.map toString)

end Ipv4

end ResilientChannel.Url
