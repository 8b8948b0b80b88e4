import ResilientChannel.Url.Fault
import ResilientChannel.Url.Percent

/-!
IPv6 addresses as hosts.

* `Ipv6.parse` reads eight pieces of up to four hexadecimal digits, with at most one gap `::` that
  stands for one zero piece or more, and possibly with an IPv4 address for the last two pieces.
* `Ipv6.text` writes the pieces without leading zeros, and puts a gap for the first of the longest
  runs of at least two zero pieces.
-/

namespace ResilientChannel.Url

/-- An IPv6 address: its eight pieces. -/
structure Ipv6 where
  pieces : List Nat
  length_eq : pieces.length = 8
deriving DecidableEq, Repr

namespace Ipv6

/-! ### Reading -/

/-- Up to `n` leading hexadecimal digits, as their value and count, and what follows them. -/
def hexDigits : (n : Nat) → (value count : Nat) → List Char → Nat × Nat × List Char
  | n + 1, value, count, c :: rest =>
    match Hex.value? c with
    | some d => hexDigits n (16 * value + d) (count + 1) rest
    | none => (value, count, c :: rest)
  | _, value, count, cs => (value, count, cs)

/-- The value of a decimal byte: no leading zero, no more than 255. -/
def byte? (cs : List Char) : Option Nat :=
  match cs with
  | [] => none
  | ['0'] => some 0
  | '0' :: _ => none
  | cs =>
    if cs.all (·.isDigit) then
      let n := cs.foldl (fun n c => 10 * n + (c.toNat - 0x30)) 0
      if n < 256 then some n else none
    else none

/-- The two pieces of an embedded IPv4 address. -/
def embedded? (cs : List Char) : Option (List Nat) :=
  match (cs.splitOn '.').mapM byte? with
  | some [a, b, c, d] => some [256 * a + b, 256 * c + d]
  | _ => none

/-- The pieces in front of a gap and, behind a gap, those after it. -/
structure Reading where
  front : List Nat
  back : Option (List Nat)

/-- How many pieces have been read, a gap counting for one. -/
def Reading.count (r : Reading) : Nat :=
  match r.back with
  | none => r.front.length
  | some back => r.front.length + 1 + back.length

/-- The reading with another piece. -/
def Reading.push (r : Reading) (piece : Nat) : Reading :=
  match r.back with
  | none => { r with front := r.front ++ [piece] }
  | some back => { r with back := some (back ++ [piece]) }

/-- Reads pieces up to the end, given the reading so far. There are no more pieces than `fuel`. -/
def readPieces : (fuel : Nat) → Reading → List Char → Option Reading
  | _, r, [] => some r
  | 0, _, _ => none
  | fuel + 1, r, ':' :: rest =>
    match r.back with
    | none => if r.count < 8 then readPieces fuel { r with back := some [] } rest else none
    | some _ => none
  | fuel + 1, r, cs =>
    if 8 ≤ r.count then none
    else
      let (value, count, rest) := hexDigits 4 0 0 cs
      match rest with
      | [] => some (r.push value)
      | ':' :: [] => none
      | ':' :: rest => readPieces fuel (r.push value) rest
      | '.' :: _ =>
        if count = 0 ∨ 6 < r.count then none
        else (embedded? cs).map fun pieces => pieces.foldl .push r
      | _ => none

/-- The eight pieces of a reading: a gap makes up what is missing. -/
def Reading.pieces? (r : Reading) : Option Ipv6 :=
  let all :=
    match r.back with
    | none => r.front
    | some back => r.front ++ List.replicate (8 - (r.front.length + back.length)) 0 ++ back
  if h : all.length = 8 then some ⟨all, h⟩ else none

/-- Reads an address. -/
def parse (cs : List Char) : Except Fault Ipv6 :=
  let reading :=
    match cs with
    | ':' :: ':' :: rest => readPieces cs.length { front := [], back := some [] } rest
    | ':' :: _ => none
    | [] => none
    | [_] => none
    | cs => readPieces cs.length { front := [], back := none } cs
  match reading.bind (·.pieces?) with
  | some address => .ok address
  | none => .error .invalidIpv6

/-! ### Writing -/

/-- The longest run of zero pieces, as its start and length; of equal runs the first. `start` and
`length` describe the run that ends here, `index` the next piece. -/
def longestRun : (index start length : Nat) → (best : Nat × Nat) → List Nat → Nat × Nat
  | _, start, length, best, [] => if best.2 < length then (start, length) else best
  | index, start, length, best, p :: ps =>
    if p = 0 then
      longestRun (index + 1) (if length = 0 then index else start) (length + 1) best ps
    else
      longestRun (index + 1) start 0 (if best.2 < length then (start, length) else best) ps

/-- The pieces as hexadecimal numbers between colons. -/
def colons (pieces : List Nat) : String :=
  ":".intercalate (pieces.map fun p => String.ofList (Nat.toDigits 16 p))

/-- The written form of an address. -/
def text (a : Ipv6) : String :=
  let (start, length) := longestRun 0 0 0 (0, 0) a.pieces
  if length < 2 then colons a.pieces
  else colons (a.pieces.take start) ++ "::" ++ colons (a.pieces.drop (start + length))

end Ipv6

end ResilientChannel.Url
