import ResilientChannel.Url.Percent

/-!
Tables of characters, written as hexadecimal numbers.

A table is a text of numbers between blanks and line ends (`Numerals.read`), taken in groups of two,
three or five (`Numerals.pairs`, `Numerals.triples`, `Numerals.quintuples`). A `Run` is a group that
stands for consecutive characters.
-/

namespace ResilientChannel.Url.Domain

namespace Numerals

/-- The numbers read so far, the latest first, and the one being read. -/
structure Reading where
  done : List Nat := []
  current : Option Nat := none

/-- The reading with the number being read finished. -/
def Reading.finish (r : Reading) : List Nat :=
  match r.current with
  | some n => n :: r.done
  | none => r.done

/-- Reads the hexadecimal numbers between the blanks of a text. -/
def read (text : String) : List Nat :=
  let reading := text.foldl (fun r c =>
    match Hex.value? c with
    | some d => { r with current := some (16 * r.current.getD 0 + d) }
    | none => { done := r.finish, current := none }) ({} : Reading)
  reading.finish.reverse

/-- Groups of two. -/
def pairs : List Nat → List (Nat × Nat)
  | a :: b :: rest => (a, b) :: pairs rest
  | _ => []

/-- Groups of three. -/
def triples : List Nat → List (Nat × Nat × Nat)
  | a :: b :: c :: rest => (a, b, c) :: triples rest
  | _ => []

/-- Groups of five. -/
def quintuples : List Nat → List (Nat × Nat × Nat × Nat × Nat)
  | a :: b :: c :: d :: e :: rest => (a, b, c, d, e) :: quintuples rest
  | _ => []

/-- Groups that say how long they are: a number, a length, and as many more numbers. There are no
more groups than `fuel`. -/
def entries : (fuel : Nat) → List Nat → List (Nat × List Nat)
  | fuel + 1, a :: n :: rest => (a, rest.take n) :: entries fuel (rest.drop n)
  | _, _ => []

end Numerals

/-- A run of consecutive characters with a value. -/
structure Run where
  first : Nat
  count : Nat
  value : Nat := 0
deriving DecidableEq, Repr, Inhabited

namespace Run

/-- The character lies in the run. -/
def contains (r : Run) (c : Char) : Bool := r.first ≤ c.toNat && c.toNat < r.first + r.count

/-- Runs without values. -/
def ofPairs (text : String) : Array Run :=
  ((Numerals.pairs (Numerals.read text)).map fun (first, count) => { first, count }).toArray

/-- Runs with values. -/
def ofTriples (text : String) : Array Run :=
  ((Numerals.triples (Numerals.read text)).map
    fun (first, count, value) => { first, count, value }).toArray

/-- The value of the run that a character lies in. -/
def value? (runs : Array Run) (c : Char) : Option Nat := (runs.find? (·.contains c)).map (·.value)

end Run

end ResilientChannel.Url.Domain
