import ResilientChannel.Hex

/-!
Percent-encoding.

* `Percent.encode` writes the characters of a set as the bytes of their UTF-8 form, two hexadecimal
  digits behind a percent sign each. Every part of a URL has a set of its own; all of them hold the
  control characters and everything beyond ASCII.
* `Percent.decode?` reads such triples back. A percent sign that does not begin a triple stands for
  itself, and bytes that are not UTF-8 make no text.
-/

namespace ResilientChannel.Url.Percent

/-! ### Sets -/

/-- A control character, or one beyond ASCII. -/
def inControls (c : Char) : Bool := c.toNat < 0x20 || 0x7f ≤ c.toNat

/-- Encoded in a fragment. -/
def inFragment (c : Char) : Bool := inControls c || c ∈ [' ', '"', '<', '>', '\x60']

/-- Encoded in a path. -/
def inPath (c : Char) : Bool := inFragment c || c ∈ ['#', '?', '\x7b', '\x7d']

/-- Encoded in a user name or a password. -/
def inUserInfo (c : Char) : Bool :=
  inPath c || c ∈ ['/', ':', ';', '=', '@', '[', '\\', ']', '^', '|']

/-- Encoded in a query. -/
def inQuery (c : Char) : Bool := inControls c || c ∈ [' ', '"', '#', '<', '>']

/-- Encoded in the query of a URL with a special scheme. -/
def inSpecialQuery (c : Char) : Bool := inQuery c || c = '\x27'

/-! ### Encoding -/

/-- The triple of a byte. -/
def encodeByte (b : UInt8) : List Char := ['%', Hex.upper (b.toNat / 16), Hex.upper (b.toNat % 16)]

/-- Encodes the characters of a set. -/
def encode (inSet : Char → Bool) (cs : List Char) : List Char :=
  cs.flatMap fun c => if inSet c then (String.utf8EncodeChar c).flatMap encodeByte else [c]

/-! ### Decoding -/

/-- The bytes of a text with its triples read. -/
def decodeBytes : List Char → List UInt8
  | [] => []
  | '%' :: hi :: lo :: rest =>
    match Hex.value? hi, Hex.value? lo with
    | some h, some l => UInt8.ofNat (16 * h + l) :: decodeBytes rest
    | _, _ => 0x25 :: decodeBytes (hi :: lo :: rest)
  | c :: rest => String.utf8EncodeChar c ++ decodeBytes rest

/-- The text with its triples read, if it is one. -/
def decode? (cs : List Char) : Option (List Char) :=
  if '%' ∈ cs then (String.fromUTF8? ⟨(decodeBytes cs).toArray⟩).map (·.toList) else some cs

theorem decode?_of_not_mem {cs : List Char} (h : '%' ∉ cs) : decode? cs = some cs := by
  simp [decode?, h]

end ResilientChannel.Url.Percent
