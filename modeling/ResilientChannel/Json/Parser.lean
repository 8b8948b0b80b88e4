import ResilientChannel.Hex
import ResilientChannel.Json.Basic

/-!
Reading JSON.

`Json.parse?` accepts exactly the documents of the JSON grammar: blanks are spaces, tabs and line
ends, a string holds no control character, a number has no leading zero, and nothing follows the
document. Every reader takes what it needs from the front and returns the rest.

* `Json.codePoints?` reads a string to its closing quote. Escapes are read one at a time, so that
  they may stand for half of a surrogate pair; `Json.joinPairs?` joins the halves.
* `Json.number?` splits off the literal of a number, the longest there is.
* `Json.value?` reads a value. Values nest, so it is followed down to a depth; twice the length of
  the document is always enough.
-/

namespace ResilientChannel.Json

/-- A character between tokens. -/
def isBlank (c : Char) : Bool := c = ' ' || c = '\t' || c = '\n' || c = '\r'

/-- What stands behind the blanks in front. -/
def skipBlanks (cs : List Char) : List Char := cs.dropWhile isBlank

/-! ### Strings -/

/-- The value of digits in base sixteen. -/
def hexNumber? (cs : List Char) : Option Nat :=
  cs.foldlM (fun n c => (Hex.value? c).map (16 * n + ·)) 0

/-- What a character stands for behind a backslash. -/
def unescape? (c : Char) : Option Char :=
  match c with
  | '"' => some '"'
  | '\\' => some '\\'
  | '/' => some '/'
  | 'b' => some '\x08'
  | 'f' => some '\x0c'
  | 'n' => some '\n'
  | 'r' => some '\r'
  | 't' => some '\t'
  | _ => none

/-- The code points of a string up to its closing quote, and what follows the quote. -/
def codePoints? : List Char → Option (List Nat × List Char)
  | [] => none
  | '"' :: rest => some ([], rest)
  | '\\' :: 'u' :: a :: b :: c :: d :: rest =>
    (hexNumber? [a, b, c, d]).bind fun n => (codePoints? rest).map fun (ns, rest) => (n :: ns, rest)
  | '\\' :: c :: rest =>
    (unescape? c).bind fun e => (codePoints? rest).map fun (ns, rest) => (e.toNat :: ns, rest)
  | c :: rest =>
    if c = '\\' || c.toNat < 0x20 then none
    else (codePoints? rest).map fun (ns, rest) => (c.toNat :: ns, rest)

/-- The first half of a surrogate pair. -/
def isHighHalf (n : Nat) : Bool := 0xd800 ≤ n && n < 0xdc00

/-- The second half of a surrogate pair. -/
def isLowHalf (n : Nat) : Bool := 0xdc00 ≤ n && n < 0xe000

/-- The text of code points, with the halves of surrogate pairs joined; a half on its own makes no
text. -/
def joinPairs? : List Nat → Option (List Char)
  | [] => some []
  | n :: ns =>
    if isHighHalf n then
      match ns with
      | m :: rest =>
        if isLowHalf m then
          (joinPairs? rest).map (Char.ofNat (0x10000 + 0x400 * (n - 0xd800) + (m - 0xdc00)) :: ·)
        else none
      | [] => none
    else if isLowHalf n then none
    else (joinPairs? ns).map (Char.ofNat n :: ·)

/-- The text of a string behind its opening quote, if it makes one, and what follows. -/
def stringBody? (cs : List Char) : Option (Option String × List Char) :=
  (codePoints? cs).map fun (ns, rest) => ((joinPairs? ns).map String.ofList, rest)

/-! ### Numbers -/

/-- The digits in front, and the rest. -/
def digits (cs : List Char) : List Char × List Char := cs.span (·.isDigit)

/-- A part of a number that may be missing: a mark, an optional sign and at least one digit. -/
def numberPart (isMark isSign : Char → Bool) (cs : List Char) : List Char × List Char :=
  match cs with
  | mark :: rest =>
    let (sign, unsigned) :=
      match rest with
      | s :: tail => if isSign s then ([s], tail) else ([], rest)
      | [] => ([], rest)
    let (ds, rest) := digits unsigned
    if isMark mark && !ds.isEmpty then (mark :: sign ++ ds, rest) else ([], cs)
  | [] => ([], cs)

/-- The literal of a number in front, and the rest. A whole part of more than one digit does not
begin with zero. -/
def number? (cs : List Char) : Option (List Char × List Char) :=
  let (sign, unsigned) :=
    match cs with
    | '-' :: rest => (['-'], rest)
    | _ => ([], cs)
  let whole :=
    match unsigned with
    | '0' :: rest => (['0'], rest)
    | _ => digits unsigned
  let (fraction, rest) := numberPart (· == '.') (fun _ => false) whole.2
  let (exponent, rest) :=
    numberPart (fun c => c == 'e' || c == 'E') (fun c => c == '+' || c == '-') rest
  if whole.1.isEmpty then none else some (sign ++ whole.1 ++ fraction ++ exponent, rest)

/-! ### Values -/

mutual

/-- The value in front, and the rest. -/
def value? : (depth : Nat) → List Char → Option (Json × List Char)
  | 0, _ => none
  | depth + 1, cs =>
    match skipBlanks cs with
    | 'n' :: 'u' :: 'l' :: 'l' :: rest => some (null, rest)
    | 't' :: 'r' :: 'u' :: 'e' :: rest => some (bool true, rest)
    | 'f' :: 'a' :: 'l' :: 's' :: 'e' :: rest => some (bool false, rest)
    | '"' :: rest => (stringBody? rest).map fun (text, rest) => (string text, rest)
    | '[' :: rest =>
      match skipBlanks rest with
      | ']' :: rest => some (array [], rest)
      | rest => (elements? depth rest).map fun (js, rest) => (array js, rest)
    | '\x7b' :: rest =>
      match skipBlanks rest with
      | '\x7d' :: rest => some (object [], rest)
      | rest => (members? depth rest).map fun (ms, rest) => (object ms, rest)
    | rest => (number? rest).map fun (literal, rest) => (number (String.ofList literal), rest)

/-- The elements of an array, of which there is at least one, up to its end, and the rest. -/
def elements? : (depth : Nat) → List Char → Option (List Json × List Char)
  | 0, _ => none
  | depth + 1, cs =>
    (value? depth cs).bind fun (j, rest) =>
      match skipBlanks rest with
      | ']' :: rest => some ([j], rest)
      | ',' :: rest => (elements? depth rest).map fun (js, rest) => (j :: js, rest)
      | _ => none

/-- The members of an object, of which there is at least one, up to its end, and the rest. -/
def members? : (depth : Nat) → List Char → Option (List (Option String × Json) × List Char)
  | 0, _ => none
  | depth + 1, cs =>
    match skipBlanks cs with
    | '"' :: rest =>
      (stringBody? rest).bind fun (key, rest) =>
        match skipBlanks rest with
        | ':' :: rest =>
          (value? depth rest).bind fun (j, rest) =>
            match skipBlanks rest with
            | '\x7d' :: rest => some ([(key, j)], rest)
            | ',' :: rest => (members? depth rest).map fun (ms, rest) => ((key, j) :: ms, rest)
            | _ => none
        | _ => none
    | _ => none

end

/-- Reads a document. -/
def parse? (text : String) : Option Json :=
  let cs := text.toList
  (value? (2 * cs.length + 1) cs).bind fun (j, rest) =>
    if (skipBlanks rest).isEmpty then some j else none

end ResilientChannel.Json
