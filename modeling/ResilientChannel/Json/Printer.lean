import ResilientChannel.Hex
import ResilientChannel.Json.Basic

/-!
Writing JSON, without blanks.

In a string the quote, the backslash and the control characters are escaped, the usual ones by a
letter and the others by four lower-case hexadecimal digits (`Json.escape`). A string that makes no
text is written as half of a surrogate pair.
-/

namespace ResilientChannel.Json

/-- The letter that stands for a control character behind a backslash. -/
def controlLetter? (c : Char) : Option Char :=
  match c with
  | '\x08' => some 'b'
  | '\t' => some 't'
  | '\n' => some 'n'
  | '\x0c' => some 'f'
  | '\r' => some 'r'
  | _ => none

/-- The written form of a character in a string. -/
def escape (c : Char) : List Char :=
  if c = '"' || c = '\\' then ['\\', c]
  else if c.toNat < 0x20 then
    match controlLetter? c with
    | some letter => ['\\', letter]
    | none => ['\\', 'u', '0', '0', Hex.lower (c.toNat / 16), Hex.lower (c.toNat % 16)]
  else [c]

/-- The written form of a string. -/
def quote (text : Option String) : List Char :=
  '"' :: (match text with
    | some s => s.toList.flatMap escape
    | none => ['\\', 'u', 'd', '8', '0', '0']) ++ ['"']

/-- Puts commas between written forms. -/
def separate (forms : List (List Char)) : List Char := [','].intercalate forms

mutual

/-- The written form of a document. -/
def written : Json → List Char
  | null => "null".toList
  | bool true => "true".toList
  | bool false => "false".toList
  | number literal => literal.toList
  | string text => quote text
  | array elements => '[' :: separate (writtenElements elements) ++ [']']
  | object members => '\x7b' :: separate (writtenMembers members) ++ ['\x7d']

/-- The written forms of elements. -/
def writtenElements : List Json → List (List Char)
  | [] => []
  | j :: js => written j :: writtenElements js

/-- The written forms of members. -/
def writtenMembers : List (Option String × Json) → List (List Char)
  | [] => []
  | (key, j) :: ms => (quote key ++ ':' :: written j) :: writtenMembers ms

end

/-- The text of a document. -/
def print (json : Json) : String := String.ofList json.written

end ResilientChannel.Json
