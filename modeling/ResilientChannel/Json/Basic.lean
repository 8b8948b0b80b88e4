/-!
JSON documents as values.

* A `Json` keeps its members in the order of the document, repetitions included; a number is its
  literal.
* The escapes of a string may leave half of a surrogate pair. Such a string is well formed but makes
  no text, and stands as `none`, both as a value and as a key.
* `Json.occurrences` and `Json.field?` are how a structure reads its fields from an object.
-/

namespace ResilientChannel

/-- A JSON document. -/
inductive Json
  | null
  | bool (value : Bool)
  | number (literal : String)
  | string (text : Option String)
  | array (elements : List Json)
  | object (members : List (Option String × Json))
deriving Inhabited

namespace Json

/-- The values that a key has among members, in order. -/
def occurrences (key : String) (members : List (Option String × Json)) : List Json :=
  (members.filter (·.1 == some key)).map (·.2)

/-- Reads the field of a key among members. A missing field has a default, and a field given twice
is refused. -/
def field? {α : Type} (members : List (Option String × Json)) (key : String)
    (read : Json → Option α) (default : α) : Option α :=
  match occurrences key members with
  | [] => some default
  | [value] => read value
  | _ => none

/-- The truth value of a document that is one. -/
def bool? : Json → Option Bool
  | bool value => some value
  | _ => none

/-- The text of a document that is one. -/
def text? : Json → Option String
  | string text => text
  | _ => none

/-- A document that may be `null` in place of what it would be read as. -/
def nullable? {α : Type} (read : Json → Option α) : Json → Option (Option α)
  | null => some none
  | json => (read json).map some

end Json

end ResilientChannel
