import ResilientChannel.Json.Parser
import ResilientChannel.Json.Printer
import ResilientChannel.Notice
import ResilientChannel.Options

/-!
The written forms of options and of connectivity.

* A structure is written as the object of its fields in a fixed order, and read from an object that
  holds any of them, once each and in any order; the others take their defaults, and keys that are
  no fields are passed over. It is also read from an array of its first fields.
* A status is written as its name, and read also from the object that has the name for its only key
  and nothing behind it.
-/

namespace ResilientChannel

open Json

/-- Members whose keys are texts. -/
def Json.textKeyed (members : List (Option String × Json)) : Bool := members.all (·.1.isSome)

/-- Reads a structure from an object, or from an array of the values of its first fields. -/
def Json.record? {α : Type} (fields : List String)
    (read : List (Option String × Json) → Option α) : Json → Option α
  | object members => if textKeyed members then read members else none
  | array elements =>
    if elements.length ≤ fields.length then read ((fields.map some).zip elements) else none
  | _ => none

namespace Capabilities

/-- The keys of the fields. -/
def fields : List String := ["websocket"]

/-- Reads capabilities from members. -/
def ofMembers? (members : List (Option String × Json)) : Option Capabilities := do
  let websocket ← field? members "websocket" bool? ({} : Capabilities).websocket
  return { websocket }

/-- Reads capabilities. -/
def ofJson? : Json → Option Capabilities := record? fields ofMembers?

/-- Writes capabilities. -/
def toJson (c : Capabilities) : Json := object [(some "websocket", bool c.websocket)]

end Capabilities

namespace Options

/-- The keys of the fields. -/
def fields : List String := ["page_url", "url_context", "url_prefix", "socket_id", "capabilities"]

/-- Reads options from members. -/
def ofMembers? (members : List (Option String × Json)) : Option Options := do
  let unset : Options := {}
  let pageUrl ← field? members "page_url" text? unset.pageUrl
  let context ← field? members "url_context" text? unset.context
  let mount ← field? members "url_prefix" text? unset.mount
  let socketId ← field? members "socket_id" (nullable? text?) unset.socketId
  let capabilities ← field? members "capabilities" Capabilities.ofJson? unset.capabilities
  return { pageUrl, context, mount, socketId, capabilities }

/-- Reads options. -/
def ofJson? : Json → Option Options := record? fields ofMembers?

/-- Writes options. -/
def toJson (o : Options) : Json :=
  object
    [(some "page_url", string (some o.pageUrl)),
      (some "url_context", string (some o.context)),
      (some "url_prefix", string (some o.mount)),
      (some "socket_id",
        match o.socketId with
        | some id => string (some id)
        | none => null),
      (some "capabilities", o.capabilities.toJson)]

/-- Reads options from the text of a document. -/
def parse? (text : String) : Option Options := (Json.parse? text).bind ofJson?

/-- The text of options. -/
def print (o : Options) : String := o.toJson.print

end Options

namespace NetworkStatus

/-- Reads a status. -/
def ofJson? : Json → Option NetworkStatus
  | string (some name) => ofName? name
  | object [(some name, null)] => ofName? name
  | _ => none

/-- Writes a status. -/
def toJson (s : NetworkStatus) : Json := string (some s.name)

end NetworkStatus

end ResilientChannel
