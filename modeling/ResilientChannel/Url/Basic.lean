import ResilientChannel.Url.Host

/-!
URLs and their written form.

A `Url` has been parsed: its parts are percent-encoded, its path has no dot segments, its port is
left out where it is the default of the scheme. `Url.text` writes it.
-/

namespace ResilientChannel

namespace Url

/-- How a scheme is treated. -/
inductive SchemeKind
  | file
  | special
  | other
deriving DecidableEq, Repr, Inhabited

/-- The schemes with rules of their own, all others being `other`. -/
def SchemeKind.of (scheme : String) : SchemeKind :=
  if scheme = "file" then file
  else if scheme ∈ ["http", "https", "ws", "wss", "ftp"] then special
  else other

/-- Not `other`. -/
def SchemeKind.isSpecial (k : SchemeKind) : Bool := k != .other

/-- The port of a scheme when none is written. -/
def defaultPort? (scheme : String) : Option Nat :=
  if scheme ∈ ["http", "ws"] then some 80
  else if scheme ∈ ["https", "wss"] then some 443
  else if scheme = "ftp" then some 21
  else none

/-- The path of a URL: segments, each behind a slash, or text without any structure. -/
inductive Path
  | segments (names : List String)
  | plain (text : String)
deriving DecidableEq, Repr, Inhabited

/-- The written form of a path. -/
def Path.text : Path → String
  | segments names => String.join (names.map ("/" ++ ·))
  | plain text => text

end Url

/-- A parsed URL. Without a host there is no authority; an authority may have an empty host. -/
structure Url where
  scheme : String
  username : String := ""
  password : Option String := none
  host : Option Url.Host := none
  port : Option Nat := none
  path : Url.Path
  query : Option String := none
  fragment : Option String := none
deriving DecidableEq, Repr

namespace Url

/-- The host, unless it is missing or empty. -/
def namedHost? (u : Url) : Option Host := u.host.filter (· ≠ .empty)

/-- The port in use: the one written or else the default of the scheme. -/
def effectivePort? (u : Url) : Option Nat := u.port <|> defaultPort? u.scheme

/-- The URL without user name and password. -/
def withoutCredentials (u : Url) : Url := { u with username := "", password := none }

/-- The written form of user name and password. -/
def userInfoText (u : Url) : String :=
  match u.password with
  | some password => u.username ++ ":" ++ password ++ "@"
  | none => if u.username = "" then "" else u.username ++ "@"

/-- The written form of the authority, with the slashes in front. A path that would be taken for an
authority is kept apart by a dot segment. -/
def authorityText (u : Url) : String :=
  match u.host with
  | some host =>
    "//" ++ u.userInfoText ++ host.text ++
      (match u.port with
      | some port => ":" ++ toString port
      | none => "")
  | none =>
    match u.path with
    | .segments ("" :: _ :: _) => "/."
    | _ => ""

/-- The written form of a URL. -/
def text (u : Url) : String :=
  u.scheme ++ ":" ++ u.authorityText ++ u.path.text ++
    (match u.query with
    | some query => "?" ++ query
    | none => "") ++
    (match u.fragment with
    | some fragment => "#" ++ fragment
    | none => "")

end Url

end ResilientChannel
