import ResilientChannel.Url.Basic

/-!
Reading URLs.

`Url.parse` reads an absolute URL: surrounding blanks and control characters are dropped, and tabs
and line breaks are dropped everywhere. It reads from left to right, scheme, user information, host,
port, path, query and fragment, and the first fault decides.

* The special schemes always have a host, and a backslash counts as a slash in them.
* `file` URLs may have a host, and their paths may begin with a drive letter.
* Any other scheme has an authority only behind two slashes; without a slash its path has no
  structure.
-/

namespace ResilientChannel.Url.Parser

/-! ### Characters -/

/-- Dropped at either end. -/
def isTrimmed (c : Char) : Bool := c.toNat ≤ 0x20

/-- Dropped everywhere. -/
def isSkipped (c : Char) : Bool := c ∈ ['\t', '\n', '\x0d']

/-- The text without what is dropped. -/
def clean (cs : List Char) : List Char :=
  (((cs.dropWhile isTrimmed).reverse.dropWhile isTrimmed).reverse).filter (!isSkipped ·)

/-- A slash, or a backslash where it counts as one. -/
def isSlash (kind : SchemeKind) (c : Char) : Bool := c = '/' || (c = '\\' && kind.isSpecial)

/-- What ends an authority. -/
def endsAuthority (kind : SchemeKind) (c : Char) : Bool := isSlash kind c || c = '?' || c = '#'

/-- What ends a path. -/
def endsPath (c : Char) : Bool := c = '?' || c = '#'

/-! ### Scheme -/

/-- May stand in a scheme behind its first letter. -/
def isSchemeChar (c : Char) : Bool := c.isAlphanum || c ∈ ['+', '-', '.']

/-- Reads a scheme and its colon: the scheme in lower case, and what follows. -/
def scheme? (cs : List Char) : Option (String × List Char) :=
  match cs.span isSchemeChar with
  | (first :: rest, ':' :: after) =>
    if first.isAlpha then some (String.ofList ((first :: rest).map Char.toLower), after) else none
  | _ => none

/-! ### Authority -/

/-- User name and password. -/
structure UserInfo where
  username : String := ""
  password : Option String := none
deriving DecidableEq, Repr, Inhabited

/-- Reads user name and password: a password that is empty is none. -/
def userInfo (cs : List Char) : UserInfo :=
  let (name, rest) := cs.span (· ≠ ':')
  let encoded (cs : List Char) := String.ofList (Percent.encode Percent.inUserInfo cs)
  { username := encoded name
    password := if (rest.drop 1).isEmpty then none else some (encoded (rest.drop 1)) }

/-- Reads the user information in front of the last at sign of the authority. -/
def credentials (kind : SchemeKind) (cs : List Char) :
    Except Fault (Option UserInfo × List Char) :=
  let (authority, after) := cs.span (!endsAuthority kind ·)
  match authority.reverse.span (· ≠ '@') with
  | (back, '@' :: front) =>
    if front.isEmpty && back.isEmpty && !after.isEmpty then .error .emptyHost
    else
      .ok (if front.isEmpty then none else some (userInfo front.reverse), back.reverse ++ after)
  | _ => .ok (none, cs)

/-- How many leading characters belong to the host: a colon ends it outside brackets. -/
def hostLength (kind : SchemeKind) : (inBrackets : Bool) → List Char → Nat
  | _, [] => 0
  | inBrackets, c :: rest =>
    if endsAuthority kind c || (c = ':' && !inBrackets) then 0
    else hostLength kind (if c = '[' then true else if c = ']' then false else inBrackets) rest + 1

/-- Reads a host. -/
def host (kind : SchemeKind) (cs : List Char) : Except Fault (Host × List Char) :=
  let n := hostLength kind false cs
  let hostText := cs.take n
  let rest := cs.drop n
  let parsed :=
    if kind.isSpecial then
      if hostText.isEmpty then .error .emptyHost else Host.parse hostText
    else Host.parseOpen hostText
  match parsed with
  | .error fault => .error fault
  | .ok h => if h = .empty && rest.head? = some ':' then .error .emptyHost else .ok (h, rest)

/-- Reads the digits of a port, up to its end: the number, if there are digits, and what follows. -/
def portDigits : (read : Option Nat) → List Char → Except Fault (Option Nat × List Char)
  | read, [] => .ok (read, [])
  | read, c :: rest =>
    if c.isDigit then
      let n := 10 * read.getD 0 + (c.toNat - 0x30)
      if 65535 < n then .error .invalidPort else portDigits (some n) rest
    else if c ∈ ['/', '\\', '?', '#'] then .ok (read, c :: rest)
    else .error .invalidPort

/-- Reads a port, if there is one. The default of the scheme is none. -/
def port (scheme : String) : List Char → Except Fault (Option Nat × List Char)
  | ':' :: rest =>
    (portDigits none rest).map fun (read, rest) =>
      (if read = defaultPort? scheme then none else read, rest)
  | cs => .ok (none, cs)

/-! ### Path -/

/-- Splits a path into its segments. -/
def splitSegments (kind : SchemeKind) : List Char → List (List Char)
  | [] => [[]]
  | c :: rest =>
    if isSlash kind c then [] :: splitSegments kind rest
    else
      match splitSegments kind rest with
      | segment :: segments => (c :: segment) :: segments
      | [] => [[c]]

/-- A segment in lower case with its encoded dots read. -/
def undot : List Char → List Char
  | '%' :: '2' :: c :: rest =>
    if c.toLower = 'e' then '.' :: undot rest else '%' :: '2' :: undot (c :: rest)
  | c :: rest => c :: undot rest
  | [] => []

/-- The segment stands for the segment itself. -/
def isSingleDot (segment : List Char) : Bool := undot segment = ['.']

/-- The segment stands for the one above. -/
def isDoubleDot (segment : List Char) : Bool := undot segment = ['.', '.']

/-- A drive letter and a colon or bar. -/
def isDrive : List Char → Bool
  | [letter, c] => letter.isAlpha && (c = ':' || c = '|')
  | _ => false

/-- Takes a segment up into the path so far, which is given from its end. Dot segments are resolved,
a last one leaving an empty segment; the drive letter of a `file` URL stays. -/
def climb (kind : SchemeKind) (path : List (List Char)) (segment : List Char) (isLast : Bool) :
    List (List Char) :=
  let close (path : List (List Char)) := if isLast then [] :: path else path
  if isDoubleDot segment then
    match path with
    | [only] => close (if kind = .file && isDrive only then [only] else [])
    | _ => close path.tail
  else if isSingleDot segment then close path
  else if kind = .file && path.isEmpty && isDrive segment then
    [segment.take 1 ++ [':']]
  else Percent.encode Percent.inPath segment :: path

/-- Resolves the segments of a path. -/
def resolve (kind : SchemeKind) (path : List (List Char)) : List (List Char) → List (List Char)
  | [] => path
  | [last] => climb kind path last true
  | segment :: rest => resolve kind (climb kind path segment false) rest

/-- Reads the segments of a path, the slash in front left out. The path of a `file` URL has no empty
segments in front. -/
def segments (kind : SchemeKind) (cs : List Char) : List String :=
  let names := (resolve kind [] (splitSegments kind cs)).reverse
  let names :=
    if kind = .file then
      match names.dropWhile (·.isEmpty) with
      | [] => [[]]
      | names => names
    else names
  names.map String.ofList

/-- Reads a path behind an authority. -/
def pathAfterAuthority (kind : SchemeKind) (cs : List Char) : Path :=
  match cs with
  | [] => .segments (if kind.isSpecial then [""] else [])
  | c :: rest => .segments (segments kind (if isSlash kind c then rest else c :: rest))

/-! ### Query and fragment -/

/-- Reads the query and the fragment that end a URL. -/
def tail (kind : SchemeKind) (cs : List Char) : Option String × Option String :=
  let inQuery := if kind.isSpecial then Percent.inSpecialQuery else Percent.inQuery
  let (query, rest) := cs.span (· ≠ '#')
  (match query with
    | '?' :: query => some (String.ofList (Percent.encode inQuery query))
    | _ => none,
    match rest with
    | '#' :: fragment => some (String.ofList (Percent.encode Percent.inFragment fragment))
    | _ => none)

/-! ### The three kinds of URL -/

/-- Puts the last parts to a URL. -/
def finish (kind : SchemeKind) (u : Url) (cs : List Char) : Url :=
  let (query, fragment) := tail kind cs
  { u with query, fragment }

/-- Reads a URL from its authority on. -/
def withAuthority (scheme : String) (kind : SchemeKind) (cs : List Char) : Except Fault Url :=
  match credentials kind cs with
  | .error fault => .error fault
  | .ok (info, cs) =>
    match host kind cs with
    | .error fault => .error fault
    | .ok (h, cs) =>
      match port scheme cs with
      | .error fault => .error fault
      | .ok (port, cs) =>
        let { username, password } := info.getD {}
        if h = .empty && (username ≠ "" || password.isSome) then .error .emptyHost
        else
          let (pathText, cs) := cs.span (!endsPath ·)
          let path :=
            if !kind.isSpecial && pathText.isEmpty then .segments []
            else pathAfterAuthority kind pathText
          .ok (finish kind { scheme, username, password, host := some h, port, path } cs)

/-- Reads a URL of a scheme that is not special. -/
def other (scheme : String) (cs : List Char) : Except Fault Url :=
  match cs with
  | '/' :: '/' :: rest => withAuthority scheme .other rest
  | _ =>
    let (pathText, rest) := cs.span (!endsPath ·)
    let path :=
      match pathText with
      | '/' :: pathText => .segments (segments .other pathText)
      | _ => .plain (String.ofList (Percent.encode Percent.inControls pathText))
    .ok (finish .other { scheme, path } rest)

/-- Reads the host of a `file` URL: a drive letter is none, and the local host is empty. -/
def fileHost (cs : List Char) : Except Fault (Host × List Char) :=
  let (hostText, rest) := cs.span (!endsAuthority .file ·)
  if isDrive hostText then .ok (.empty, cs)
  else if hostText.isEmpty then .ok (.empty, rest)
  else
    (Host.parse hostText).map fun h => (if h = .domain "localhost" then .empty else h, rest)

/-- Reads a `file` URL. A drive letter leaves no room for a host. -/
def file (cs : List Char) : Except Fault Url :=
  let located :=
    match cs with
    | a :: b :: rest =>
      if isSlash .file a && isSlash .file b then fileHost rest else .ok (.empty, cs)
    | _ => .ok (.empty, cs)
  match located with
  | .error fault => .error fault
  | .ok (h, cs) =>
    let (pathText, rest) := cs.span (!endsPath ·)
    let path := pathAfterAuthority .file pathText
    let startsWithDrive :=
      match path with
      | .segments (first :: _) => isDrive first.toList
      | _ => false
    let h := if startsWithDrive then .empty else h
    .ok (finish .file { scheme := "file", host := some h, path } rest)

end Parser

/-- Reads an absolute URL. -/
def parse (text : String) : Except Fault Url :=
  match Parser.scheme? (Parser.clean text.toList) with
  | none => .error .relativeWithoutBase
  | some (scheme, rest) =>
    match SchemeKind.of scheme with
    | .file => Parser.file rest
    | .special =>
      Parser.withAuthority scheme .special (rest.dropWhile (Parser.isSlash .special))
    | .other => Parser.other scheme rest

end ResilientChannel.Url
