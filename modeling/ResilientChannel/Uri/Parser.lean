import ResilientChannel.Uri.Fault

/-!
Request URIs, as they are read before a connection is opened.

A `Uri` is split into scheme, authority and what follows, and nothing is decoded or normalized
(`Uri.parse`). Without a scheme it is a bare authority, or a bare path behind a slash. Beyond ASCII
only paths and queries go.
-/

namespace ResilientChannel

/-- A request URI. -/
structure Uri where
  scheme : Option String := none
  authority : Option String := none
  /-- Path and query, without the fragment. -/
  target : String := ""
deriving DecidableEq, Repr, Inhabited

namespace Uri

/-! ### Characters -/

/-- May stand in a scheme. -/
def isSchemeChar (c : Char) : Bool := c.isAlphanum || c ∈ ['+', '-', '.', '~']

/-- May stand in an authority or end it. -/
def isUriChar (c : Char) : Bool :=
  c.isAlphanum ||
    c ∈ ['!', '#', '$', '&', '\x27', '(', ')', '*', '+', ',', '-', '.', '/', ':', ';', '=', '?',
      '@', '[', ']', '_', '~']

/-- May stand in a path. -/
def isPathChar (c : Char) : Bool :=
  '!' ≤ c && c ∉ ['#', '<', '>', '?', '\x60']

/-- May stand in a query. -/
def isQueryChar (c : Char) : Bool :=
  '!' ≤ c && c ∉ ['"', '#', '<', '>']

/-- Ends an authority. -/
def endsAuthority (c : Char) : Bool := c ∈ ['/', '?', '#']

/-! ### Limits -/

/-- The longest URI, in bytes. -/
def maxLength : Nat := 65534

/-- The longest scheme. -/
def maxScheme : Nat := 64

/-- The most colons that an authority may hold at once. -/
def maxColons : Nat := 8

/-! ### Authority -/

/-- What has been seen of an authority: the colons and the percent signs that could still belong to
the host, the brackets, and whether an at sign came last. -/
structure Scan where
  colons : Nat := 0
  openBracket : Bool := false
  closeBracket : Bool := false
  percent : Bool := false
  atSign : Bool := false
deriving DecidableEq, Repr, Inhabited

/-- Looks at the next character of an authority. -/
def Scan.next (s : Scan) (c : Char) : Except Fault Scan :=
  let s := { s with atSign := c = '@' }
  if c = ':' then
    if maxColons ≤ s.colons then .error .invalidAuthority else .ok { s with colons := s.colons + 1 }
  else if c = '[' then
    if s.percent || s.openBracket then .error .invalidAuthority
    else .ok { s with openBracket := true }
  else if c = ']' then
    if !s.openBracket || s.closeBracket then .error .invalidAuthority
    else .ok { s with closeBracket := true, colons := 0, percent := false }
  else if c = '@' then .ok { s with colons := 0, percent := false }
  else if c = '%' then .ok { s with percent := true }
  else if isUriChar c then .ok s
  else .error .invalidCharacter

/-- What an authority has to satisfy as a whole. -/
def Scan.isWhole (s : Scan) : Bool :=
  s.openBracket = s.closeBracket && s.colons ≤ 1 && !s.atSign && !s.percent

/-- Reads an authority: it and what follows. -/
def readAuthority (cs : List Char) : Except Fault (List Char × List Char) :=
  let (authority, rest) := cs.span (!endsAuthority ·)
  match authority.foldlM Scan.next {} with
  | .error fault => .error fault
  | .ok scan => if scan.isWhole then .ok (authority, rest) else .error .invalidAuthority

/-! ### Path and query -/

/-- Reads a path and a query, and drops the fragment. -/
def readTarget (cs : List Char) : Except Fault String :=
  let (path, rest) := cs.span fun c => c ≠ '?' && c ≠ '#'
  let query :=
    match rest with
    | '?' :: rest => rest.takeWhile (· ≠ '#')
    | _ => []
  if path.all isPathChar && query.all isQueryChar then
    .ok (String.ofList (cs.takeWhile (· ≠ '#')))
  else .error .invalidCharacter

/-! ### The whole -/

/-- Reads a scheme and the colon and slashes behind it: the scheme and what follows. Text that has
none is left as it is, and so are a colon and slashes alone. -/
def readScheme (cs : List Char) : Except Fault (Option (List Char) × List Char) :=
  match cs.span isSchemeChar with
  | (scheme, ':' :: '/' :: '/' :: rest) =>
    if scheme.isEmpty && rest.isEmpty then .ok (none, cs)
    else if maxScheme < scheme.length then .error .schemeTooLong
    else .ok (some scheme, rest)
  | _ => .ok (none, cs)

/-- Reads a URI that does not begin with a slash. -/
def readFull (cs : List Char) : Except Fault Uri :=
  match readScheme cs with
  | .error fault => .error fault
  | .ok (scheme, rest) =>
    if rest.isEmpty then .error .empty
    else
      match readAuthority rest with
      | .error fault => .error fault
      | .ok (authority, rest) =>
        match scheme with
        | none =>
          if rest.isEmpty then .ok { authority := some (String.ofList authority) }
          else .error .invalidFormat
        | some scheme =>
          if authority.isEmpty then .error .invalidFormat
          else
            (readTarget rest).map fun target =>
              { scheme := some (String.ofList scheme)
                authority := some (String.ofList authority)
                target }

/-- Reads a request URI. -/
def parse (text : String) : Except Fault Uri :=
  if maxLength < text.utf8ByteSize then .error .tooLong
  else
    match text.toList with
    | [] => .error .empty
    | ['*'] => .ok { target := "*" }
    | ['?'] => .error .invalidCharacter
    | ['#'] => .error .invalidCharacter
    | '/' :: rest => (readTarget ('/' :: rest)).map fun target => { target }
    | cs => readFull cs

/-- The port written in the authority. A plus sign may stand in front of it. -/
def port? (u : Uri) : Option Nat :=
  u.authority.bind fun authority =>
    let cs := authority.toList
    if ':' ∈ cs then
      let digits := (cs.reverse.takeWhile (· ≠ ':')).reverse
      let digits :=
        match digits with
        | '+' :: rest => rest
        | _ => digits
      if digits.isEmpty || !digits.all (·.isDigit) then none
      else
        let n := digits.foldl (fun n c => 10 * n + (c.toNat - 0x30)) 0
        if n < 65536 then some n else none
    else none

end Uri

end ResilientChannel
