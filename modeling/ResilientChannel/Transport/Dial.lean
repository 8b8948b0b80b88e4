import ResilientChannel.Error
import ResilientChannel.Uri.Parser
import ResilientChannel.Url.Parser

/-!
How connection attempts fail on a host from which no server can be reached.

An attempt fails for its URL if that is unfit, and otherwise for the network. A request takes any
absolute `http` or `https` URL, and credentials that can be read are not shown (`requestFault`). A
socket takes a request URI with an authority and a port, the latter written or known from the scheme
(`socketFault`).
-/

namespace ResilientChannel.Transport

/-- The credentials of a URL can be sent in a header: the user name makes a text, and it is not
empty or goes with a password that makes a text. -/
def hasReadableCredentials (url : Url) : Bool :=
  match Url.Percent.decode? url.username.toList with
  | none => false
  | some username =>
    !username.isEmpty || (url.password.bind (Url.Percent.decode? ·.toList)).isSome

/-- A URL as a request shows it: readable credentials have moved to a header. -/
def shown (url : Url) : Url := if hasReadableCredentials url then url.withoutCredentials else url

/-- How a request for this URL fails. -/
def requestFault (url : String) : RequestFault :=
  match Url.parse url with
  | .error _ => .malformed
  | .ok parsed =>
    let text := (shown parsed).text
    if parsed.namedHost?.isNone || parsed.scheme ∉ ["http", "https"] then .unusable text
    else
      match Uri.parse text with
      | .error _ => .unusable text
      | .ok _ => .unreachable text

/-- The port that a socket is opened to. -/
def socketPort? (uri : Uri) : Option Nat :=
  uri.port? <|>
    (if uri.scheme = some "wss" then some 443
    else if uri.scheme = some "ws" then some 80
    else none)

/-- How a socket to this URL fails. -/
def socketFault (url : String) : SocketFault :=
  match Uri.parse url with
  | .error fault => .malformed fault
  | .ok uri =>
    if uri.authority.isNone then .noHost
    else if (socketPort? uri).isNone then .unsupportedScheme
    else .unreachable

end ResilientChannel.Transport
