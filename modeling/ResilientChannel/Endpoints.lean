import ResilientChannel.Error
import ResilientChannel.Parameters
import ResilientChannel.Url.Parser

/-!
The endpoints of a channel, derived from the URL of the hosting page.

* The socket endpoint is on the page's host and port, under the socket scheme that goes with the
  page's (`Endpoints.socketOrigin`, `Endpoints.socketEndpoint`).
* The polling endpoint continues the page's URL itself, less one fragment mark
  (`Endpoints.baseUrl`, `Endpoints.pollingEndpoint`).
-/

namespace ResilientChannel

/-- The two addresses at which a server may be reached. -/
structure Endpoints where
  socket : String
  polling : String
deriving DecidableEq, Repr

namespace Endpoints

/-- The page's URL without its first fragment mark and with a slash at its end. -/
def baseUrl (pageUrl : String) : String :=
  let base := pageUrl.toList.erase '#'
  String.ofList (if base.getLast? = some '/' then base else base ++ ['/'])

/-- The socket scheme that goes with a page's scheme. -/
def socketScheme? (scheme : String) : Option String :=
  if scheme ∈ ["http", "ws"] then some "ws"
  else if scheme ∈ ["https", "wss"] then some "wss"
  else none

/-- Scheme, host and port of the socket endpoint. -/
def socketOrigin (pageUrl : String) : Except ChannelError String :=
  match Url.parse pageUrl with
  | .error fault => .error (.url fault)
  | .ok url =>
    match socketScheme? url.scheme with
    | none => .error (.endpoint (.unsupportedScheme url.scheme pageUrl))
    | some scheme =>
      match url.namedHost? with
      | none => .error (.endpoint (.noHost pageUrl))
      | some host =>
        let origin := scheme ++ "://" ++ host.text
        match url.port with
        | some port => .ok (origin ++ ":" ++ toString port)
        | none => .ok origin

/-- The query that carries the socket id. -/
def idQuery (socketId : String) : String := "?" ++ Parameters.socketIdParam ++ "=" ++ socketId

/-- The address for sockets. -/
def socketEndpoint (pageUrl context mount socketId : String) : Except ChannelError String :=
  (socketOrigin pageUrl).map fun origin =>
    origin ++ context ++ mount ++ Parameters.socketPath ++ idQuery socketId

/-- The address for polls. -/
def pollingEndpoint (pageUrl mount socketId : String) : Except ChannelError String :=
  match Url.parse pageUrl with
  | .error fault => .error (.url fault)
  | .ok _ => .ok (baseUrl pageUrl ++ mount ++ Parameters.pollingPath ++ idQuery socketId)

/-- Both addresses. -/
def resolve (pageUrl context mount socketId : String) : Except ChannelError Endpoints :=
  match socketEndpoint pageUrl context mount socketId with
  | .error e => .error e
  | .ok socket =>
    match pollingEndpoint pageUrl mount socketId with
    | .error e => .error e
    | .ok polling => .ok { socket, polling }

end Endpoints

end ResilientChannel
