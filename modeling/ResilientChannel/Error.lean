import ResilientChannel.Uri.Fault
import ResilientChannel.Url.Fault

/-!
Everything that can go wrong with a channel, as causes.

* `SocketFault` and `RequestFault` are failures of the two transports. They never reach the
  application as values, only as the text of `error` events.
* `EndpointFault` is a page URL that parses but has no endpoints.
* `ChannelError` gathers these with the misuse of a channel, and `ChannelError.message` is the one
  place where the wording stands.
-/

namespace ResilientChannel

/-- Why a socket could not be opened. -/
inductive SocketFault
  | malformed (fault : Uri.Fault)
  | unsupportedScheme
  | noHost
  | unreachable
deriving DecidableEq, Repr

/-- The wording of a socket fault. -/
def SocketFault.message : SocketFault → String
  | malformed fault => "HTTP format error: " ++ fault.message
  | unsupportedScheme => "URL error: URL scheme not supported"
  | noHost => "URL error: No host name in the URL"
  | unreachable => "IO error: Network is unreachable (os error 101)"

/-- Why a request failed: its text is no URL, its URL is not one for requests, the server was not
reached, it answered with an error status, or the body of its answer was cut short. -/
inductive RequestFault
  | malformed
  | unusable (url : String)
  | unreachable (url : String)
  | status (code : Nat) (reason : String) (url : String)
  | body
deriving DecidableEq, Repr

/-- The wording of a request fault. Codes from 500 on are the server's errors. -/
def RequestFault.message : RequestFault → String
  | malformed => "builder error"
  | unusable url => "builder error for url (" ++ url ++ ")"
  | unreachable url => "error sending request for url (" ++ url ++ ")"
  | status code reason url =>
    "HTTP status " ++ (if code < 500 then "client" else "server") ++ " error (" ++
      toString code ++ " " ++ reason ++ ") for url (" ++ url ++ ")"
  | body => "error decoding response body"

/-- Why a page URL has no endpoints. -/
inductive EndpointFault
  | pageUrlRequired
  | unsupportedScheme (scheme : String) (pageUrl : String)
  | noHost (pageUrl : String)
deriving DecidableEq, Repr

/-- The wording of an endpoint fault. -/
def EndpointFault.message : EndpointFault → String
  | pageUrlRequired => "page URL is required"
  | unsupportedScheme scheme pageUrl => "unsupported scheme '" ++ scheme ++ "' in " ++ pageUrl
  | noHost pageUrl => "no host in " ++ pageUrl

/-- What can go wrong when a channel is built or used. -/
inductive ChannelError
  | socket (fault : SocketFault)
  | request (fault : RequestFault)
  | url (fault : Url.Fault)
  | endpoint (fault : EndpointFault)
  | unknownEvent (name : String)
  | closed
deriving DecidableEq, Repr

/-- The wording of an error. -/
def ChannelError.message : ChannelError → String
  | socket fault => "WebSocket error: " ++ fault.message
  | request fault => "HTTP error: " ++ fault.message
  | url fault => "URL parse error: " ++ fault.message
  | endpoint fault => "Invalid endpoint: " ++ fault.message
  | unknownEvent name => "Unknown event type: " ++ name
  | closed => "Channel closed"

end ResilientChannel
