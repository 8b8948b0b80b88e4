import ResilientChannel.Endpoints
import ResilientChannel.Lifecycle
import ResilientChannel.Options
import ResilientChannel.Text.Space
import ResilientChannel.Transport.Polling
import ResilientChannel.Transport.Socket

/-!
Building a channel from its options.

`Channel.build` resolves the endpoints and selects the transport: the socket wherever the
environment supports one, and polling otherwise. The options are refused for their page URL alone.
-/

namespace ResilientChannel

/-- The transport selected for a channel. -/
inductive SelectedTransport
  | socket (transport : Socket)
  | polling (transport : Polling)

namespace SelectedTransport

/-- Selects a transport. -/
def select (endpoints : Endpoints) (capabilities : Capabilities) : SelectedTransport :=
  if capabilities.websocket then socket { url := endpoints.socket }
  else polling { url := endpoints.polling }

/-- The name of the kind of transport. -/
def kind : SelectedTransport → String
  | socket _ => "socket"
  | polling _ => "polling"

/-- The URL that the transport connects to. -/
def url : SelectedTransport → String
  | socket transport => transport.url
  | polling transport => transport.url

/-- The state of the transport. -/
def state : SelectedTransport → ConnectionState
  | socket transport => transport.state
  | polling transport => transport.state

/-- Sends a message, and says whether the transport was open. -/
def send (message : String) (t : SelectedTransport) : Bool × SelectedTransport :=
  if t.state.isOpen then
    (true,
      match t with
      | socket transport => socket (transport.send message)
      | polling transport => polling (transport.send message))
  else (false, t)

end SelectedTransport

/-- A channel before anything has happened to it. -/
structure Channel where
  endpoints : Endpoints
  transport : SelectedTransport
  life : Lifecycle Unit := {}

namespace Channel

/-- Builds a channel. Where the options have no socket id, the fresh one is used. -/
def build (options : Options) (freshId : String) : Except ChannelError Channel :=
  if Text.isBlank options.pageUrl then .error (.endpoint .pageUrlRequired)
  else
    (Endpoints.resolve options.pageUrl options.context options.mount
        (options.socketId.getD freshId)).map fun endpoints =>
      { endpoints, transport := .select endpoints options.capabilities }

/-- The URL of the channel. -/
def url (c : Channel) : String := c.transport.url

/-- Ready to carry frames. -/
def isOpen (c : Channel) : Bool := c.transport.state.isOpen

/-- The channel as seen from outside at `now`. -/
def snapshot (c : Channel) (now : Time) : Snapshot := c.life.snapshot c.transport.state now

end Channel

end ResilientChannel
