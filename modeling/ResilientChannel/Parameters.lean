import ResilientChannel.Time

/-!
The fixed numbers and names of a channel.

* **Pacing.** An idle channel pings after `pingInterval`, presumes the connection dead after a
  silence longer than `staleAfter`, and waits between attempts by the cubic law whose unit, cap and
  fallback are `backoffUnit`, `attemptCap` and `backoffFallback`.
* **Names.** The names of the lifecycle events, of the keep-alive frame, and of the paths and the
  query parameter that make up the two endpoints.
-/

namespace ResilientChannel.Parameters

/-! ### Pacing -/

/-- Silence after the last inbound activity before a ping is due. -/
def pingInterval : Time := .ms 25000

/-- A silence longer than this makes an open connection presumed dead. -/
def staleAfter : Time := .ms 45000

/-- The attempt counter stops here. -/
def attemptCap : Nat := 8

/-- A disconnect is reported to the application once the counter exceeds this. -/
def reportThreshold : Nat := 3

/-- Milliseconds per unit of the cubic backoff law. -/
def backoffUnit : Nat := 100

/-- Milliseconds to wait when the backoff law cannot be computed. -/
def backoffFallback : Nat := 1001

/-- The bound on a socket's closing handshake. -/
def closeTimeout : Time := .ms 5000

/-! ### Names -/

/-- The event of inbound data. -/
def messageEvent : String := "message"

/-- The event of an opened connection. -/
def connectEvent : String := "connect"

/-- The event of a lost connection. -/
def disconnectEvent : String := "disconnect"

/-- The event of a transport failure. -/
def errorEvent : String := "error"

/-- The event name of the keep-alive frame. -/
def pingEvent : String := "ping"

/-- What stands between the event name and the data of a frame. -/
def frameSeparator : Char := ':'

/-- The query parameter that carries the socket id. -/
def socketIdParam : String := "SBSocketId"

/-- The last part of the socket endpoint's path. -/
def socketPath : String := "/websocket"

/-- The last part of the polling endpoint's path. -/
def pollingPath : String := "/async"

end ResilientChannel.Parameters
