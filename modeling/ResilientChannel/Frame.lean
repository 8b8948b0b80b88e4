import ResilientChannel.Parameters

/-!
Outbound frames: data, optionally tagged with an event name.

A tagged frame is written as its event name, the separator and its data; an untagged one is written
as its data alone (`Frame.encode`). Nothing is escaped, so the written form determines the frame
only where the event name is free of separators. The keep-alive frame is `Frame.ping`.
-/

namespace ResilientChannel

/-- One payload for the server. -/
structure Frame where
  event : Option String := none
  data : String
deriving DecidableEq, Repr, Inhabited

namespace Frame

/-- The frame with its event name replaced. -/
def withEvent (f : Frame) (event : String) : Frame := { f with event := some event }

/-- The keep-alive frame. -/
def ping : Frame := withEvent { data := "" } Parameters.pingEvent

/-- The written form of a frame. -/
def encode (f : Frame) : String :=
  match f.event with
  | some event => (event.push Parameters.frameSeparator) ++ f.data
  | none => f.data

@[simp]
theorem encode_untagged (data : String) : encode { data } = data := rfl

theorem encode_tagged (event data : String) :
    encode { event := some event, data } = event.push ':' ++ data := rfl

theorem encode_ping : encode ping = "ping:" := by decide

end Frame

end ResilientChannel
