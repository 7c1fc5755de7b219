import SailSim.Json.Value

/-!
# The live viewer

A live viewer follows runs as they happen. It takes JSON text messages, each an envelope with a
`type` and a `payload`, and acknowledges the two that mark a run's boundaries, `start_run` and
`end_run`, with `{"type":"ack","for":TYPE}`; steps are not acknowledged.

The viewer keeps what it saw, in order: each connection with the path it was asked for and the
secret of its query, each message, and each close frame with its code. A message a client
sends again on reconnecting is noted as such; the viewer writes it down as any other. A viewer
may be told to hang up, without a close frame, after acknowledging the end of a run; it then
notes that it dropped the connection. A noisy viewer sends, before each acknowledgement, a
greeting, a text that is not JSON and an acknowledgement of another type; only the last can
reach a waiting client, and the viewer notes none of them.
-/

namespace SailSim.Live

/-- A message: its type and payload. -/
structure Envelope where
  type : String
  payload : Json
  deriving Repr, BEq, Inhabited

/-- The type of the message that opens a run. -/
def startRunType : String := "start_run"

/-- The type of the message that carries a step. -/
def stepType : String := "step"

/-- The type of the message that closes a run. -/
def endRunType : String := "end_run"

/-- What a viewer saw. -/
inductive Event where
  | connect (path secret : String)
  | message (m : Envelope)
  /-- A message sent again on reconnecting. -/
  | replayed (m : Envelope)
  | close (code : Nat)
  /-- The viewer hung up. -/
  | dropped
  deriving Repr, BEq, Inhabited

/-- An event as the viewer writes it down. -/
def Event.toJson : Event → Json
  | .connect path secret => .object [("connect", .string path), ("secret", .string secret)]
  | .message m | .replayed m => .object [("type", .string m.type), ("payload", m.payload)]
  | .close code => .object [("close", Json.nat code)]
  | .dropped => .object [("dropped", .bool true)]

/-- A viewer. -/
structure Viewer where
  /-- Whether it hangs up after acknowledging the end of a run. -/
  dropsAfterEnd : Bool := false
  noisy : Bool := false
  events : Array Event := #[]
  deriving Inhabited

namespace Viewer

/-- The viewer after noting an event. -/
def note (v : Viewer) (e : Event) : Viewer := { v with events := v.events.push e }

/-- The acknowledgements the viewer sends for a message of `type`, in order. -/
def acksFor (v : Viewer) (type : String) : List String := if v.noisy then ["other", type] else [type]

/-- What receiving a message does, `replayed` when it is sent again on reconnecting: the viewer,
the acknowledgements it sends, in order, and whether it keeps the connection. -/
def receive (v : Viewer) (m : Envelope) (replayed : Bool) : Viewer × List String × Bool :=
  let v := v.note (if replayed then .replayed m else .message m)
  if m.type == startRunType then (v, v.acksFor m.type, true)
  else if m.type == endRunType then
    if v.dropsAfterEnd then (v.note .dropped, v.acksFor m.type, false) else (v, v.acksFor m.type, true)
  else (v, [], true)

end Viewer

end SailSim.Live
