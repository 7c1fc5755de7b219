import SailSim.Live.Viewer
import SailSim.Net.Dial
import SailSim.Net.Query
import SailSim.Run.Json

/-!
# Streaming runs to a live viewer

A stream sends a run to a live viewer as it happens: `start_run` with the run, a `step` with
the short form of each sample, and `end_run` with the summary, or `null` without one. The
boundaries of a run wait for the viewer's acknowledgement; steps do not.

The client's calls only queue messages. Loops of their own serve a connection once one is
made: the write loop writes the queued messages in order, and the read loop reads the viewer's
frames and keeps the acknowledgements. When the viewer hangs up or the connection drops, the
loops find the connection lost and a reconnect loop dials again, backing off between attempts;
on the new connection it first sends the opening of the run in progress again. The loops run
alongside the client, so what they do is a sequence of moves (`Move`), and a call that waits
waits while the loops make the moves a schedule chooses for it.

* Dialling puts the secret into the URL's query and needs a `ws` or `wss` URL without user
  information, a connection through the network and a viewer behind it.
* Messages wait in a queue of at most `queueCapacity`; a step that finds it full is refused,
  and a boundary message is then lost.
* The read loop keeps at most `ackCapacity` acknowledgements until a boundary waits for one,
  which passes over the others and takes the first of its own type. Finding none, it gives up
  after `ackTimeout` seconds, or at once when the stream is closed.
* A message written after the viewer hung up is lost, and so are the frames the read loop had
  not read when the connection is found lost.
* The reconnect loop dials `retryAttempts` times at most, waiting `retryInitial` seconds first
  and twice as long after each failure, up to `retryMax`.
* Closing stops the loops and sends the viewer a close frame with the normal code when
  connected. Closing again does nothing.

In real time the loops keep up with the client: after each call they write what waits and
read what came (`Stream.settle`), and a boundary that finds no acknowledgement waits out its
timeout, during which the reconnect loop makes the redials that fall due (`Stream.waiting`).
-/

namespace SailSim.Live

open Json Net

/-- How many messages wait for the write loop at most. -/
def queueCapacity : Nat := 10000

/-- How many acknowledgements are kept at most. -/
def ackCapacity : Nat := 16

/-- The code of a normal close. -/
def normalClosure : Nat := 1000

/-- How long a boundary waits for its acknowledgement, in seconds. -/
def ackTimeout : Nat := 10

/-- How many times the reconnect loop dials at most. -/
def retryAttempts : Nat := 10

/-- The seconds the reconnect loop waits before its first dial. -/
def retryInitial : Nat := 1

/-- The longest the reconnect loop waits between dials, in seconds. -/
def retryMax : Nat := 30

/-- The connection to the viewer, as the loops see it. -/
inductive Link where
  /-- No connection was made. -/
  | idle
  /-- Connected, the loops serving the connection. -/
  | up
  /-- The viewer hung up, or the connection dropped, and the loops have not found out. -/
  | broken
  /-- The loops found the connection lost; `failed` redials have failed since. -/
  | lost (failed : Nat)
  /-- Every redial failed. -/
  | gaveUp
  deriving Repr, BEq, DecidableEq, Inhabited

/-- A move of the loops that serve the connection. -/
inductive Move where
  /-- The write loop writes the first waiting message. -/
  | write
  /-- The read loop reads the viewer's next frame. -/
  | read
  /-- The connection breaks under the loops. -/
  | drop
  /-- The loops find the broken connection lost and tear it down, with the frames not read. -/
  | fail
  /-- The reconnect loop dials again. -/
  | redial
  deriving Repr, BEq, DecidableEq, Inhabited

/-- A stream to a live viewer. -/
structure Stream where
  network : Network
  viewer : Viewer
  link : Link := .idle
  /-- The URL the stream dials, the secret in its query; empty until it is told. -/
  endpoint : String := ""
  /-- Messages waiting for the write loop. -/
  queue : Array Envelope := #[]
  /-- The types of the acknowledgements the viewer sent and the read loop has not read. -/
  frames : List String := []
  /-- The types of the acknowledgements read and not yet taken. -/
  acks : List String := []
  /-- The opening of the run in progress, sent again on reconnecting. -/
  start : Option Envelope := none
  closed : Bool := false
  deriving Inhabited

/-- The viewer's address with `secret` in its query. -/
def viewerUrl (raw secret : String) : Except String Url :=
  match Url.parse raw with
  | .error e => .error ("invalid websocket URL: " ++ e)
  | .ok u => .ok { u with rawQuery := ((Query.parse u.rawQuery).set "secret" secret).encode }

/-- Opens a connection to the endpoint `raw` through `net`: the path and the secret the viewer
is asked for, or why no connection was made. -/
def handshake (net : Network) (raw : String) : Except String (String × String) :=
  match Url.parse raw with
  | .error e => .error e
  | .ok u =>
    if !(u.scheme == "ws" || u.scheme == "wss") || u.user.isSome then .error "malformed ws or wss URL"
    else
      let (host, port) := dialTarget u.host (if u.scheme == "wss" then "443" else "80")
      match net.dial host port with
      | .error e => .error e
      | .ok peer =>
        if u.scheme == "wss" then .error "tls: first record does not look like a TLS handshake"
        else if peer != .viewer then .error "websocket: bad handshake"
        else .ok (if u.path.isEmpty then "/" else u.path, (Query.parse u.rawQuery).get "secret")

/-- The seconds the reconnect loop waits before its dial after `failed` failed ones. -/
def retryBackoff (failed : Nat) : Nat := min (retryInitial * Nat.pow 2 failed) retryMax

/-- How many dials the reconnect loop makes within `t` seconds, after `failed` failed ones,
when they all fail. -/
def redialsWithin (failed t : Nat) : Nat :=
  if failed < retryAttempts ∧ retryBackoff failed ≤ t then
    redialsWithin (failed + 1) (t - retryBackoff failed) + 1
  else 0
termination_by retryAttempts - failed

namespace Stream

/-- Hands a message to the viewer over the connection, `replayed` when it is sent again on
reconnecting: its acknowledgements come back as frames, and the connection breaks when the
viewer hangs up. -/
def deliver (s : Stream) (m : Envelope) (replayed : Bool) : Stream :=
  let (viewer, answers, keeps) := s.viewer.receive m replayed
  { s with viewer, frames := s.frames ++ answers, link := if keeps then s.link else .broken }

/-- Sends the opening of the run in progress again, when there is one. -/
def replayStart (s : Stream) : Stream :=
  match s.start with
  | some m => s.deliver m true
  | none => s

/-- The stream after a move of its loops; the loops of a closed stream have stopped. -/
def move (s : Stream) : Move → Stream
  | .write =>
    if s.closed then s else
    match s.queue[0]?, s.link with
    | some m, .up => { s with queue := s.queue.extract 1 }.deliver m false
    -- written into a connection nobody reads
    | some _, .broken => { s with queue := s.queue.extract 1 }
    | _, _ => s
  | .read =>
    if s.closed then s else
    match s.frames with
    | a :: rest => { s with frames := rest, acks := (s.acks ++ [a]).take ackCapacity }
    | [] => s
  | .drop => if s.link == .up then { s with link := .broken } else s
  | .fail => if s.link == .broken && !s.closed then { s with link := .lost 0, frames := [] } else s
  | .redial =>
    if s.closed then s else
    match s.link with
    | .lost failed =>
      match handshake s.network s.endpoint with
      | .error _ => { s with link := if failed + 1 < retryAttempts then .lost (failed + 1) else .gaveUp }
      | .ok (path, secret) =>
        { s with viewer := s.viewer.note (.connect path secret), link := .up }.replayStart
    | _ => s

/-- The stream after its loops make the moves `ms`, in order. -/
def moves (s : Stream) (ms : List Move) : Stream := ms.foldl move s

/-- The moves the loops make until they wait on something: every waiting message written, then
every frame read, then a broken connection found lost. -/
def settling (s : Stream) : List Move :=
  List.replicate s.queue.size .write ++ List.replicate (s.frames.length + 2 * s.queue.size) .read ++
    [.fail]

/-- The stream once its loops wait on something. -/
def settle (s : Stream) : Stream := s.moves s.settling

/-- The redials of a wait for an acknowledgement of `type`, at most `n` of them, each followed
by the loops settling, until one of that type is read or the connection is not lost. -/
def redialRounds (type : String) : Nat → Stream → List Move
  | 0, _ => []
  | n + 1, s =>
    if s.acks.contains type then [] else
    match s.link with
    | .lost _ =>
      let s' := s.move .redial
      (.redial :: s'.settling) ++ redialRounds type n s'.settle
    | _ => []

/-- The moves of the loops while a boundary waits for an acknowledgement of `type` in real
time: they settle, and while none of that type came and the connection is lost, the reconnect
loop makes the redials that fall due before the wait times out. -/
def waiting (type : String) (s : Stream) : List Move :=
  let first := s.settling
  match s.settle.link with
  | .lost failed => first ++ redialRounds type (redialsWithin failed ackTimeout) s.settle
  | _ => first

/-- Queues a message for the write loop; false when the queue is full. -/
def send (s : Stream) (m : Envelope) : Bool × Stream :=
  if s.queue.size < queueCapacity then (true, { s with queue := s.queue.push m }) else (false, s)

/-- Waits for an acknowledgement of `type`. -/
def awaitAck (s : Stream) (type : String) : Except String Unit × Stream :=
  if s.closed then (.error ("connection closed while waiting for ack of " ++ Text.quote type), s)
  else match s.acks.dropWhile (· != type) with
    | _ :: rest => (.ok (), { s with acks := rest })
    | [] => (.error ("timeout waiting for ack of " ++ Text.quote type), { s with acks := [] })

/-- Sends a message and waits for its acknowledgement while the loops make the moves `during`
chooses. -/
def sendAndWait (s : Stream) (m : Envelope) (during : Stream → List Move) :
    Except String Unit × Stream :=
  let s := (s.send m).2
  (s.moves (during s)).awaitAck m.type

/-- Dials the viewer at `raw` with `secret`. -/
def dial (s : Stream) (raw secret : String) : Except String Unit × Stream :=
  match viewerUrl raw secret with
  | .error e => (.error e, s)
  | .ok endpoint =>
    let s := { s with endpoint := endpoint.render }
    match handshake s.network s.endpoint with
    | .error e => (.error ("websocket dial failed: " ++ e), s)
    | .ok (path, key) =>
      (.ok (), { s with viewer := s.viewer.note (.connect path key), link := .up, frames := [] })

/-- An envelope of `type` around a payload, or why the payload cannot be written. -/
def envelope (type : String) (payload : Encoded) : Except String Envelope :=
  match payload with
  | .ok p => .ok ⟨type, p⟩
  | .error e => .error ("marshal " ++ type ++ " payload: " ++ e)

/-- Opens a run, giving it the UUID `fresh` when it has none, and keeps its opening to send
again on reconnecting; answers the run's UUID. -/
def startRun (s : Stream) (run : Run) (fresh : String) (during : Stream → List Move) :
    Except String String × Stream :=
  let run := if run.uuid.isEmpty then { run with uuid := fresh } else run
  match envelope startRunType (members [("run", run.toJson)]) with
  | .error e => (.error e, s)
  | .ok m =>
    let (r, s) := { s with start := some m }.sendAndWait m during
    (r.map fun () => run.uuid, s)

/-- Sends a step. -/
def recordStep (s : Stream) (x : StepSample) : Except String Unit × Stream :=
  match envelope stepType (StepPayload.ofSample x).toJson with
  | .error e => (.error e, s)
  | .ok m =>
    let (queued, s) := s.send m
    if queued then (.ok (), s) else (.error "websocket send buffer full", s)

/-- The payload of `end_run`: the summary, or `null` without one. -/
def endRunPayload (summary : Option RunSummary) : Encoded :=
  match summary with
  | some sm => members [("summary", sm.toJson)]
  | none => .ok (.object [("summary", .null)])

/-- Closes the run with its summary, if there is one; no opening is sent again after it. -/
def endRun (s : Stream) (summary : Option RunSummary) (during : Stream → List Move) :
    Except String Unit × Stream :=
  match envelope endRunType (endRunPayload summary) with
  | .error e => (.error e, s)
  | .ok m =>
    let (r, s) := s.sendAndWait m during
    (r, { s with start := none })

/-- Closes the stream. -/
def close (s : Stream) : Stream :=
  if s.closed then s else
  { s with closed := true, link := .idle,
           viewer := if s.link == .up then s.viewer.note (.close normalClosure) else s.viewer }

end Stream

end SailSim.Live
