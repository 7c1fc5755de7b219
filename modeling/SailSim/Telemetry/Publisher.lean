import SailSim.Run.Json
import SailSim.Json.Write
import SailSim.Json.Decode

/-!
# Publishing samples to a message broker

A publisher sends every `decimate`-th sample of a run, counting from the first, to the topic
`prefix/run/state`, and a run's summary to `prefix/run/summary` as a retained message. Topics
are joined with slashes whatever the parts hold.

The broker is described by how it completes each kind of request: at once, never (the
publisher gives up waiting), or with an error. The publisher waits for connecting and for the
summary, and does not wait for samples, so a sample's publication always succeeds once its
payload is written. A payload with a value that is not finite cannot be written; the sample
still counts towards the decimation.

Every request made of the broker is kept in order: connecting, each publication with its
topic, quality of service, retain flag and payload, and disconnecting.
-/

namespace SailSim.Telemetry

open Json

/-- How a broker completes a request. -/
inductive Completion where
  | done
  /-- The request never completes. -/
  | timeout
  | failed (text : String)
  deriving Repr, BEq, Inhabited

/-- The completion that a request's text names: empty for at once, `timeout`, or
`error:` followed by the error's text. -/
def Completion.ofText (s : String) : Completion :=
  if s == "timeout" then .timeout
  else if s.startsWith "error:" then .failed (s.drop 6).copy
  else .done

/-- A broker, by how it completes connecting and publishing. -/
structure Broker where
  connect : Completion := .done
  publish : Completion := .done
  deriving Repr, Inhabited

/-- A request made of the broker. -/
inductive Request where
  | connect
  | publish (topic : String) (qos : UInt8) (retain : Bool) (payload : String)
  /-- Disconnecting, allowing in-flight messages this many milliseconds. -/
  | disconnect (quiesce : Nat)
  deriving Repr, BEq, Inhabited

/-- A publisher. -/
structure Publisher where
  topicPrefix : String
  qos : UInt8
  /-- Every how many samples one is published, at least one. -/
  decimate : Nat
  broker : Broker
  /-- How many samples were offered. -/
  seen : Nat := 0
  requests : Array Request := #[]
  deriving Inhabited

namespace Publisher

/-- A publisher; a decimation below one means every sample. -/
def new (topicPrefix : String) (qos : UInt8) (decimate : Int) (broker : Broker) : Publisher :=
  { topicPrefix, qos, decimate := if decimate < 1 then 1 else decimate.toNat, broker }

/-- The topic of a run's leaf. -/
def topic (p : Publisher) (runId leaf : String) : String :=
  p.topicPrefix ++ "/" ++ runId ++ "/" ++ leaf

/-- Connects to the broker and waits for it. -/
def connect (p : Publisher) : Except String Unit × Publisher :=
  let p := { p with requests := p.requests.push .connect }
  match p.broker.connect with
  | .done => (.ok (), p)
  | .timeout => (.error "MQTT connect timeout", p)
  | .failed t => (.error ("MQTT connect failed: " ++ t), p)

/-- Offers a sample of a run: published when its count is a multiple of the decimation. -/
def offer (p : Publisher) (run : Run) (s : StepSample) : Except String Unit × Publisher :=
  let n := p.seen
  let p := { p with seen := n + 1 }
  if n % p.decimate != 0 then (.ok (), p) else
  match (StepPayload.ofSample s).toJson with
  | .error e => (.error e, p)
  | .ok payload =>
    let req := Request.publish (p.topic run.uuid "state") p.qos false (Json.compact payload)
    (.ok (), { p with requests := p.requests.push req })

/-- Publishes a run's summary as a retained message and waits for it. -/
def publishSummary (p : Publisher) (sm : RunSummary) : Except String Unit × Publisher :=
  match sm.toJson with
  | .error e => (.error e, p)
  | .ok payload =>
    let req := Request.publish (p.topic sm.runId "summary") p.qos true (Json.compact payload)
    let p := { p with requests := p.requests.push req }
    match p.broker.publish with
    | .done => (.ok (), p)
    | .timeout => (.error "MQTT publish timeout", p)
    | .failed t => (.error t, p)

/-- Disconnects, allowing in-flight messages 250 milliseconds. -/
def close (p : Publisher) : Publisher := { p with requests := p.requests.push (.disconnect 250) }

end Publisher

end SailSim.Telemetry
