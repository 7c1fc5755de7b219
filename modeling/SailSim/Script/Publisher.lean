import SailSim.Script.Basic
import SailSim.Telemetry.Publisher

/-!
# The publisher script

The script drives a publisher (`Telemetry.Publisher`) over a broker that completes connecting
and publishing as `client` says. Commands: `connect`, `sample` (offered to the run's sink),
`summary`, `topic` (of a run and a leaf) and `close`. The answer holds the command answers and
every request the broker received, in order, or `null` when it received none.
-/

namespace SailSim.Script

open Json Telemetry

/-- A broker request as answers show it. -/
def requestJson : Request → Json
  | .connect => .object [("connect", .bool true)]
  | .publish topic qos retain payload =>
    .object [("topic", .string topic), ("qos", Json.nat qos.toNat), ("retain", .bool retain),
      ("payload", .string payload)]
  | .disconnect q => .object [("disconnect", Json.nat q)]

/-- The answer of a command that succeeded or failed with a message. -/
def settled (r : Except String Unit) : Json :=
  match r with
  | .ok () => .string "ok"
  | .error e => errorReply "error" e

/-- Runs one command on the publisher. -/
def publisherCommand (run : Run) (p : Telemetry.Publisher) (o : Fields) :
    Outcome (Json × Telemetry.Publisher) := do
  if o.has "connect" then
    let (r, p) := p.connect
    pure (settled r, p)
  else if o.has "sample" then
    let (r, p) := p.offer run (← (← o.record "sample" "main.SampleSpec").sample "")
    pure (settled r, p)
  else if o.has "summary" then
    let (r, p) := p.publishSummary (← (← o.record "summary" "main.SummarySpec").summary)
    pure (settled r, p)
  else if o.has "topic" then
    match ← o.decode (Decoder.list "[]string" Decoder.string "") [] "topic" with
    | [runId, leaf] => pure (.string (p.topic runId leaf), p)
    | _ => badInput "topic needs [runId, leaf]"
  else if o.has "close" then pure (.string "ok", p.close)
  else badInput "empty mqtt op"

/-- The publisher script. -/
def publisherScript (r : Fields) : Outcome Json := do
  let cfg ← r.record "cfg" "config.MQTTConfig"
  let client ← r.record "client" "main.MqttClientSpec"
  let broker : Broker := ⟨Completion.ofText (← client.text "connect"),
    Completion.ofText (← client.text "publish")⟩
  let qos ← cfg.decode (Decoder.intIn "uint8" 0 255) 0 "qos"
  let p := Telemetry.Publisher.new (← cfg.text "topicPrefix") (UInt8.ofNat qos.toNat)
    (← cfg.integer "decimate") broker
  let run ← (← r.record "run" "main.RunSpec").run
  let (answers, p) ← runCommands (publisherCommand run) p (← r.records "ops" "main.MqttOp")
  -- a client that received nothing has no list of requests
  let client := if p.requests.isEmpty then Json.null else .array (p.requests.toList.map requestJson)
  pure (.object [("results", .array answers), ("client", client)])

end SailSim.Script
