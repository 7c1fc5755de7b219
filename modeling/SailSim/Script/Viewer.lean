import SailSim.Script.Scratch
import SailSim.Live.Stream

/-!
# The live viewer script

The script drives a stream (`Live.Stream`) to the URL `url` with the secret `secret`, over the
site's network, with its loops keeping up in real time. `fakes` says how the viewer behaves:
whether it drops the connection after a run's end (`drop`) and whether it is noisy (`noise`).
Commands:

* `init`: dials;
* `startRun`: opens a run, answering its UUID;
* `record`: sends a sample;
* `flood`: sends a sample `count` times, answering how often each error came;
* `endRun`: closes the run with its summary, if any;
* `close`.

The stream is closed once more at the end. The answer holds the command answers and what the
viewer saw.
-/

namespace SailSim.Script

open Json Live Net

/-- Sends a sample `n` times, the loops keeping up, counting each error. -/
def flood (x : StepSample) : Nat → Stream → List (String × Nat) → Stream × List (String × Nat)
  | 0, s, tally => (s, tally)
  | n + 1, s, tally =>
    let (r, s) := s.recordStep x
    let s := s.settle
    match r with
    | .ok () => flood x n s tally
    | .error e => flood x n s (match tally.lookup e with
      | some k => tally.map fun (t, m) => (t, if t == e then k + 1 else m)
      | none => tally ++ [(e, 1)])

/-- Runs one command on the stream. -/
def viewerCommand (site : Site) (url secret : String) (s : Stream) (o : Fields) :
    Outcome (Json × Stream) := do
  if o.has "init" then
    let (r, s) := s.dial url secret
    pure (done r, s.settle)
  else if o.has "startRun" then
    let run ← (← o.record "startRun" "main.RunSpec").run
    let (r, s) := s.startRun run site.fresh (Stream.waiting startRunType)
    match r with
    | .ok uuid => pure (.object [("uuid", .string uuid)], s)
    | .error e => pure (errorReply "error" e, s)
  else if o.has "record" then
    let (r, s) := s.recordStep (← (← o.record "record" "main.SampleSpec").sample "")
    pure (done r, s.settle)
  else if o.has "flood" then
    let f ← o.record "flood" "main.FloodSpec"
    let x ← (← f.record "sample" "main.SampleSpec").sample ""
    let (s, tally) := flood x (← f.count "count") s []
    pure (.object (tally.map fun (e, k) => (e, Json.nat k)), s)
  else if o.has "endRun" then
    let (r, s) := s.endRun (← (← o.record "endRun" "main.EndRunSpec").summary?) (Stream.waiting endRunType)
    pure (done r, s)
  else if o.has "close" then pure (.string "ok", s.close)
  else badInput "empty websocket op"

/-- The live viewer script. -/
def viewerScript (site : Site) (r : Fields) : Outcome Json := do
  let url ← r.text "url"
  let fakes ← r.record "fakes" "main.Fakes"
  let viewer : Viewer := { dropsAfterEnd := ← fakes.flag "drop", noisy := ← fakes.flag "noise" }
  let _ ← r.flag "nilLogger"
  let s : Stream := { network := site.network, viewer }
  let (answers, s) ← runCommands (viewerCommand site url (← r.text "secret")) s
    (← r.records "ops" "main.WebsocketOp")
  let s := s.close
  pure (.object [("results", .array answers), ("server", .array (s.viewer.events.toList.map (·.toJson)))])

end SailSim.Script
