import SailSim.Run.Json
import SailSim.Run.Decode

/-!
# Run exports

An export holds one recorded run: the run, its summary when it ended with one, the track as a
GeoJSON line string and every sample. It is written as one line of compact JSON; reading takes
the first JSON value of a text and leaves what follows it alone.
-/

namespace SailSim

open Json

/-- One recorded run. -/
structure Export where
  run : Run
  summary : Option RunSummary := none
  /-- The GeoJSON of the track; missing when the text had none. -/
  track : Option Json := none
  samples : List StepSample := []

namespace Export

/-- `{"run", "summary" (when present), "track", "samples"}`. -/
def toJson (e : Export) : Encoded :=
  members ([("run", e.run.toJson)] ++
    (match e.summary with
     | some s => [("summary", s.toJson)]
     | none => []) ++
    [("track", .ok (e.track.getD .null)), ("samples", items (e.samples.map StepSample.toJson))])

/-- The text of an export file: the compact JSON and a newline. -/
def text (e : Export) : Except String String := (fun j => compact j ++ "\n") <$> e.toJson

/-- An export with nothing recorded. -/
def empty : Export :=
  { run := { uuid := "", name := "", frame := "", startTime := Instant.zero, timeStep := 0,
             duration := 0, home := ⟨0, 0, 0⟩ } }

/-- Reads an export. -/
def decoder : Decoder Export := Decoder.record "memory.RunExport" [
  Decoder.field "run" (·.run) (fun e x => { e with run := x }) Decoder.runRecord,
  Decoder.field "summary" (·.summary) (fun e x => { e with summary := x })
    (Decoder.optional {} Decoder.runSummary),
  Decoder.field "track" (·.track) (fun e x => { e with track := x })
    (fun _ _ j => .ok (some j, none)),
  Decoder.field "samples" (·.samples) (fun e x => { e with samples := x })
    (Decoder.list "[]core.StepSample" Decoder.stepSample (StepSample.zero))]

/-- The export a text holds. -/
def ofText (s : String) : Except String Export := do
  let j ← parseFirst s
  (Decoder.runValue decoder "RunExport" empty j).mapError (·.message)

end Export

end SailSim
