import Mathlib
import SailSim.Telemetry.Publisher

/-!
# Decimated publication to the broker

The sink a publisher gives a run counts every sample it is offered and publishes those whose
count is a multiple of the decimation, each to the run's state topic, not retained, with the
JSON of the sample's viewer payload. A payload with a number that is not finite has no JSON: the
sink answers the write's error and publishes nothing, and the sample still counts.

* `Publisher.offer_requests`, `Publisher.offer_answer` : one offer publishes the sample's message
  exactly when the count before it is a multiple of the decimation;
* `Publisher.offerAll_requests`, `Publisher.offerAll_answers` : over a sequence of samples the
  one at position `i` is handled at count `seen + i`;
* `Publisher.new_sink_publishes_decimated` : **the sink of a new publisher publishes, in order,
  exactly the 1st, `(D+1)`-th, `(2D+1)`-th, … samples whose payload can be written, with
  `D = max(decimate, 1)`, each to `prefix/run/state`; it answers the write's error for such a
  sample whose payload cannot be written, and `ok` for every other sample;**
* `Publisher.nan_time_first_sample_not_published` : the first sample is not published when its
  time is NaN.

The count is the publisher's, not the sink's: a second sink made on the same publisher goes on
from the count the first one reached.
-/

namespace SailSim.Telemetry

namespace Publisher

/-- The sink of `run` offered the samples `xs` in order: its answer to each, and the publisher
after the last. -/
def offerAll (p : Publisher) (run : Run) : List StepSample → List (Except String Unit) × Publisher
  | [] => ([], p)
  | s :: ss =>
    let o := p.offer run s
    let rest := o.2.offerAll run ss
    (o.1 :: rest.1, rest.2)

/-- The message that publishes `s` on the state topic of `run`, when its payload can be
written. -/
def stateMessage (p : Publisher) (run : Run) (s : StepSample) : Option Request :=
  (StepPayload.ofSample s).toJson.toOption.map fun j =>
    .publish (p.topic run.uuid "state") p.qos false (Json.compact j)

variable (p : Publisher) (run : Run) (s : StepSample)

/-! ### One offer -/

/-- What one offer does: the count goes up by one; at a multiple of the decimation the sample's
message is published when its payload can be written, and the write's answer returned. -/
theorem offer_eq : p.offer run s =
    if p.seen % p.decimate = 0 then
      ((StepPayload.ofSample s).toJson.map fun _ => (),
        { p with seen := p.seen + 1, requests := p.requests ++ (p.stateMessage run s).toArray })
    else (.ok (), { p with seen := p.seen + 1 }) := by
  unfold offer
  by_cases hn : p.seen % p.decimate = 0
  · cases hj : (StepPayload.ofSample s).toJson <;>
      simp [hn, hj, stateMessage, topic, Except.map, Except.toOption]
  · simp [hn]

@[simp] theorem offer_seen : (p.offer run s).2.seen = p.seen + 1 := by
  rw [offer_eq]
  split <;> rfl

@[simp] theorem offer_decimate : (p.offer run s).2.decimate = p.decimate := by
  rw [offer_eq]
  split <;> rfl

/-- An offer leaves the topic prefix and the quality of service, and so every message. -/
@[simp] theorem stateMessage_offer (run' : Run) :
    (p.offer run s).2.stateMessage run' = p.stateMessage run' := by
  rw [offer_eq]
  split <;> rfl

theorem offer_requests :
    (p.offer run s).2.requests.toList =
      p.requests.toList ++ if p.seen % p.decimate = 0 then (p.stateMessage run s).toList else [] := by
  rw [offer_eq]
  split <;> simp

theorem offer_answer :
    (p.offer run s).1 =
      if p.seen % p.decimate = 0 then (StepPayload.ofSample s).toJson.map fun _ => () else .ok () := by
  rw [offer_eq]
  split <;> rfl

/-! ### A sequence of offers -/

@[simp] theorem offerAll_seen (xs : List StepSample) :
    (p.offerAll run xs).2.seen = p.seen + xs.length := by
  induction xs generalizing p with
  | nil => simp [offerAll]
  | cons s ss ih =>
    simp only [offerAll, ih, offer_seen, List.length_cons]
    omega

/-- The sink publishes the message of each sample handled at a count that is a multiple of the
decimation, in order, after the requests made before. -/
theorem offerAll_requests (xs : List StepSample) :
    (p.offerAll run xs).2.requests.toList = p.requests.toList ++
      (xs.zipIdx p.seen).filterMap fun e =>
        if e.2 % p.decimate = 0 then p.stateMessage run e.1 else none := by
  induction xs generalizing p with
  | nil => simp [offerAll]
  | cons s ss ih =>
    simp only [offerAll, ih, offer_requests, offer_seen, offer_decimate, stateMessage_offer,
      List.zipIdx_cons, List.append_assoc]
    by_cases hn : p.seen % p.decimate = 0
    · cases hm : p.stateMessage run s <;> simp [hn, hm]
    · simp [hn]

/-- The sink answers the payload's write for each sample handled at a multiple of the
decimation, and `ok` for the others. -/
theorem offerAll_answers (xs : List StepSample) :
    (p.offerAll run xs).1 = (xs.zipIdx p.seen).map fun e =>
      if e.2 % p.decimate = 0 then (StepPayload.ofSample e.1).toJson.map (fun _ => ()) else .ok () := by
  induction xs generalizing p with
  | nil => simp [offerAll]
  | cons s ss ih =>
    simp only [offerAll, ih, offer_answer, offer_seen, offer_decimate, List.zipIdx_cons,
      List.map_cons]

/-! ### A new publisher's sink -/

/-- A decimation below one means every sample. -/
theorem new_decimate (topicPrefix : String) (qos : UInt8) (decimate : Int) (broker : Broker) :
    (new topicPrefix qos decimate broker).decimate = (max decimate 1).toNat := by
  show (if decimate < 1 then 1 else decimate.toNat) = (max decimate 1).toNat
  split <;> omega

/-- **A new publisher's sink publishes the 1st, `(D+1)`-th, `(2D+1)`-th, … samples.** Offered
any sequence of samples, the sink of `run` on a publisher just made publishes, in order, those
at the positions `0, D, 2D, …` (counting from zero, `D = max(decimate, 1)`) whose viewer payload
can be written as JSON, each to `prefix/uuid/state` at the publisher's quality of service, not
retained, with the payload's compact JSON. It answers the write's error for a sample at such a
position whose payload cannot be written, and `ok` for every other sample. -/
theorem new_sink_publishes_decimated (topicPrefix : String) (qos : UInt8) (decimate : Int)
    (broker : Broker) (run : Run) (xs : List StepSample) :
    ((new topicPrefix qos decimate broker).offerAll run xs).2.requests.toList =
        xs.zipIdx.filterMap (fun e =>
          if e.2 % (max decimate 1).toNat = 0 then
            (StepPayload.ofSample e.1).toJson.toOption.map fun j =>
              .publish (topicPrefix ++ "/" ++ run.uuid ++ "/" ++ "state") qos false (Json.compact j)
          else none) ∧
      ((new topicPrefix qos decimate broker).offerAll run xs).1 =
        xs.zipIdx.map (fun e =>
          if e.2 % (max decimate 1).toNat = 0 then
            (StepPayload.ofSample e.1).toJson.map (fun _ => ())
          else .ok ()) := by
  rw [offerAll_requests, offerAll_answers, new_decimate]
  exact ⟨by simp [new, stateMessage, topic], rfl⟩

/-- A run with the UUID `r` and every other field empty or zero. -/
def bareRun : Run :=
  { uuid := "r", name := "", frame := "", startTime := Instant.zero, timeStep := 0, duration := 0,
    home := ⟨0, 0, 0⟩ }

/-- The first sample offered to a new publisher that publishes every sample is not published
when its time is NaN: its payload has no JSON, and the sink answers the write's error. -/
theorem nan_time_first_sample_not_published :
    ((new "sailsim" 1 1 {}).offer bareRun { StepSample.zero with simTime := 0 / 0 }).2.requests.size = 0 ∧
      ((new "sailsim" 1 1 {}).offer bareRun { StepSample.zero with simTime := 0 / 0 }).1.isOk = false := by
  decide +kernel

end Publisher

end SailSim.Telemetry
