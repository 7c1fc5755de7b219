import Mathlib
import SailSim.Proofs.SimClock
import SailSim.Proofs.Exact

/-!
# The distance sailed, measured twice

A run measures how far the boat went in two ways. The summary's distance adds, after every
step, the horizontal ground speed times the time step; its track length is the length of the
east/north polyline through the boat's position before the run and after every step. Both are
read off the simulations the run passes through, its course (`Sim.course`): the distance is
`courseDistance` of it and the track length `courseLength`.

* `Runner.run_measures_course` : the summary of every run, cancelled or not, holds exactly these
  two measures of the course the run took, the track length when the geometry library measures
  a line by the sum of its segments (`Geo.LineMeasure.SumsSegments`).
* `Sim.segmentLength_stepAs` : in exact arithmetic a step moves the boat by its new velocity
  times the time step, so the step's segment of the track is as long as the new ground speed
  times the time step.
* `courseLength_eq_courseDistance` : hence in exact arithmetic the two measures agree along
  every course.
* **`Runner.track_length_eq_distance`** assembles the two.

Vertical motion enters neither measure: the track keeps the north and east components of the
position, and the ground speed is the horizontal length of the velocity. The time step must
not be negative; parameter validation makes it positive.
-/

namespace SailSim

namespace Sim

variable {α : Type} [Scalar α]

/-- The simulation with the armed flag set to `arm` when it names a value the environment does
not have, as a schedule's keyframe sets it before a step. -/
def armAs (s : Sim α) : Option Bool → Sim α
  | some a => if a != s.env.armed then s.setArmed a else s
  | none => s

/-- One step of a run: the armed flag set as `arm` asks, then an update under the command. -/
def stepAs (s : Sim α) (arm : Option Bool) (c : Controls) : Sim α := (s.armAs arm).update c

/-- The simulations a run passes through under the steps `acts`, the starting one first. -/
def course (s : Sim α) : List (Option Bool × Controls) → List (Sim α)
  | [] => [s]
  | act :: acts => s :: (s.stepAs act.1 act.2).course acts

/-- The boat's east and north offset from home, as a track records it. -/
def offset (s : Sim α) : α × α := (s.boat.position.y, s.boat.position.x)

/-- The boat's horizontal speed over ground. -/
def groundSpeed (s : Sim α) : α := s.boat.velocity.horizontalLength

@[simp] theorem course_nil (s : Sim α) : s.course [] = [s] := rfl

@[simp] theorem course_cons (s : Sim α) (act : Option Bool × Controls)
    (acts : List (Option Bool × Controls)) :
    s.course (act :: acts) = s :: (s.stepAs act.1 act.2).course acts := rfl

omit [Scalar α] in
theorem armAs_boat (s : Sim α) (arm : Option Bool) : (s.armAs arm).boat = s.boat := by
  cases arm with
  | none => rfl
  | some a => simp only [armAs]; split <;> rfl

omit [Scalar α] in
theorem armAs_params (s : Sim α) (arm : Option Bool) : (s.armAs arm).params = s.params := by
  cases arm with
  | none => rfl
  | some a => simp only [armAs]; split <;> rfl

theorem stepAs_params (s : Sim α) (arm : Option Bool) (c : Controls) :
    (s.stepAs arm c).params = s.params := by
  rw [stepAs, update_params, armAs_params]

/-- **A step moves the boat by its new velocity.** Whatever the armed flag and the command, the
position after a step is the position before it plus the velocity after it times the time
step; reading the compass changes neither. -/
theorem stepAs_position (s : Sim α) (arm : Option Bool) (c : Controls) :
    (s.stepAs arm c).boat.position =
      s.boat.position + (s.stepAs arm c).boat.velocity.scale s.params.timeStep := by
  obtain ⟨m, hboat⟩ := update_boat (s.armAs arm) c
  rw [stepAs, hboat]
  show (Boat.step _ _ c (s.armAs arm).boat).position = _
  rw [Boat.step_position, armAs_boat, armAs_params]

end Sim

section Measures

variable {α : Type} [Scalar α]

/-- The length of the polyline through the boat's offsets along a course. -/
def courseLength (ss : List (Sim α)) : α := Geo.LineString.segmentsLength (ss.map Sim.offset) 0

/-- The ground speed after each step of a course times the time step `dt`, added in order. -/
def courseDistance (dt : α) (ss : List (Sim α)) : α :=
  (ss.tail.map Sim.groundSpeed).foldl (fun d v => d + v * dt) 0

end Measures

/-! ### The measures of a run -/

namespace Geo

theorem Track.add_offsets (t : Track) (ned : Vec3 Float) (g : Geodetic Float) :
    (t.add ned g).offsets.toList = t.offsets.toList ++ [(ned.y, ned.x)] := by
  simp [Track.add]

/-- A line of fewer than two points is empty, and the sum of segments over so few points is
zero too: a measure that sums segments gives a line the sum of segments over the points it was
built from. -/
theorem LineMeasure.SumsSegments.length_ofPoints {m : LineMeasure} (hm : m.SumsSegments)
    (ps : Array (Float × Float)) :
    m.length (LineString.ofPoints ps) = LineString.segmentsLength ps.toList 0 := by
  rw [hm]
  unfold LineString.ofPoints
  split
  · rename_i hfew
    obtain ⟨l⟩ := ps
    match l, hfew with
    | [], _ => rfl
    | [_], _ => rfl
  · rfl

end Geo

namespace Runner

variable {σ : Type}

/-- What step `k + 1` of the run `runId` does: the armed flag of the setpoint in effect at the
simulated time before the step, if it sets one, and the setpoint's command. -/
def actionAt (r : Runner) (runId : String) (k : Nat) : Option Bool × Controls :=
  let sp := Schedule.setpointOf r.schedule (r.simAfter runId k).seconds
  (if sp.2 then sp.1.armed else none, sp.1.input)

/-- The steps of the first `n` steps of the run `runId`. -/
def actions (r : Runner) (runId : String) (n : Nat) : List (Option Bool × Controls) :=
  (List.range n).map (r.actionAt runId)

theorem simAfter_succ (r : Runner) (runId : String) (k : Nat) :
    r.simAfter runId (k + 1) =
      (r.simAfter runId k).stepAs (r.actionAt runId k).1 (r.actionAt runId k).2 := by
  show (stepOnce _ _ _ _).1 = _
  simp only [stepOnce, actionAt, Sim.stepAs]
  -- the runner arms only on a keyframe in effect that sets the flag, as `armAs` does
  rcases Schedule.setpointOf r.schedule (r.simAfter runId k).seconds with ⟨p, ok⟩
  cases ok <;> cases p.armed <;> rfl

/-- From the simulation after `j` steps, the next `n` steps of the run pass through the
simulations after `j, …, j + n` steps. -/
theorem course_from (r : Runner) (runId : String) (j n : Nat) :
    (r.simAfter runId j).course ((List.range' j n).map (r.actionAt runId)) =
      (List.range' j (n + 1)).map (r.simAfter runId) := by
  induction n generalizing j with
  | zero => rfl
  | succ n ih =>
    rw [List.range'_succ, List.map_cons, Sim.course_cons, ← simAfter_succ, ih (j + 1),
      List.range'_succ (n := n + 1), List.map_cons]

theorem course_actions (r : Runner) (runId : String) (n : Nat) :
    r.sim.course (r.actions runId n) = (List.range (n + 1)).map (r.simAfter runId) := by
  rw [actions, List.range_eq_range', List.range_eq_range']
  exact course_from r runId 0 n

variable (pub : Publisher σ) (runId : String) (dt : Float) (r : Runner)

/-- **The loop keeps the course.** From a state whose simulation is the one after `step` steps,
the loop counts the steps it runs, and appends to the track the offset after each of them. -/
theorem loop_track {left step : Nat} {l : Loop σ}
    (hsim : l.runner.sim = r.simAfter runId step) (hsch : l.runner.schedule = r.schedule) :
    ∃ m ≤ left, (loop pub runId dt left step l).summary.steps = l.summary.steps + m ∧
      (loop pub runId dt left step l).track.offsets.toList =
        l.track.offsets.toList ++ (List.range' (step + 1) m).map fun k => (r.simAfter runId k).offset := by
  induction left generalizing step l with
  | zero => exact ⟨0, Nat.le_refl 0, rfl, by simp [loop]⟩
  | succ left ih =>
    by_cases hc : pub.cancelled l.publisher = true
    · -- asked to stop before this step: nothing more is counted or drawn
      exact ⟨0, Nat.zero_le _, by simp [loop, hc], by simp [loop, hc]⟩
    · obtain ⟨l', hloop, hsim', hsch', -, hsum', htrack'⟩ :=
        @loop_succ_of_not_cancelled σ pub runId dt left step l (by simpa using hc)
      rw [hsim, hsch, stepOnce_simAfter] at hsim' hsum' htrack'
      obtain ⟨m, hm, hsteps, htrack⟩ := ih hsim' (hsch'.trans hsch)
      refine ⟨m + 1, Nat.succ_le_succ hm, ?_, ?_⟩
      · have hone : l'.summary.steps = l.summary.steps + 1 := by rw [hsum']
        rw [hloop, hsteps, hone]
        omega
      · -- the sample of this step carries the state after it
        rw [hloop, htrack, htrack', Geo.Track.add_offsets, List.range'_succ, List.map_cons]
        simp only [List.append_assoc, List.cons_append, List.nil_append]
        rfl

section Run

variable (start : σ) (run : Run) (ns : Int)

/-- The track of a run starts at the boat's offset before the run and takes the offset after
each counted step. -/
theorem run_track :
    let o := r.run pub start run ns
    o.track.offsets.toList = ((List.range (o.summary.steps + 1)).map (r.simAfter run.uuid)).map
      Sim.offset := by
  intro o
  obtain ⟨m, -, hsteps, htrack⟩ :=
    @loop_track σ pub run.uuid r.sim.params.timeStep r
      (Duration.stepsFor ns r.sim.params.timeStep).toNat 0 (startLoop r start run) rfl rfl
  have ho : o.summary.steps = m := by simpa [o, run_eq_loop, startLoop] using hsteps
  rw [ho]
  simp only [o, run_eq_loop]
  rw [htrack, List.range_eq_range', List.range'_succ, List.map_cons, List.map_cons,
    List.map_map]
  rfl

/-- **What a run measures.** For every run, cancelled or not, the summary's distance adds up
the ground speed after each step of the course the run took times the time step, and, when the
runner's geometry library sums segments, its track length is the length of the polyline through
the offsets of that course. -/
theorem run_measures_course :
    let o := r.run pub start run ns
    let ss := r.sim.course (r.actions run.uuid o.summary.steps)
    (r.lines.SumsSegments → o.summary.trackLength = courseLength ss) ∧
      o.summary.distance = courseDistance r.sim.params.timeStep ss := by
  intro o ss
  obtain ⟨n, -, -, -, -, hsteps, -, hdist, -⟩ := run_takes_samples r pub start run ns
  have hss : ss = (List.range (o.summary.steps + 1)).map (r.simAfter run.uuid) :=
    course_actions r run.uuid _
  refine ⟨?length, ?distance⟩
  case length =>
    intro hlines
    have hlen : o.summary.trackLength = r.lines.length (Geo.LineString.ofPoints o.track.offsets) :=
      rfl
    rw [hlen, hlines.length_ofPoints, run_track, courseLength, hss]
  case distance =>
    rw [hdist, courseDistance, hss, ← hsteps, List.range_succ_eq_map, List.map_cons,
      List.tail_cons, List.map_map, List.map_map, samples, List.map_map]
    -- the sample of step `k + 1` reports the velocity of the simulation after it
    rfl

end Run

end Runner

/-! ### The measures agree in exact arithmetic -/

namespace Sim

/-- **One segment is one step's distance.** In exact arithmetic, the segment of the track from
before a step to after it is as long as the ground speed after the step times the time step. -/
theorem segmentLength_stepAs (s : Sim ℝ) (arm : Option Bool) (c : Controls)
    (hdt : 0 ≤ s.params.timeStep) :
    Geo.LineString.segmentLength s.offset (s.stepAs arm c).offset =
      (s.stepAs arm c).groundSpeed * s.params.timeStep := by
  set v := (s.stepAs arm c).boat.velocity
  set dt := s.params.timeStep
  have hpos := stepAs_position s arm c
  simp only [Geo.LineString.segmentLength, offset, groundSpeed, Vec3.horizontalLength, hpos,
    Vec3.add_def, Vec3.scale, Scalar.sqrt_real]
  have hsq : (s.boat.position.y - (s.boat.position.y + v.y * dt)) *
        (s.boat.position.y - (s.boat.position.y + v.y * dt)) +
      (s.boat.position.x - (s.boat.position.x + v.x * dt)) *
        (s.boat.position.x - (s.boat.position.x + v.x * dt)) =
      (v.x * v.x + v.y * v.y) * (dt * dt) := by ring
  rw [hsq, Real.sqrt_mul (add_nonneg (mul_self_nonneg _) (mul_self_nonneg _)),
    Real.sqrt_mul_self hdt]

/-- Along a course the sum of segments, from any start, is the sum of the ground speeds times
the time step from the same start. The induction is on the steps; the time step stays that of
the first simulation. -/
theorem segmentsLength_course (acts : List (Option Bool × Controls)) :
    ∀ (s : Sim ℝ) (acc : ℝ), 0 ≤ s.params.timeStep →
      Geo.LineString.segmentsLength ((s.course acts).map offset) acc =
        ((s.course acts).tail.map groundSpeed).foldl (fun d v => d + v * s.params.timeStep) acc := by
  induction acts with
  | nil => intro s acc _; rfl
  | cons act acts ih =>
    intro s acc hdt
    set s' := s.stepAs act.1 act.2
    have hparams : s'.params = s.params := stepAs_params s act.1 act.2
    -- the course after the step starts with the simulation after it
    obtain ⟨rest, hrest⟩ : ∃ rest, s'.course acts = s' :: rest := by
      cases acts with
      | nil => exact ⟨[], rfl⟩
      | cons _ _ => exact ⟨_, rfl⟩
    -- the first segment is the first step's distance; the rest is the course after the step
    calc Geo.LineString.segmentsLength ((s.course (act :: acts)).map offset) acc
        = Geo.LineString.segmentsLength ((s'.course acts).map offset)
            (acc + Geo.LineString.segmentLength s.offset s'.offset) := by
          rw [course_cons, List.map_cons, hrest, List.map_cons]
          rfl
      _ = ((s'.course acts).tail.map groundSpeed).foldl (fun d v => d + v * s.params.timeStep)
            (acc + s'.groundSpeed * s.params.timeStep) := by
          rw [ih s' _ (hparams ▸ hdt), hparams, segmentLength_stepAs s act.1 act.2 hdt]
      _ = ((s.course (act :: acts)).tail.map groundSpeed).foldl
            (fun d v => d + v * s.params.timeStep) acc := by
          rw [course_cons, List.tail_cons, hrest]
          rfl

end Sim

/-- **The two measures agree in exact arithmetic.** Along every course from a simulation whose
time step is not negative, the length of the polyline through the offsets equals the ground
speed after each step times the time step, added up. -/
theorem courseLength_eq_courseDistance (s : Sim ℝ) (acts : List (Option Bool × Controls))
    (hdt : 0 ≤ s.params.timeStep) :
    courseLength (s.course acts) = courseDistance s.params.timeStep (s.course acts) := by
  simp only [courseLength, courseDistance, Scalar.zero_real]
  exact Sim.segmentsLength_course acts s 0 hdt

namespace Runner

/-- **The two measures of the distance sailed agree.** The summary of every run, cancelled or
not, reports as distance the ground speed after each step it counted times the time step, added
up, and, when the runner's geometry library sums the lengths of segments, as track length the
length of the polyline through the boat's offsets before the run and after each of those steps.
In exact arithmetic the two are equal along every course a run can take from a simulation whose
time step is not negative, whatever armed flags and commands its schedule gives. -/
theorem track_length_eq_distance :
    (∀ {σ : Type} (r : Runner) (pub : Publisher σ) (start : σ) (run : Run) (ns : Int),
      let o := r.run pub start run ns
      let ss := r.sim.course (r.actions run.uuid o.summary.steps)
      (r.lines.SumsSegments → o.summary.trackLength = courseLength ss) ∧
        o.summary.distance = courseDistance r.sim.params.timeStep ss) ∧
    ∀ (s : Sim ℝ) (acts : List (Option Bool × Controls)), 0 ≤ s.params.timeStep →
      courseLength (s.course acts) = courseDistance s.params.timeStep (s.course acts) :=
  ⟨fun r pub start run ns => run_measures_course pub r start run ns,
    courseLength_eq_courseDistance⟩

/-- The stock boat at rest at home in a breeze, with no instruments. -/
noncomputable def stockSim : Sim ℝ :=
  ⟨Params.default, Environment.new ⟨4, 45, 0, 0, 0, 0, WaveSettings.calm, true⟩, none, none, none,
    Boat.initial⟩

/-- Half a second of the helm put over, then the sheet eased and the boat disarmed. -/
def tackDrill : List (Option Bool × Controls) :=
  [(none, Controls.ofList [1900, 1500, 1500, 1200]), (some false, Controls.ofList [1500, 1500, 1500, 1800])]

/-- The 3 µs run of the finely stepped boat, measured by the library the program runs with,
reports the length of its course; the stock boat's course through the drill measures the same
distance both ways. -/
theorem stock_course_lengths_agree :
    (({ sim := fineStepSim } : Runner).lines.SumsSegments ∧
      let r : Runner := { sim := fineStepSim }
      let o := r.run Publisher.takeAll () fineStepRun 3000
      o.summary.trackLength =
        courseLength (r.sim.course (r.actions fineStepRun.uuid o.summary.steps))) ∧
    0 ≤ stockSim.params.timeStep ∧
      courseLength (stockSim.course tackDrill) =
        courseDistance stockSim.params.timeStep (stockSim.course tackDrill) := by
  have hlines : ({ sim := fineStepSim } : Runner).lines.SumsSegments :=
    Geo.LineMeasure.euclidean_sumsSegments
  have hdt : 0 ≤ stockSim.params.timeStep := by
    simp only [stockSim, Params.default, Scalar.ofScientific_real]
    norm_num
  exact ⟨⟨hlines, (track_length_eq_distance.1 { sim := fineStepSim } Publisher.takeAll ()
      fineStepRun 3000).1 hlines⟩, hdt, track_length_eq_distance.2 stockSim tackDrill hdt⟩

end Runner

end SailSim
