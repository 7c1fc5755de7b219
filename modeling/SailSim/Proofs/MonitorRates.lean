import SailSim.Proofs.Binary64.Positive
import SailSim.Monitor

/-!
# Monitor rates

The monitor keeps the last snapshot of an active run and derives two rates from it at the next
snapshot of the same run, under two guards: the earlier snapshot is not at the zero instant,
and the elapsed seconds are positive. For calls at strictly increasing instants after the zero
instant both guards pass, since a positive count of nanoseconds below `2⁶³` lasts a positive
number of seconds (`Duration.seconds_pos`). What is left is the memory: the monitor remembers
the last reading of an active run (`Monitor.run_remembers`), and each snapshot is taken against
it (`Monitor.snapshot_eq_report`).

* **`Monitor.run_reports_against_last_active`** : over calls at strictly increasing instants
  after the zero instant, each call's snapshot reports the steps and the simulated time gone by
  since the last earlier reading of an active run, over the elapsed seconds, when that reading
  is of the same run, and zero rates otherwise.

The steps gone by are counted in 64-bit words (`Monitor.stepsBetween`): the difference of the
counts when the count did not go back (`Monitor.stepsBetween_of_le`), and that difference
taken modulo `2⁶⁴` when it did (`Monitor.stepsBetween_of_lt`). `Monitor.step_back_rate_wraps`
runs the monitor on two readings of one run a second apart whose step count goes from 10 back
to 5: the second snapshot reports more than `10¹⁹` steps per second.
-/

namespace SailSim

open Binary64 Float.Model

/-! ### Positive durations -/

namespace Duration

/-- `10⁹` is the 53-bit mantissa `10⁹ · 2²³` at `2⁻²³`. -/
theorem unpack_1e9 :
    (1e9 : Float).toModel.unpack = .finite .positive 8388608000000000 (-23) (by decide) := rfl

/-- A count below `2⁶³` is a finite float whose ticks are not negative, and positive when the
count is. -/
theorem ofNat_ticks {q : Nat} (hq : q < 2 ^ 63) :
    (Float.ofNat q).isFinite = true ∧ 0 ≤ signedTicks (Float.ofNat q).toModel.unpack ∧
      (0 < q → 0 < signedTicks (Float.ofNat q).toModel.unpack) := by
  rcases Nat.eq_zero_or_pos q with rfl | hq0
  · exact ⟨isFinite_zero, le_of_eq signedTicks_zero.symm, by omega⟩
  · have hlog : q.log2 < 1000 := by
      have := (Nat.log2_lt hq0.ne').2 hq
      omega
    obtain ⟨_, _, _, hu, -⟩ := ofNat_unpack hq0 hlog
    exact ⟨isFinite_of_unpack_finite hu, (zero_lt_signedTicks hu).le,
      fun _ => zero_lt_signedTicks hu⟩

/-- A positive count of nanoseconds below `2⁶³` lasts a positive number of seconds: the whole
seconds and the fraction are each zero or positive, and not both zero. -/
theorem seconds_pos {ns : Int} (hpos : 0 < ns) (hbig : ns < 2 ^ 63) : 0 < seconds ns := by
  obtain ⟨q, r, hq, hr, hqr, hr9, hq63⟩ : ∃ q r : Nat, ns.tdiv nanosPerSecond = q ∧
      ns.tmod nanosPerSecond = r ∧ (0 < q ∨ 0 < r) ∧ r < 1000000000 ∧ q < 2 ^ 63 := by
    refine ⟨(ns / 1000000000).toNat, (ns % 1000000000).toNat, ?_, ?_, by omega, by omega, by omega⟩
    · rw [Int.tdiv_eq_ediv_of_nonneg hpos.le, nanosPerSecond]; omega
    · rw [Int.tmod_eq_emod_of_nonneg hpos.le, nanosPerSecond]; omega
  unfold seconds
  rw [hq, hr]
  show 0 < Float.ofNat q + Float.ofNat r / 1e9
  obtain ⟨hqf, hq0, hqpos⟩ := ofNat_ticks hq63
  rcases Nat.eq_zero_or_pos r with rfl | hr0
  · -- whole seconds only: the fraction is zero
    rw [show Float.ofNat 0 / 1e9 = 0 from rfl]
    refine zero_lt_add hqf isFinite_zero ?_
    rw [signedTicks_zero]
    have := hqpos (by omega)
    omega
  · -- the fraction is `r / 10⁹`, between `2⁻³⁰` and one
    have hrlog : r.log2 < 30 := (Nat.log2_lt hr0.ne').2 (by omega)
    have h9 : (8388608000000000 : Nat).log2 = 52 := by decide
    obtain ⟨M, T, hM, hu, -, hlo, hhi⟩ := ofNat_unpack hr0 (by omega)
    obtain ⟨M', T', hM', hf, -⟩ := div_unpack hu unpack_1e9 (by omega) (by omega)
    have := zero_lt_signedTicks hf
    exact zero_lt_add hqf (isFinite_of_unpack_finite hf) (by omega)

end Duration

/-! ### Instants in nanoseconds -/

namespace Instant

/-- The nanoseconds from the epoch to `t`, unbounded. -/
def totalNanos (t : Instant) : Int := t.unix * 1000000000 + t.nanos

/-- An instant after the zero instant is not the zero instant. -/
theorem isZero_eq_false {t : Instant} (h : zero.totalNanos < t.totalNanos) : t.isZero = false := by
  unfold isZero
  by_contra hz
  simp only [Bool.not_eq_false, Bool.and_eq_true, beq_iff_eq] at hz
  unfold totalNanos at h
  omega

end Instant

namespace Monitor

/-- Between two instants in order lie a positive number of nanoseconds, no more than the clamp
keeps. -/
theorem elapsedNanos_pos {a b : Instant} (h : a.totalNanos < b.totalNanos) :
    0 < elapsedNanos a b ∧ elapsedNanos a b < 2 ^ 63 := by
  have hpow : Int.pow 2 63 = 2 ^ 63 := rfl
  simp only [elapsedNanos, hpow]
  unfold Instant.totalNanos at h
  omega

theorem elapsed_seconds_pos {a b : Instant} (h : a.totalNanos < b.totalNanos) :
    0 < Duration.seconds (elapsedNanos a b) :=
  Duration.seconds_pos (elapsedNanos_pos h).1 (elapsedNanos_pos h).2

/-! ### What a snapshot reports -/

/-- The status of a reading, with no rates. -/
def Reading.status (r : Reading) : Status := ⟨r.now, r.runId, r.step, r.simTime, r.speed, 0, 0⟩

/-- Whether a reading names an active run. -/
def Reading.active (r : Reading) : Bool := !r.runId.isEmpty

/-- The steps gone by from count `a` to count `b` in 64-bit words: modulo `2⁶⁴`. -/
def stepsBetween (a b : UInt64) : Nat := (2 ^ 64 - a.toNat + b.toNat) % 2 ^ 64

theorem stepsBetween_of_le {a b : UInt64} (h : a ≤ b) : stepsBetween a b = b.toNat - a.toNat := by
  have := UInt64.toNat_sub_of_le b a h
  rw [UInt64.toNat_sub] at this
  exact this

/-- A count that goes back wraps: the steps gone by are `2⁶⁴` less the steps lost. -/
theorem stepsBetween_of_lt {a b : UInt64} (h : b < a) :
    stepsBetween a b = 2 ^ 64 - (a.toNat - b.toNat) := by
  have hlt := UInt64.lt_iff_toNat_lt.1 h
  have ha := a.toNat_lt
  unfold stepsBetween
  rw [Nat.mod_eq_of_lt (by omega)]
  omega

/-- The snapshot of reading `r` after the earlier reading `prev?`, when there is one: the steps
and the simulated time gone by since `prev?` over the elapsed seconds when `prev?` is of the
same run, zero rates otherwise; and whether `r` names an active run. -/
def Reading.report (prev? : Option Reading) (r : Reading) : Status × Bool :=
  match prev? with
  | some prev =>
    if r.active && prev.runId == r.runId then
      let dt := Duration.seconds (elapsedNanos prev.now r.now)
      ({ r.status with stepsPerSec := Float.ofNat (stepsBetween prev.step r.step) / dt,
                       realTime := (r.simTime - prev.simTime) / dt }, true)
    else (r.status, r.active)
  | none => (r.status, r.active)

/-- The last of the readings that names an active run. -/
def lastActive (rs : List Reading) : Option Reading := (rs.filter Reading.active).getLast?

theorem lastActive_append_singleton (rs : List Reading) (r : Reading) :
    lastActive (rs ++ [r]) = if r.active then some r else lastActive rs := by
  unfold lastActive
  cases h : r.active <;> simp [List.filter_append, h]

theorem mem_of_lastActive {rs : List Reading} {p : Reading} (h : lastActive rs = some p) :
    p ∈ rs :=
  (List.mem_filter.1 (List.mem_of_getLast? h)).1

/-! ### One call -/

/-- The monitor remembers `prev?`: its last snapshot was taken at `prev?`'s instant, of its run,
step and simulated time; and there is none when `prev?` is none. -/
def Remembers (m : Monitor) (prev? : Option Reading) : Prop :=
  m.last.map (fun st => (st.time, st.runId, st.step, st.simTime)) =
    prev?.map fun p => (p.now, p.runId, p.step, p.simTime)

variable {m : Monitor} {prev? : Option Reading} {r : Reading}

/-- A call of an active run is remembered; one of no run leaves the monitor as it was. -/
theorem snapshot_remembers (hm : Remembers m prev?) :
    Remembers (m.snapshot r.now r.runId r.step r.simTime r.speed).2.2
      (if r.active then some r else prev?) := by
  unfold snapshot Remembers Reading.active
  cases hr : r.runId.isEmpty
  · -- the new snapshot keeps the reading's instant, run, step and simulated time, whatever
    -- rates it computes
    cases m.last with
    | none => simp
    | some prev =>
      simp only [Bool.false_eq_true, ↓reduceIte, Bool.not_false, Option.map_some]
      split_ifs <;> rfl
  · simpa [Remembers] using hm

/-- **One call.** Against a remembered reading that is after the zero instant and before the
call, the monitor's snapshot is the report of the call's reading. -/
theorem snapshot_eq_report (hm : Remembers m prev?)
    (hprev : ∀ p ∈ prev?, Instant.zero.totalNanos < p.now.totalNanos ∧
      p.now.totalNanos < r.now.totalNanos) :
    ((m.snapshot r.now r.runId r.step r.simTime r.speed).1,
      (m.snapshot r.now r.runId r.step r.simTime r.speed).2.1) = Reading.report prev? r := by
  unfold snapshot Reading.report Reading.active Reading.status
  cases hr : r.runId.isEmpty
  · unfold Remembers at hm
    cases hl : m.last with
    | none =>
      rw [hl, Option.map_none] at hm
      cases prev? with
      | none => rfl
      | some p => cases hm
    | some st =>
      rw [hl, Option.map_some] at hm
      cases prev? with
      | none => cases hm
      | some p =>
        -- the remembered status agrees with `p` on everything the rates read
        simp only [Option.map_some, Option.some.injEq, Prod.mk.injEq] at hm
        obtain ⟨htime, hrun, hstep, hsim⟩ := hm
        -- both guards pass: `p` is not at the zero instant, and time has gone by since it
        obtain ⟨hzero, hlt⟩ := hprev p rfl
        simp only [Bool.false_eq_true, ↓reduceIte, Bool.not_false, Bool.true_and, htime, hrun,
          hstep, hsim, Instant.isZero_eq_false hzero, Bool.and_true, gt_iff_lt,
          elapsed_seconds_pos hlt]
        split_ifs
        · simp only [stepsBetween, UInt64.toNat_sub]
        · rfl
  · cases prev? with
    | none => rfl
    | some p => simp

/-! ### Every call -/

/-- The snapshots of calls followed by one more are theirs and that call's against the monitor
they leave. -/
theorem run_append (m : Monitor) (rs : List Reading) (r : Reading) :
    m.run (rs ++ [r]) =
      let s := (m.run rs).2.snapshot r.now r.runId r.step r.simTime r.speed
      ((m.run rs).1 ++ [(s.1, s.2.1)], s.2.2) := by
  induction rs generalizing m with
  | nil => rfl
  | cons x rs ih => simp [run, ih]

/-- After any calls, the monitor remembers the last reading of an active run. -/
theorem run_remembers (rs : List Reading) :
    Remembers (({} : Monitor).run rs).2 (lastActive rs) := by
  induction rs using List.reverseRecOn with
  | nil => rfl
  | append_singleton rs r ih =>
    rw [run_append, lastActive_append_singleton]
    exact snapshot_remembers ih

/-- **Monitor rates.** Over calls at strictly increasing instants after the zero instant, the
snapshot of each call reports the steps and the simulated time gone by since the last earlier
reading of an active run, over the elapsed seconds, when that reading is of the same run, and
zero rates otherwise. -/
theorem run_reports_against_last_active (pre : List Reading) (r : Reading)
    (hinc : (pre ++ [r]).Pairwise fun a b => a.now.totalNanos < b.now.totalNanos)
    (hzero : ∀ x ∈ pre, Instant.zero.totalNanos < x.now.totalNanos) :
    (({} : Monitor).run (pre ++ [r])).1 =
      (({} : Monitor).run pre).1 ++ [Reading.report (lastActive pre) r] := by
  have hbefore : ∀ x ∈ pre, x.now.totalNanos < r.now.totalNanos := by
    intro x hx
    exact (List.pairwise_append.1 hinc).2.2 x hx r (List.mem_singleton_self r)
  rw [run_append]
  dsimp only
  rw [snapshot_eq_report (run_remembers pre)]
  intro p hp
  have hmem := mem_of_lastActive hp
  exact ⟨hzero p hmem, hbefore p hmem⟩

theorem rates_after_one_reading :
    let r₁ : Reading := ⟨⟨1, 0, 0⟩, "r", 10, 1, 0⟩
    let r₂ : Reading := ⟨⟨2, 0, 0⟩, "r", 30, 3, 0⟩
    ([r₁] ++ [r₂]).Pairwise (fun a b => a.now.totalNanos < b.now.totalNanos) ∧
      (∀ x ∈ [r₁], Instant.zero.totalNanos < x.now.totalNanos) ∧
      (({} : Monitor).run ([r₁] ++ [r₂])).1 =
        (({} : Monitor).run [r₁]).1 ++ [Reading.report (lastActive [r₁]) r₂] := by
  intro r₁ r₂
  have hinc : ([r₁] ++ [r₂]).Pairwise fun a b => a.now.totalNanos < b.now.totalNanos := by decide
  have hzero : ∀ x ∈ [r₁], Instant.zero.totalNanos < x.now.totalNanos := by decide
  exact ⟨hinc, hzero, run_reports_against_last_active [r₁] r₂ hinc hzero⟩

/-- **A step count that goes back wraps.** Two readings of one run a second apart whose step
count goes from 10 back to 5: the second snapshot reports more than `10¹⁹` steps per second. -/
theorem step_back_rate_wraps :
    ∃ st, (({} : Monitor).run [⟨⟨1, 0, 0⟩, "r", 10, 1, 0⟩, ⟨⟨2, 0, 0⟩, "r", 5, 2, 0⟩]).1.getLast? =
      some (st, true) ∧ 1e19 < st.stepsPerSec := by
  have h : ((({} : Monitor).run
      [⟨⟨1, 0, 0⟩, "r", 10, 1, 0⟩, ⟨⟨2, 0, 0⟩, "r", 5, 2, 0⟩]).1.getLast?.map
      fun p => (p.2, decide (1e19 < p.1.stepsPerSec))) = some (true, true) := by decide +kernel
  obtain ⟨⟨st, ok⟩, hst, hv⟩ := Option.map_eq_some_iff.1 h
  simp only [Prod.mk.injEq, decide_eq_true_eq] at hv
  exact ⟨st, hv.1 ▸ hst, hv.2⟩

end Monitor

end SailSim
