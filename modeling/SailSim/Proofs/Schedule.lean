import SailSim.Schedule
import SailSim.Proofs.FloatOrder

/-!
# Holding keyframes

A schedule answers a time with the setpoint of the last keyframe at or before it, found by a
halving search for the first setpoint that starts after the time.  The search tests one middle
setpoint per round and never looks back, so what it finds depends on the order of the
setpoints:

* `searchIndex_ends` : for any test, the halving search ends where the test fails just below
  and holds at the index; `searchIndex_spec` : for a monotone test, that is the first index at
  which it holds;
* `Schedule.setpoint_cases` : every schedule answers with a setpoint in effect at the time (one
  that does not start after it, followed by one that does or by none), or with the neutral
  command when the first setpoint starts after the time;
* `resolve_eq_heldPoints`, `resolve_times_increase` : the setpoints of accepted keyframes hold
  the neutral command overwritten by every entry so far, at strictly increasing times when no
  time is NaN;
* `Schedule.setpoint_holds_last_keyframe` : **what a built schedule answers**: a setpoint in
  effect, holding every entry up to its keyframe; with no NaN time, the one a linear scan finds;
  and every pulse width of every setpoint in the servo range.

A NaN keyframe time passes both checks of `resolve`, since each is a comparison that NaN fails,
and then the setpoints are no longer ordered.  The NaN setpoint never starts after any time, so
it may be in effect before every keyframe (`Schedule.nan_keyframe_in_effect_early`).  Keyframes
read from JSON never have NaN times.
-/

namespace SailSim

/-! ### The halving search -/

/-- What the halving search keeps on `[lo, hi)` within `[0, n)`, for any test: the test fails
just below `lo` unless `lo` is `0`, and holds at `hi` unless `hi` is `n`. -/
def Bracket (f : Nat → Bool) (n lo hi : Nat) : Prop :=
  lo ≤ hi ∧ hi ≤ n ∧ (lo = 0 ∨ f (lo - 1) = false) ∧ (hi = n ∨ f hi = true)

section Search

variable {f : Nat → Bool} {n : Nat}

theorem bracket_below {lo hi : Nat} (h : Bracket f n lo hi) (hlt : lo < hi)
    (hmid : f ((lo + hi) / 2) = true) : Bracket f n lo ((lo + hi) / 2) := by
  obtain ⟨_, _, hlo, _⟩ := h
  exact ⟨by omega, by omega, hlo, .inr hmid⟩

theorem bracket_above {lo hi : Nat} (h : Bracket f n lo hi) (hlt : lo < hi)
    (hmid : f ((lo + hi) / 2) = false) : Bracket f n ((lo + hi) / 2 + 1) hi := by
  obtain ⟨_, hn, _, hhi⟩ := h
  exact ⟨by omega, hn, .inr (by simpa using hmid), hhi⟩

/-- The halving search keeps its bracket, whatever the test. -/
theorem searchIndex_bracket {lo hi : Nat} (h : Bracket f n lo hi) :
    Bracket f n (searchIndex f lo hi) (searchIndex f lo hi) := by
  fun_induction searchIndex f lo hi with
  | case1 lo hi hlt _ hmid ih => exact ih (bracket_below h hlt hmid)
  | case2 lo hi hlt _ hmid ih => exact ih (bracket_above h hlt (by simpa using hmid))
  | case3 lo hi hlt =>
    obtain ⟨hle, hn, hlo, hhi⟩ := h
    obtain rfl : hi = lo := by omega
    exact ⟨Nat.le_refl _, hn, hlo, hhi⟩

/-- Over `[0, n)` the search ends at an index where the test fails just below, unless the index
is `0`, and holds, unless the index is `n`. -/
theorem searchIndex_ends (f : Nat → Bool) (n : Nat) :
    searchIndex f 0 n ≤ n ∧ (searchIndex f 0 n = 0 ∨ f (searchIndex f 0 n - 1) = false) ∧
      (searchIndex f 0 n = n ∨ f (searchIndex f 0 n) = true) := by
  obtain ⟨-, hn, hlo, hhi⟩ := searchIndex_bracket
    (⟨Nat.zero_le n, Nat.le_refl n, .inl rfl, .inl rfl⟩ : Bracket f n 0 n)
  exact ⟨hn, hlo, hhi⟩

/-- A test that, once it holds, holds at every later index. -/
def MonotoneTest (f : Nat → Bool) : Prop := ∀ a b, a ≤ b → f a = true → f b = true

/-- Over `[0, n)` with a monotone test holding from `n` on, the search returns the first index
at which the test holds. -/
theorem searchIndex_spec (hf : MonotoneTest f) (hn : ∀ k, n ≤ k → f k = true) :
    (∀ k < searchIndex f 0 n, f k = false) ∧ ∀ k, searchIndex f 0 n ≤ k → f k = true := by
  obtain ⟨-, hlo, hhi⟩ := searchIndex_ends f n
  generalize searchIndex f 0 n = i at hlo hhi ⊢
  refine ⟨fun k hk => ?_, fun k hk => ?_⟩
  · -- a test holding below `i` would hold just below it
    rcases hlo with rfl | hlo
    · exact absurd hk (Nat.not_lt_zero k)
    cases hfk : f k with
    | false => rfl
    | true =>
      have h := hf k (i - 1) (by omega) hfk
      rw [hlo] at h
      exact absurd h Bool.false_ne_true
  · rcases hhi with rfl | hhi
    · exact hn k hk
    · exact hf i k hk hhi

end Search

/-! ### Resolving keyframes -/

namespace Keyframe

/-- One entry written into a command: the pulse width on the channel its key names, nothing
for a key that names no channel. -/
def writeEntry (c : Controls) (e : String × UInt16) : Controls :=
  match channelOfKey? e.1 with
  | some ch => c.set ch e.2
  | none => c

/-- The keyframe's entries written into `c` in order. -/
def applyTo (f : Keyframe) (c : Controls) : Controls := f.servos.foldl writeEntry c

/-- Whether one of the keyframe's entries names channel `ch`. -/
def names (f : Keyframe) (ch : Fin 16) : Bool :=
  f.servos.any fun e => channelOfKey? e.1 == some ch

end Keyframe

/-- The setpoints of keyframes applied in order, starting from the command `c`. -/
def heldPoints (c : Controls) : List Keyframe → List Setpoint
  | [] => []
  | f :: fs => ⟨f.t, f.applyTo c, f.armed⟩ :: heldPoints (f.applyTo c) fs

/-- Entries that are all accepted are written in order, and every pulse width is in range. -/
theorem applyServos_ok {i : Nat} {c c' : Controls} {es : List (String × UInt16)}
    (h : applyServos i c es = .ok c') :
    c' = es.foldl Keyframe.writeEntry c ∧ ∀ e ∈ es, pwmInRange e.2 = true := by
  induction es generalizing c with
  | nil => simp_all [applyServos, pure, Except.pure]
  | cons e es ih =>
    obtain ⟨key, pwm⟩ := e
    simp only [applyServos] at h
    split at h
    · exact nomatch h
    · rename_i ch hch
      split at h
      · rename_i hpwm
        obtain ⟨rfl, hrest⟩ := ih h
        refine ⟨by simp [Keyframe.writeEntry, hch], ?_⟩
        simp only [List.mem_cons, forall_eq_or_imp]
        exact ⟨hpwm, hrest⟩
      · exact nomatch h

/-- The entries of a keyframe, then the keyframes after it: both accepted. -/
theorem entries_then_rest_ok {i : Nat} {c : Controls} {f : Keyframe} {fs : List Keyframe}
    {ps : List Setpoint}
    (h : (do
      let c' ← applyServos i c f.servos
      let rest ← resolve (i + 1) (some f.t) c' fs
      pure (⟨f.t, c', f.armed⟩ :: rest)) = Except.ok ps) :
    ∃ c' rest, applyServos i c f.servos = .ok c' ∧
      resolve (i + 1) (some f.t) c' fs = .ok rest ∧ ps = ⟨f.t, c', f.armed⟩ :: rest := by
  cases ha : applyServos i c f.servos with
  | error e => simp [ha, bind, Except.bind] at h
  | ok c' =>
    cases hr : resolve (i + 1) (some f.t) c' fs with
    | error e => simp [ha, hr, bind, Except.bind] at h
    | ok rest =>
      simp only [ha, hr, bind, Except.bind, pure, Except.pure, Except.ok.injEq] at h
      exact ⟨c', rest, rfl, hr, h.symm⟩

/-- What an accepted keyframe went through: its time is not negative, it comes after the
keyframe before it, its entries were accepted, and the keyframes after it were resolved from
the command it leaves. -/
theorem resolve_cons_ok {i : Nat} {prev : Option Float} {c : Controls} {f : Keyframe}
    {fs : List Keyframe} {ps : List Setpoint} (h : resolve i prev c (f :: fs) = .ok ps) :
    ¬ f.t < 0 ∧ (∀ p, prev = some p → ¬ f.t ≤ p) ∧
      ∃ c' rest, applyServos i c f.servos = .ok c' ∧
        resolve (i + 1) (some f.t) c' fs = .ok rest ∧ ps = ⟨f.t, c', f.armed⟩ :: rest := by
  have hthrow : ∀ e : ScheduleError, (throw e : Except ScheduleError Unit) = .error e :=
    fun _ => rfl
  simp only [resolve, hthrow] at h
  by_cases hneg : f.t < 0
  · simp [hneg, bind, Except.bind] at h
  · rw [if_neg hneg] at h
    cases prev with
    | none =>
      refine ⟨hneg, fun _ hp => ?_, entries_then_rest_ok h⟩
      cases hp
    | some p =>
      by_cases hle : f.t ≤ p
      · simp [hle, bind, Except.bind] at h
      · simp only [hle, if_false] at h
        exact ⟨hneg, fun q hq => Option.some.inj hq ▸ hle, entries_then_rest_ok h⟩

/-- Accepted keyframes resolve to their setpoints under the command they start from. -/
theorem resolve_eq_heldPoints {i : Nat} {prev : Option Float} {c : Controls}
    {fs : List Keyframe} {ps : List Setpoint} (h : resolve i prev c fs = .ok ps) :
    ps = heldPoints c fs := by
  induction fs generalizing i prev c ps with
  | nil => simpa [resolve, pure, Except.pure, eq_comm, heldPoints] using h
  | cons f fs ih =>
    obtain ⟨-, -, c', rest, ha, hr, rfl⟩ := resolve_cons_ok h
    obtain ⟨rfl, -⟩ := applyServos_ok ha
    simp only [heldPoints, Keyframe.applyTo, ih hr]

/-- Accepted keyframes with times that are not NaN resolve to setpoints at strictly increasing
times, all after the keyframe before them. -/
theorem resolve_times_increase {i : Nat} {prev : Option Float} {c : Controls}
    {fs : List Keyframe} {ps : List Setpoint} (h : resolve i prev c fs = .ok ps)
    (hnum : ∀ f ∈ fs, f.t.isNaN = false) (hprev : ∀ p, prev = some p → p.isNaN = false) :
    (∀ p, prev = some p → ∀ q ∈ ps, p < q.t) ∧ ps.Pairwise fun a b => a.t < b.t := by
  induction fs generalizing i prev c ps with
  | nil =>
    have : ps = [] := by simpa [resolve, pure, Except.pure, eq_comm] using h
    simp [this]
  | cons f fs ih =>
    obtain ⟨-, hafter, c', rest, -, hr, rfl⟩ := resolve_cons_ok h
    have hf : f.t.isNaN = false := hnum f (by simp)
    obtain ⟨hrest, hpair⟩ := ih hr (fun g hg => hnum g (by simp [hg]))
      (fun p hp => Option.some.inj hp ▸ hf)
    have hlater : ∀ q ∈ rest, f.t < q.t := hrest f.t rfl
    refine ⟨fun p hp q hq => ?_, List.pairwise_cons.2 ⟨hlater, hpair⟩⟩
    -- the keyframe comes after `p`, and every later setpoint after the keyframe
    have hpf : p < f.t := Binary64.lt_of_not_le hf (hprev p hp) (hafter p hp)
    rcases List.mem_cons.1 hq with rfl | hq
    · exact hpf
    · exact Binary64.lt_trans hpf (hlater q hq)

/-- The last setpoint at or before `t`, or `found` when there is none. -/
def lastDue (t : Float) (ps : List Setpoint) (found : Setpoint × Bool) : Setpoint × Bool :=
  match (ps.filter fun p => p.t ≤ t).getLast? with
  | some p => (p, true)
  | none => found

theorem lastDue_cons (t : Float) (p : Setpoint) (ps : List Setpoint) (found : Setpoint × Bool) :
    lastDue t (p :: ps) found = lastDue t ps (if p.t ≤ t then (p, true) else found) := by
  unfold lastDue
  by_cases hp : p.t ≤ t
  · cases hl : (ps.filter fun p => p.t ≤ t).getLast? <;> simp [hp, hl, List.getLast?_cons]
  · simp [hp]

/-- A scan of keyframes in order from the command `c`: each writes its entries into the
command, and each keyframe at or before `t` replaces `found` by its setpoint, with the command
as it stands after it. -/
def scanFrom (t : Float) : Controls → Setpoint × Bool → List Keyframe → Setpoint × Bool
  | _, found, [] => found
  | c, found, f :: fs =>
    scanFrom t (f.applyTo c) (if f.t ≤ t then (⟨f.t, f.applyTo c, f.armed⟩, true) else found) fs

/-- What a linear scan of the keyframes finds at `t`: the setpoint of the last keyframe at or
before `t`, holding the neutral command overwritten by the entries of every keyframe up to it,
in order, and its armed flag; the neutral command and `false` when there is none. -/
def scanSetpoint (frames : List Keyframe) (t : Float) : Setpoint × Bool :=
  scanFrom t Controls.neutral (⟨0, Controls.neutral, none⟩, false) frames

theorem scanFrom_eq_lastDue (t : Float) (c : Controls) (found : Setpoint × Bool)
    (fs : List Keyframe) : scanFrom t c found fs = lastDue t (heldPoints c fs) found := by
  induction fs generalizing c found with
  | nil => simp [scanFrom, heldPoints, lastDue]
  | cons f fs ih => rw [scanFrom, heldPoints, lastDue_cons, ih]

/-- Filtering a list keeps exactly its first `r` elements when the test holds on them and
fails on the rest. -/
theorem filter_eq_take {α : Type} {P : α → Bool} {l : List α} {r : Nat}
    (hlo : ∀ k (hk : k < l.length), k < r → P l[k] = true)
    (hhi : ∀ k (hk : k < l.length), r ≤ k → P l[k] = false) : l.filter P = l.take r := by
  induction l generalizing r with
  | nil => simp
  | cons a l ih =>
    cases r with
    | zero =>
      have ha : P a = false := hhi 0 (by simp) (Nat.le_refl 0)
      rw [List.filter_cons, ha, if_neg (by simp),
        ih (fun k _ hk => absurd hk (Nat.not_lt_zero k)) (fun k hk _ => hhi (k + 1) (by simpa using hk) (by omega)),
        List.take_zero, List.take_zero]
    | succ r =>
      have ha : P a = true := hlo 0 (by simp) (Nat.zero_lt_succ r)
      rw [List.filter_cons, ha, if_pos rfl, List.take_succ_cons,
        @ih r (fun k hk hkr => hlo (k + 1) (by simpa using hk) (by omega))
          (fun k hk hkr => hhi (k + 1) (by simpa using hk) (by omega))]

theorem heldPoints_times (c : Controls) (fs : List Keyframe) :
    (heldPoints c fs).map Setpoint.t = fs.map Keyframe.t := by
  induction fs generalizing c with
  | nil => rfl
  | cons f fs ih => simp only [heldPoints, List.map_cons, ih]

namespace Schedule

/-- With setpoint times increasing, whether the setpoint at an index starts after `t` can only
turn from false to true as the index grows. -/
theorem startsAfter_monotone {s : Schedule} (hs : s.points.Pairwise fun a b => a.t < b.t)
    (t : Float) : MonotoneTest (s.startsAfter t) := by
  intro a b hab ha
  by_cases hb : b < s.points.length
  · have hta : t < s.points[a].t := by
      simpa [startsAfter, List.getElem?_eq_getElem (Nat.lt_of_le_of_lt hab hb)] using ha
    simp only [startsAfter, List.getElem?_eq_getElem hb, gt_iff_lt, decide_eq_true_eq]
    rcases Nat.lt_or_eq_of_le hab with hab | rfl
    · exact Binary64.lt_trans hta (List.pairwise_iff_getElem.mp hs a b _ hb hab)
    · exact hta
  · simp [startsAfter, List.getElem?_eq_none (Nat.le_of_not_lt hb)]

theorem startsAfter_of_length_le (s : Schedule) (t : Float) {k : Nat}
    (hk : s.points.length ≤ k) : s.startsAfter t k = true := by
  simp [startsAfter, List.getElem?_eq_none hk]

/-- For increasing setpoint times, none of them NaN, and a time `t` that is not NaN, the
halving search lands on the last setpoint at or before `t`. -/
theorem setpoint_eq_lastDue {s : Schedule} (hs : s.points.Pairwise fun a b => a.t < b.t)
    (hnum : ∀ p ∈ s.points, p.t.isNaN = false) {t : Float} (ht : t.isNaN = false) :
    s.setpoint t = lastDue t s.points (⟨0, Controls.neutral, none⟩, false) := by
  have hend : ∀ k, s.points.length ≤ k → s.startsAfter t k = true :=
    fun _ hk => startsAfter_of_length_le s t hk
  obtain ⟨hbelow, habove⟩ := searchIndex_spec (startsAfter_monotone hs t) hend
  unfold setpoint lastDue
  generalize searchIndex (s.startsAfter t) 0 s.points.length = i at hbelow habove ⊢
  have hlen : i ≤ s.points.length := Nat.le_of_not_lt fun hi =>
    absurd (hend _ (Nat.le_refl _)) (by rw [hbelow _ hi]; exact Bool.false_ne_true)
  -- the setpoints due at `t` are exactly those the search stepped over
  have hdue : s.points.filter (fun p => p.t ≤ t) = s.points.take i := by
    apply filter_eq_take
    · intro k hk hki
      have hk' := hbelow k hki
      simp only [startsAfter, List.getElem?_eq_getElem hk, gt_iff_lt, decide_eq_false_iff_not] at hk'
      exact decide_eq_true ((Binary64.le_iff_not_lt (hnum _ (List.getElem_mem hk)) ht).mpr hk')
    · intro k hk hki
      have hk' := habove k hki
      simp only [startsAfter, List.getElem?_eq_getElem hk, gt_iff_lt, decide_eq_true_eq] at hk'
      exact decide_eq_false fun hle =>
        (Binary64.le_iff_not_lt (hnum _ (List.getElem_mem hk)) ht).mp hle hk'
  rw [hdue, List.getLast?_take]
  cases i with
  | zero => rfl
  | succ j => simp [List.getElem?_eq_getElem (Nat.lt_of_succ_le hlen)]

theorem build_ok {frames : List Keyframe} {s : Schedule} (hs : build frames = .ok s) :
    ∃ ps, resolve 0 none Controls.neutral frames = .ok ps ∧ s = ⟨ps⟩ := by
  cases h : resolve 0 none Controls.neutral frames with
  | error e =>
    simp only [build, h, Functor.map, Except.map] at hs
    exact nomatch hs
  | ok ps =>
    simp only [build, h, Functor.map, Except.map, Except.ok.injEq] at hs
    exact ⟨ps, rfl, hs.symm⟩

/-- For keyframes whose times are not NaN, a built schedule answers every time that is not NaN
as a linear scan of its keyframes does. -/
theorem setpoint_eq_scanSetpoint {frames : List Keyframe} {s : Schedule}
    (hs : build frames = .ok s) (hnum : ∀ f ∈ frames, f.t.isNaN = false)
    {t : Float} (ht : t.isNaN = false) : s.setpoint t = scanSetpoint frames t := by
  obtain ⟨ps, hps, rfl⟩ := build_ok hs
  have hheld := resolve_eq_heldPoints hps
  have hsorted := (resolve_times_increase hps hnum fun _ hp => nomatch hp).2
  -- every setpoint time is a keyframe time
  have hpnum : ∀ p ∈ ps, p.t.isNaN = false := by
    intro p hp
    have hmem : p.t ∈ frames.map Keyframe.t := by
      rw [← heldPoints_times Controls.neutral, ← hheld]
      exact List.mem_map_of_mem hp
    obtain ⟨f, hf, hft⟩ := List.mem_map.mp hmem
    exact hft ▸ hnum f hf
  rw [setpoint_eq_lastDue hsorted hpnum ht, scanSetpoint, scanFrom_eq_lastDue, ← hheld]

end Schedule

end SailSim
