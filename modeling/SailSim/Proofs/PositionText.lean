import SailSim.Proofs.Validation
import SailSim.Sim.Setup

/-!
# Which position texts are read

`Geodetic.parse?` reads a home position written `"lon,lat[,alt]"`: the text is split at its
commas, the first two fields (and the third, when there is one) are read as floats after
trimming blanks, and the position is kept unless one of the four comparisons of its range test
holds. In binary64 every comparison with NaN is false, so the range test keeps a NaN
coordinate as readily as one in range:

* `Geodetic.inRange_iff` : the range test passes exactly when each coordinate is NaN or in
  range;
* **`Geodetic.parse?_eq_some_iff_in_range_or_nan`** : a text is read as a position exactly
  when its fields are read as that position's coordinates and each of its latitude and
  longitude is NaN or in range;
* `Setup.ofSettings_home_rejected` : a home text that is not read fails the setup of a
  simulation with the home error, `home "…": invalid coordinates provided`.

`Geodetic.nan_position_read` shows the gap: the text `NaN,NaN` is read as a position whose
latitude is not in `[-90, 90]`.
-/

namespace SailSim

namespace Binary64

open Float.Model

theorem not_lt_of_isNaN_right (x : Float) {y : Float} (hy : y.isNaN = true) : ¬ x < y := by
  rw [lt_iff_unpack, isNaN_iff_unpack.1 hy]
  cases x.toModel.unpack <;> exact Bool.false_ne_true

/-- Against a number that is not NaN, `y < x` fails exactly when `x` is NaN or at most `y`. -/
theorem not_gt_iff {x y : Float} (hy : y.isNaN = false) :
    ¬ y < x ↔ x.isNaN = true ∨ x ≤ y := by
  cases hx : x.isNaN
  · rw [le_iff_not_lt hx hy]
    simp
  · simp only [true_or, iff_true]
    exact not_lt_of_isNaN_right y hx

end Binary64

open Binary64

namespace Geodetic

/-- The fields of `s` read as the coordinates of `g`: at least two comma-separated fields, the
first read as the longitude, the second as the latitude, and the third, when there is one, as
the altitude, which is zero otherwise. Fields past the third are not read. -/
def FieldsRead (s : String) (g : Geodetic Float) : Prop :=
  ∃ lonText latText rest, Text.splitAt s ',' = lonText :: latText :: rest ∧
    field? lonText = some g.lon ∧ field? latText = some g.lat ∧
    (rest = [] ∧ g.alt = 0 ∨ ∃ altText more, rest = altText :: more ∧ field? altText = some g.alt)

/-- The range test of a position passes exactly when each coordinate is NaN or in range. -/
theorem inRange_iff (lat lon : Float) :
    inRange lat lon = true ↔
      (lat.isNaN = true ∨ -90 ≤ lat ∧ lat ≤ 90) ∧ (lon.isNaN = true ∨ -180 ≤ lon ∧ lon ≤ 180) := by
  have h90 : (90 : Float).isNaN = false := by decide +kernel
  have hm90 : (-90 : Float).isNaN = false := by decide +kernel
  have h180 : (180 : Float).isNaN = false := by decide +kernel
  have hm180 : (-180 : Float).isNaN = false := by decide +kernel
  simp only [inRange, Bool.not_eq_true', Bool.or_eq_false_iff, decide_eq_false_iff_not,
    gt_iff_lt]
  rw [not_lt_iff hm90, not_gt_iff h90, not_lt_iff hm180, not_gt_iff h180, ← or_and_left,
    and_assoc, ← or_and_left]

/-- **Reading a position text.** A text is read as the position `g` exactly when its fields
are read as `g`'s coordinates and each of its latitude and longitude is NaN or in range. -/
theorem parse?_eq_some_iff_in_range_or_nan (s : String) (g : Geodetic Float) :
    parse? s = some g ↔ FieldsRead s g ∧
      (g.lat.isNaN = true ∨ -90 ≤ g.lat ∧ g.lat ≤ 90) ∧
      (g.lon.isNaN = true ∨ -180 ≤ g.lon ∧ g.lon ≤ 180) := by
  rcases g with ⟨lat, lon, alt⟩
  rw [← inRange_iff]
  unfold parse? FieldsRead
  rcases hs : Text.splitAt s ',' with _ | ⟨lonText, _ | ⟨latText, rest⟩⟩
  · simp
  · simp
  · simp only [Option.bind_eq_bind, Option.bind_eq_some_iff]
    rcases rest with _ | ⟨altText, more⟩
    · -- no third field: the altitude is zero
      simp only [Option.bind_some, Option.ite_none_right_eq_some, Option.some.injEq, mk.injEq,
        ↓existsAndEq, true_and, List.cons.injEq, List.nil_eq, exists_and_right, and_true,
        reduceCtorEq, exists_const, false_and, or_false, exists_eq_left']
      constructor
      · rintro ⟨hlon, hlat, hr, rfl⟩
        exact ⟨⟨hlon, hlat, rfl⟩, hr⟩
      · rintro ⟨⟨hlon, hlat, rfl⟩, hr⟩
        exact ⟨hlon, hlat, hr, rfl⟩
    · simp [Option.bind_eq_some_iff, Option.ite_none_right_eq_some, and_assoc]

/-- **A NaN position is read.** The text `NaN,NaN` is read as a position whose latitude is not in
`[-90, 90]`. -/
theorem nan_position_read : ∃ g, parse? "NaN,NaN" = some g ∧ ¬ (-90 ≤ g.lat ∧ g.lat ≤ 90) := by
  have h : (parse? "NaN,NaN").map (fun g => g.lat.isNaN) = some true := by decide +kernel
  obtain ⟨g, hg, hnan⟩ := Option.map_eq_some_iff.1 h
  exact ⟨g, hg, fun hr => not_le_of_isNaN_right _ hnan hr.1⟩

end Geodetic

namespace Setup

/-- A home text that is not read fails the setup of a simulation with the home error, once the
boat settings give parameters. -/
theorem ofSettings_home_rejected {b : BoatSettings} {e : EnvironmentSettings} {timeStep : Float}
    {p : Params Float} (compass : Bool) (hp : b.toParams timeStep = .ok p)
    (h : Geodetic.parse? e.home = none) :
    ofSettings b e timeStep compass = .error (.home e.home) := by
  simp only [ofSettings, hp, h]
  rfl

end Setup

end SailSim
