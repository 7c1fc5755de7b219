import Mathlib
import SailSim.Proofs.GenericJson
import SailSim.Store.Record

/-!
# Stored records read back

A run database keeps a run, its samples and its summary in columns. Converting to the stored
form and back loses only what the columns leave out:

* `Uuid.parse_toString` : the canonical text of sixteen bytes parses back to them, since each
  byte is written as two hexadecimal digits that read back as it (`Uuid.byteHex_digits`,
  checked byte by byte);
* `Store.configOfText_compact` : a configuration is stored as the compact text of its map and
  reads back as its generic reading, by the JSON round trip and `Json.generic_object_mapMembers`;
* `Store.StoredSample.toSample_ofSample_get`, `Store.StoredSample.toSample_ofSample` : a sample
  keeps every field but the clock, the motor speed and the servo channels other than the four
  the boat reads;
* `Store.summary?_toStored` and `Store.StoredRun.toRun_ofRun` : a stored summary reads back
  with the run's UUID, and a run reads back with its UUID, a fresh one if it had none;
* **`Store.stored_records_round_trip`** : all three.
-/

namespace SailSim.Uuid

/-! ### UUID text -/

/-- The first of the two digits the canonical form writes for a byte, as a byte. -/
def highDigit (b : UInt8) : UInt8 := (byteHex b).toByteArray.toList.getD 0 0

/-- The second of the two digits the canonical form writes for a byte, as a byte. -/
def lowDigit (b : UInt8) : UInt8 := (byteHex b).toByteArray.toList.getD 1 0

/-- Every byte is written as two digits that read back as the byte. -/
theorem byteHex_digits : ∀ b : UInt8,
    (byteHex b).toByteArray.toList = [highDigit b, lowDigit b] ∧
      hexByte (highDigit b) (lowDigit b) = some b := by
  decide +kernel

-- the loop behind `ByteArray.toList` collects the bytes from `i` on, reversed onto `r`
theorem toList_loop (bs : ByteArray) (i : Nat) (r : List UInt8) :
    ByteArray.toList.loop bs i r = r.reverse ++ bs.data.toList.drop i := by
  have hs : bs.data.toList.length = bs.size := Array.length_toList
  induction i, r using ByteArray.toList.loop.induct bs with
  | case1 i r hi ih =>
    rw [ByteArray.toList.loop.eq_1, if_pos hi, ih,
      List.drop_eq_getElem_cons (show i < bs.data.toList.length by omega)]
    simp only [ByteArray.get!, List.reverse_cons, List.append_assoc, List.singleton_append,
      Array.getElem_toList]
    rw [getElem!_pos bs.data i hi]
  | case2 i r hi =>
    rw [ByteArray.toList.loop.eq_1, if_neg hi, List.drop_eq_nil_of_le (by omega), List.append_nil]

theorem byteArray_toList (bs : ByteArray) : bs.toList = bs.data.toList := by
  simp [ByteArray.toList, toList_loop]

theorem byteArray_toList_append (a b : ByteArray) : (a ++ b).toList = a.toList ++ b.toList := by
  simp only [byteArray_toList, ByteArray.data_append, Array.toList_append]

/-- **The canonical text of sixteen bytes parses back to them.** -/
theorem parse_toString (u : Uuid) (h : u.bytes.length = 16) : parse u.toString = .ok u := by
  -- the parser checks the text position by position, so take the sixteen bytes apart; the
  -- lists of other lengths contradict `h`
  obtain ⟨bs⟩ := u
  rcases bs with _ | ⟨b0, _ | ⟨b1, _ | ⟨b2, _ | ⟨b3, _ | ⟨b4, _ | ⟨b5, _ | ⟨b6, _ | ⟨b7, _ |
    ⟨b8, _ | ⟨b9, _ | ⟨b10, _ | ⟨b11, _ | ⟨b12, _ | ⟨b13, _ | ⟨b14, _ | ⟨b15, _ |
    ⟨b16, bs⟩⟩⟩⟩⟩⟩⟩⟩⟩⟩⟩⟩⟩⟩⟩⟩⟩ <;>
    simp only [List.length_cons, List.length_nil] at h <;> try omega
  have hdash : ("-" : String).toByteArray.toList = [45] := by decide +kernel
  have htext : (toString ⟨[b0, b1, b2, b3, b4, b5, b6, b7, b8, b9, b10, b11, b12, b13, b14,
      b15]⟩).toByteArray.toList =
      [highDigit b0, lowDigit b0, highDigit b1, lowDigit b1, highDigit b2, lowDigit b2,
        highDigit b3, lowDigit b3, 45, highDigit b4, lowDigit b4, highDigit b5, lowDigit b5, 45,
        highDigit b6, lowDigit b6, highDigit b7, lowDigit b7, 45, highDigit b8, lowDigit b8,
        highDigit b9, lowDigit b9, 45, highDigit b10, lowDigit b10, highDigit b11, lowDigit b11,
        highDigit b12, lowDigit b12, highDigit b13, lowDigit b13, highDigit b14, lowDigit b14,
        highDigit b15, lowDigit b15] := by
    simp [toString, byteArray_toList_append, hdash, (byteHex_digits _).1]
  simp [parse, htext, ofCanonical, hyphens, List.zipIdx, ofDigits, (byteHex_digits _).2]

end SailSim.Uuid

namespace SailSim.Store

open Json

/-! ### Configurations -/

/-- The text of a configuration is the compact text of its map, `{}` when it has no members. -/
theorem configText_eq (cfg : List (String × Json)) :
    configText cfg = .ok (compact (.object (mapMembers cfg))) := by
  unfold configText
  split
  · rename_i h
    rw [List.isEmpty_iff.1 h]
    decide +kernel
  · rfl

/-- **A configuration reads back as its generic reading**: numbers as binary64, members as a map. -/
theorem configOfText_compact {cfg ms : List (String × Json)} (hlit : LiteralMembers cfg)
    (hg : generic (.object cfg) = .ok (.object ms)) :
    configOfText (compact (.object (mapMembers cfg))) = ms := by
  have hparse := parse_compact (show LiteralNumbers (.object (mapMembers cfg)) from hlit.mapMembers)
  simp [configOfText, hparse, generic_object_mapMembers hg]

/-! ### Samples, summaries and runs -/

section Points

variable {points : PointLibrary} (hpoints : points.KeepsCoordinates)
include hpoints

/-- A point keeps the longitude, latitude and altitude it was built with. -/
theorem Point.toGeodetic_ofGeodetic (g : Geodetic Float) :
    (Point.ofGeodetic g points).toGeodetic points = g := by
  rw [Point.ofGeodetic, Point.toGeodetic, hpoints (g.lon, g.lat, g.alt)]

namespace StoredSample

omit hpoints in
/-- A stored sample keeps the steering, throttle, mainsail and wing channels; the others read
back as zero. -/
theorem toSample_ofSample_get (s : StepSample) (runId : Nat) (uuid : String) (i : Fin 16) :
    (toSample uuid (ofSample runId s points) points).input.get i =
      if i = Controls.steeringChannel ∨ i = Controls.throttleChannel ∨
          i = Controls.mainsailChannel ∨ i = Controls.wingChannel then s.input.get i else 0 := by
  simp only [toSample, ofSample, Controls.get_set]
  split_ifs <;> simp_all [Controls.zero, Controls.get, eq_comm]

/-- Apart from the servo channels, the clock and the motor speed, a sample reads back whole. -/
theorem toSample_ofSample (s : StepSample) (runId : Nat) :
    { toSample s.runId (ofSample runId s points) points with
        input := s.input,
        state := { (toSample s.runId (ofSample runId s points) points).state with
          timeUs := s.state.timeUs, rpm := s.state.rpm } } = s := by
  simp only [toSample, ofSample, Point.toGeodetic_ofGeodetic hpoints]

end StoredSample

end Points

/-- A summary stored on a run reads back, its run id the run's UUID. -/
theorem summary?_toStored (m : StoredRun) (s : RunSummary) :
    ({ m with summary := RunSummary.toStored s } : StoredRun).summary? =
      some { s with runId := m.uuid.toString } :=
  rfl

namespace StoredRun

/-- A run whose UUID is empty or canonical, and whose configuration's numbers are JSON number
literals read as binary64, reads back from its stored form: with a fresh UUID if it had none,
and its configuration as a generic reading gives it. -/
theorem toRun_ofRun {points : PointLibrary} (hpoints : points.KeepsCoordinates) (r : Run)
    (fresh : Uuid) {ms : List (String × Json)}
    (hu : r.uuid = "" ∨ ∃ u : Uuid, u.bytes.length = 16 ∧ r.uuid = u.toString)
    (hlit : LiteralMembers r.config) (hg : generic (.object r.config) = .ok (.object ms)) :
    (toRun · points) <$> ofRun r fresh points =
      .ok { r with uuid := if r.uuid.isEmpty then fresh.toString else r.uuid, config := ms } := by
  have hcfg := configOfText_compact hlit hg
  have hhome := Point.toGeodetic_ofGeodetic hpoints r.home
  by_cases he : r.uuid.isEmpty
  · simp [ofRun, he, configText_eq, toRun, hcfg, hhome, bind, Except.bind,
      pure, Except.pure, Functor.map, Except.map]
  · obtain ⟨u, hlen, hu⟩ : ∃ u : Uuid, u.bytes.length = 16 ∧ r.uuid = u.toString := by
      rcases hu with h | h
      · simp [h] at he
      · exact h
    have hparse : Uuid.parse r.uuid = .ok u := hu ▸ Uuid.parse_toString u hlen
    simp [ofRun, he, hparse, ← hu, Except.mapError, configText_eq, toRun, hcfg, hhome, bind,
      Except.bind, pure, Except.pure, Functor.map, Except.map]

end StoredRun

/-- **Stored records lose only what their columns leave out.**  With a geometry library whose
points keep their coordinates, a sample comes back from its stored form whole but for the
clock, the motor speed and the servo channels other than steering, throttle, mainsail and wing,
which come back zero; a summary stored on a run comes back with the run's UUID as its run id;
and a run whose UUID is empty or canonical, and whose configuration's numbers are JSON number
literals that read as binary64, comes back with a fresh UUID if it had none and its
configuration as a generic reading gives it. -/
theorem stored_records_round_trip (points : PointLibrary) (hpoints : points.KeepsCoordinates) :
    (∀ (s : StepSample) (runId : Nat),
      (∀ i, (StoredSample.toSample s.runId (StoredSample.ofSample runId s points) points).input.get
          i =
        if i = Controls.steeringChannel ∨ i = Controls.throttleChannel ∨
            i = Controls.mainsailChannel ∨ i = Controls.wingChannel then s.input.get i else 0) ∧
      { StoredSample.toSample s.runId (StoredSample.ofSample runId s points) points with
          input := s.input,
          state := { (StoredSample.toSample s.runId (StoredSample.ofSample runId s points)
              points).state with
            timeUs := s.state.timeUs, rpm := s.state.rpm } } = s) ∧
    (∀ (m : StoredRun) (s : RunSummary),
      ({ m with summary := RunSummary.toStored s } : StoredRun).summary? =
        some { s with runId := m.uuid.toString }) ∧
    (∀ (r : Run) (fresh : Uuid) (ms : List (String × Json)),
      (r.uuid = "" ∨ ∃ u : Uuid, u.bytes.length = 16 ∧ r.uuid = u.toString) →
      LiteralMembers r.config → generic (.object r.config) = .ok (.object ms) →
      (StoredRun.toRun · points) <$> StoredRun.ofRun r fresh points =
        .ok { r with uuid := if r.uuid.isEmpty then fresh.toString else r.uuid, config := ms }) :=
  ⟨fun s runId => ⟨StoredSample.toSample_ofSample_get s runId s.runId,
      StoredSample.toSample_ofSample hpoints s runId⟩,
    summary?_toStored,
    fun r fresh _ hu hlit hg => StoredRun.toRun_ofRun hpoints r fresh hu hlit hg⟩

/-- A run without a UUID whose configuration names a mode reads back, through the points the
program runs with, with the fresh UUID and the same configuration. -/
theorem unnamed_run_round_trip :
    let r : Run :=
      ⟨0, "", "trial", "sailboat", Instant.zero, 0.01, 60, ⟨0, 0, 0⟩, [("mode", .string "race")]⟩
    let fresh : Uuid := ⟨List.replicate 16 7⟩
    PointLibrary.standard.KeepsCoordinates ∧
      (r.uuid = "" ∨ ∃ u : Uuid, u.bytes.length = 16 ∧ r.uuid = u.toString) ∧
      LiteralMembers r.config ∧ generic (.object r.config) = .ok (.object r.config) ∧
      (StoredRun.toRun · .standard) <$> StoredRun.ofRun r fresh .standard =
        .ok { r with
          uuid := if r.uuid.isEmpty then fresh.toString else r.uuid, config := r.config } := by
  intro r fresh
  have hu : r.uuid = "" ∨ ∃ u : Uuid, u.bytes.length = 16 ∧ r.uuid = u.toString := .inl rfl
  have hlit : LiteralMembers r.config := by simp [r, LiteralMembers, LiteralNumbers]
  have hg : generic (.object r.config) = .ok (.object r.config) := by
    simp [r, generic, genericMembers, mapMembers_eq, keepLast, Functor.map, Except.map, bind,
      Except.bind, pure, Except.pure]
  exact ⟨PointLibrary.standard_keepsCoordinates, hu, hlit, hg,
    (stored_records_round_trip .standard PointLibrary.standard_keepsCoordinates).2.2 r fresh
      r.config hu hlit hg⟩

end SailSim.Store
