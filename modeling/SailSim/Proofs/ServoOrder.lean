import Mathlib
import SailSim.Proofs.Schedule

/-!
# The order a keyframe's entries are applied in

A keyframe's servo entries come from a JSON object, and they are checked and applied in the
order its map is visited, which nothing fixes.  The schedule `Schedule.build` makes depends on
that order in exactly two ways.  A channel can be named by several keys (`"3"`, `"03"` and
`"+3"` all read as channel 3), and the entry applied last wins; and the entries are checked as
they are applied, so of two refused entries the one visited first is reported.  Nothing else
depends on the order:

* `resolve_eq_firstError` : resolving keyframes fails with the first error a scan of their
  times and entries meets, and otherwise holds every keyframe's entries written in order; the
  error does not depend on the command, and the entries of one keyframe are refused with the
  error of the first refused entry;
* `foldl_writeEntry_perm` : entries that give each channel they name one width write the same
  command in any order;
* `Schedule.build_servo_order` : **for keyframes that differ only in the order of their entries,
  building succeeds for both or fails for both, and then at the same keyframe; the errors agree
  when no keyframe has two refused entries, and the schedules agree when no keyframe names a
  channel twice with different widths**;
* `Schedule.channel_spellings_race` : `"3"` and `"03"` both set channel 3, and the width the
  schedule holds is that of whichever is visited last.
-/

namespace SailSim

theorem Controls.ext_get {c d : Controls} (h : ∀ i, c.get i = d.get i) : c = d := by
  obtain ⟨cs⟩ := c
  obtain ⟨ds⟩ := d
  congr 1
  apply Vector.ext
  intro k hk
  exact h ⟨k, hk⟩

/-- Writes to two channels commute, and so do two writes of one width to one channel. -/
theorem Controls.set_set_comm (c : Controls) {i j : Fin 16} {v w : UInt16} (h : i = j → v = w) :
    (c.set i v).set j w = (c.set j w).set i v := by
  apply Controls.ext_get
  intro k
  simp only [Controls.get_set]
  by_cases hjk : j = k <;> by_cases hik : i = k
  · subst hjk hik
    simp [h rfl]
  all_goals simp [hjk, hik]

/-- The keyframe an error is about; none for a text that holds no keyframes. -/
def ScheduleError.keyframe? : ScheduleError → Option Nat
  | .unreadable _ => none
  | .negativeTime i _ => some i
  | .notAfter i _ _ => some i
  | .unknownChannel i _ => some i
  | .pwmOutOfRange i _ _ => some i

namespace Keyframe

/-- The error an entry of keyframe `i` raises, if it is refused: a key that names no channel,
or a width outside the servo range. -/
def entryError (i : Nat) (e : String × UInt16) : Option ScheduleError :=
  match channelOfKey? e.1 with
  | none => some (.unknownChannel i e.1)
  | some ch => if pwmInRange e.2 then none else some (.pwmOutOfRange i ch.val e.2)

/-- Whether an entry is refused. -/
def refused (e : String × UInt16) : Bool := (entryError 0 e).isSome

/-- At most one of the keyframe's entries is refused. -/
def OneRefusal (f : Keyframe) : Prop :=
  ∀ a ∈ f.servos, ∀ b ∈ f.servos, refused a = true → refused b = true → a = b

/-- Entries that name one channel give it one width. -/
def Consistent (f : Keyframe) : Prop :=
  ∀ a ∈ f.servos, ∀ b ∈ f.servos, ∀ ch, channelOfKey? a.1 = some ch →
    channelOfKey? b.1 = some ch → a.2 = b.2

theorem isSome_entryError (i : Nat) (e : String × UInt16) :
    (entryError i e).isSome = refused e := by
  unfold refused entryError
  split
  · rfl
  · split <;> rfl

theorem keyframe?_entryError {i : Nat} {e : String × UInt16} {err : ScheduleError}
    (h : entryError i e = some err) : err.keyframe? = some i := by
  unfold entryError at h
  split at h
  · cases h
    rfl
  · split at h
    · cases h
    · cases h
      rfl

/-- Writing an entry, then another, is writing them the other way round when they do not give
one channel two widths. -/
theorem writeEntry_comm {a b : String × UInt16}
    (h : ∀ ch, channelOfKey? a.1 = some ch → channelOfKey? b.1 = some ch → a.2 = b.2)
    (c : Controls) : writeEntry (writeEntry c a) b = writeEntry (writeEntry c b) a := by
  unfold writeEntry
  cases ha : channelOfKey? a.1 <;> cases hb : channelOfKey? b.1
  · rfl
  · rfl
  · rfl
  · rename_i i j
    exact Controls.set_set_comm c fun hij => h i ha (hij ▸ hb)

end Keyframe

/-- **Entries that give each channel they name one width write the same command in any
order.** -/
theorem foldl_writeEntry_perm {es es' : List (String × UInt16)} (hp : es.Perm es')
    (hc : ∀ a ∈ es, ∀ b ∈ es, ∀ ch, channelOfKey? a.1 = some ch →
      channelOfKey? b.1 = some ch → a.2 = b.2) (c : Controls) :
    es.foldl Keyframe.writeEntry c = es'.foldl Keyframe.writeEntry c :=
  hp.foldl_eq' (fun a ha b hb z => Keyframe.writeEntry_comm (hc a ha b hb) z) c

/-! ### Searching for the first refusal -/

section FindSome

variable {α β : Type} {f : α → Option β} {l l' : List α}

theorem isSome_findSome?_perm (hp : l.Perm l') :
    (l.findSome? f).isSome = (l'.findSome? f).isSome := by
  rw [Bool.eq_iff_iff, List.findSome?_isSome_iff, List.findSome?_isSome_iff]
  exact ⟨fun ⟨a, ha, hfa⟩ => ⟨a, hp.mem_iff.1 ha, hfa⟩,
    fun ⟨a, ha, hfa⟩ => ⟨a, hp.mem_iff.2 ha, hfa⟩⟩

/-- A search that can succeed on one element only finds the same in any order. -/
theorem findSome?_perm_of_unique (hp : l.Perm l')
    (hu : ∀ a ∈ l, ∀ b ∈ l, (f a).isSome → (f b).isSome → a = b) :
    l.findSome? f = l'.findSome? f := by
  cases h₁ : l.findSome? f with
  | none =>
    rw [eq_comm, List.findSome?_eq_none_iff]
    exact fun x hx => List.findSome?_eq_none_iff.1 h₁ x (hp.mem_iff.2 hx)
  | some v =>
    obtain ⟨a, ha, hfa⟩ := List.exists_of_findSome?_eq_some h₁
    cases h₂ : l'.findSome? f with
    | none =>
      have := List.findSome?_eq_none_iff.1 h₂ a (hp.mem_iff.1 ha)
      rw [hfa] at this
      cases this
    | some w =>
      obtain ⟨b, hb, hfb⟩ := List.exists_of_findSome?_eq_some h₂
      have hab : a = b := hu a ha b (hp.mem_iff.2 hb) (by simp [hfa]) (by simp [hfb])
      rw [← hab, hfa] at hfb
      exact hfb

end FindSome

/-! ### What resolving keyframes does -/

/-- The error of a keyframe's time: negative, or not after the keyframe before. -/
def timeError (i : Nat) (previous : Option Float) (t : Float) : Option ScheduleError :=
  if t < 0 then some (.negativeTime i t)
  else
    match previous with
    | some p => if t ≤ p then some (.notAfter i t p) else none
    | none => none

/-- The first error a scan of keyframes meets, from keyframe `i` on, after the keyframe time
`previous`: each keyframe's time, then its entries in order. -/
def firstError (i : Nat) (previous : Option Float) : List Keyframe → Option ScheduleError
  | [] => none
  | f :: fs =>
    match timeError i previous f.t with
    | some e => some e
    | none =>
      match f.servos.findSome? (Keyframe.entryError i) with
      | some e => some e
      | none => firstError (i + 1) (some f.t) fs

/-- A keyframe's entries are refused with the error of the first refused entry, and otherwise
written in order. -/
theorem applyServos_eq (i : Nat) (c : Controls) (es : List (String × UInt16)) :
    applyServos i c es =
      match es.findSome? (Keyframe.entryError i) with
      | some e => .error e
      | none => .ok (es.foldl Keyframe.writeEntry c) := by
  induction es generalizing c with
  | nil => rfl
  | cons e es ih =>
    obtain ⟨key, pwm⟩ := e
    simp only [applyServos, List.findSome?_cons, List.foldl_cons, Keyframe.entryError,
      Keyframe.writeEntry]
    cases channelOfKey? key with
    | none => rfl
    | some ch =>
      by_cases hpwm : pwmInRange pwm = true
      · simp only [hpwm, if_true]
        exact ih _
      · simp only [hpwm, Bool.false_eq_true, if_false]
        rfl

theorem resolve_cons_eq (i : Nat) (previous : Option Float) (c : Controls) (f : Keyframe)
    (fs : List Keyframe) :
    resolve i previous c (f :: fs) =
      match timeError i previous f.t with
      | some e => .error e
      | none =>
        (applyServos i c f.servos).bind fun c' =>
          (resolve (i + 1) (some f.t) c' fs).map (⟨f.t, c', f.armed⟩ :: ·) := by
  have hmap : ∀ x : Except ScheduleError (List Setpoint), ∀ c',
      (x >>= fun rest => pure (⟨f.t, c', f.armed⟩ :: rest)) = x.map (⟨f.t, c', f.armed⟩ :: ·) := by
    intro x c'
    cases x <;> rfl
  simp only [resolve, timeError, hmap]
  by_cases hneg : f.t < 0
  · simp only [hneg, if_true]
    rfl
  · simp only [hneg, if_false]
    cases previous with
    | none => rfl
    | some p =>
      by_cases hle : f.t ≤ p
      · simp only [hle, if_true]
        rfl
      · simp only [hle, if_false]
        rfl

/-- **Resolving keyframes fails with the first error a scan meets, and otherwise holds every
keyframe's entries written in order.** The error depends on the keyframes alone, not on the
command they start from. -/
theorem resolve_eq_firstError (i : Nat) (previous : Option Float) (c : Controls)
    (fs : List Keyframe) :
    resolve i previous c fs =
      match firstError i previous fs with
      | some e => .error e
      | none => .ok (heldPoints c fs) := by
  induction fs generalizing i previous c with
  | nil => rfl
  | cons f fs ih =>
    rw [resolve_cons_eq, firstError]
    cases timeError i previous f.t with
    | some e => rfl
    | none =>
      simp only [applyServos_eq]
      cases f.servos.findSome? (Keyframe.entryError i) with
      | some e => rfl
      | none =>
        simp only [Except.bind, ih, heldPoints, Keyframe.applyTo]
        cases firstError (i + 1) (some f.t) fs <;> rfl

theorem build_eq_firstError (fs : List Keyframe) :
    Schedule.build fs =
      match firstError 0 none fs with
      | some e => .error e
      | none => .ok ⟨heldPoints Controls.neutral fs⟩ := by
  simp only [Schedule.build, resolve_eq_firstError]
  cases firstError 0 none fs <;> rfl

/-! ### Reordering the entries of keyframes -/

/-- Two lists of keyframes that differ at most in the order each keyframe's entries are
visited in. -/
def ServoReordering (fs gs : List Keyframe) : Prop :=
  List.Forall₂ (fun f g => f.t = g.t ∧ f.armed = g.armed ∧ f.servos.Perm g.servos) fs gs

/-- A keyframe of two entries against the same keyframe with them swapped. -/
theorem ServoReordering.swap (t : Float) (a b : String × UInt16) (armed : Option Bool) :
    ServoReordering [⟨t, [a, b], armed⟩] [⟨t, [b, a], armed⟩] :=
  List.Forall₂.cons ⟨rfl, rfl, List.Perm.swap _ _ _⟩ List.Forall₂.nil

variable {fs gs : List Keyframe}

/-- Whether a scan fails, and at which keyframe, does not depend on the order of entries. -/
theorem firstError_keyframe?_reorder (h : ServoReordering fs gs) (i : Nat)
    (previous : Option Float) :
    (firstError i previous fs).map ScheduleError.keyframe? =
      (firstError i previous gs).map ScheduleError.keyframe? := by
  induction h generalizing i previous with
  | nil => rfl
  | @cons f g fs gs hfg _ ih =>
    obtain ⟨ht, -, hp⟩ := hfg
    simp only [firstError, ht]
    cases timeError i previous g.t with
    | some e => rfl
    | none =>
      have hsome := isSome_findSome?_perm (f := Keyframe.entryError i) hp
      cases hf : f.servos.findSome? (Keyframe.entryError i) <;>
        cases hg : g.servos.findSome? (Keyframe.entryError i) <;> rw [hf, hg] at hsome
      · exact ih _ _
      · cases hsome
      · cases hsome
      · obtain ⟨a, -, ha⟩ := List.exists_of_findSome?_eq_some hf
        obtain ⟨b, -, hb⟩ := List.exists_of_findSome?_eq_some hg
        simp [Keyframe.keyframe?_entryError ha, Keyframe.keyframe?_entryError hb]

/-- With at most one refused entry in each keyframe, the first error does not depend on the
order of entries. -/
theorem firstError_reorder (h : ServoReordering fs gs) (hone : ∀ f ∈ fs, f.OneRefusal)
    (i : Nat) (previous : Option Float) : firstError i previous fs = firstError i previous gs := by
  induction h generalizing i previous with
  | nil => rfl
  | @cons f g fs gs hfg _ ih =>
    obtain ⟨ht, -, hp⟩ := hfg
    have hf := hone f List.mem_cons_self
    have hsame : f.servos.findSome? (Keyframe.entryError i) =
        g.servos.findSome? (Keyframe.entryError i) := by
      refine findSome?_perm_of_unique hp fun a ha b hb hsa hsb => hf a ha b hb ?_ ?_
      · rwa [Keyframe.isSome_entryError] at hsa
      · rwa [Keyframe.isSome_entryError] at hsb
    simp only [firstError, ht, hsame, ih (fun f' hf' => hone f' (List.mem_cons_of_mem f hf'))]

/-- With every keyframe giving each channel it names one width, the held setpoints do not
depend on the order of entries. -/
theorem heldPoints_reorder (h : ServoReordering fs gs) (hcons : ∀ f ∈ fs, f.Consistent)
    (c : Controls) : heldPoints c fs = heldPoints c gs := by
  induction h generalizing c with
  | nil => rfl
  | @cons f g fs gs hfg _ ih =>
    obtain ⟨ht, ha, hp⟩ := hfg
    have hwrite : f.applyTo c = g.applyTo c :=
      foldl_writeEntry_perm hp (hcons f List.mem_cons_self) c
    simp only [heldPoints, ht, ha, hwrite,
      ih (fun f' hf' => hcons f' (List.mem_cons_of_mem f hf'))]

namespace Schedule

/-- **Building a schedule depends on the order of a keyframe's entries only through refusals
and repeated channels.** For keyframes that differ only in the order each keyframe's entries
are visited in: building succeeds for both or fails for both, and then at the same keyframe;
when no keyframe has two refused entries the errors are the same; and when no keyframe names a
channel twice with different widths the schedules are the same. -/
theorem build_servo_order (h : ServoReordering fs gs) :
    (build fs).toBool = (build gs).toBool ∧
      (∀ e e', build fs = .error e → build gs = .error e' → e.keyframe? = e'.keyframe?) ∧
      ((∀ f ∈ fs, f.OneRefusal) → ∀ e, build fs = .error e ↔ build gs = .error e) ∧
      ((∀ f ∈ fs, f.Consistent) → ∀ s, build fs = .ok s ↔ build gs = .ok s) := by
  have hkey := firstError_keyframe?_reorder h 0 none
  simp only [build_eq_firstError]
  refine ⟨?_, ?_, fun hone => ?_, fun hcons => ?_⟩
  · cases hf : firstError 0 none fs <;> cases hg : firstError 0 none gs <;>
      simp [hf, hg, Except.toBool] at hkey ⊢
  · intro e e' he he'
    cases hf : firstError 0 none fs <;> cases hg : firstError 0 none gs <;>
      simp [hf, hg] at hkey he he'
    rw [← he, ← he']
    exact hkey
  · rw [firstError_reorder h hone]
    cases firstError 0 none gs <;> simp
  · rw [heldPoints_reorder h hcons]
    cases hf : firstError 0 none fs <;> cases hg : firstError 0 none gs <;>
      simp [hf, hg] at hkey ⊢

/-- The keyframe of the schedule test, with its two entries visited either way: both succeed,
to the same schedule. -/
theorem test_keyframe_servo_order :
    ServoReordering [⟨1, [("0", 1600), ("3", 1500)], none⟩]
        [⟨1, [("3", 1500), ("0", 1600)], none⟩] ∧
      (build [⟨1, [("0", 1600), ("3", 1500)], none⟩]).toBool =
        (build [⟨1, [("3", 1500), ("0", 1600)], none⟩]).toBool :=
  have h := ServoReordering.swap 1 ("0", 1600) ("3", 1500) none
  ⟨h, (build_servo_order h).1⟩

/-- `"3"` and `"03"` both name channel 3: visited in one order the keyframe holds 1500 on it,
in the other 1200. -/
theorem channel_spellings_race :
    ServoReordering [⟨0, [("3", 1200), ("03", 1500)], none⟩]
        [⟨0, [("03", 1500), ("3", 1200)], none⟩] ∧
      build [⟨0, [("3", 1200), ("03", 1500)], none⟩] ≠
        build [⟨0, [("03", 1500), ("3", 1200)], none⟩] := by
  have hfirst : (build [⟨0, [("3", 1200), ("03", 1500)], none⟩]).toOption.map
      (·.points.map (·.input.get 3)) = some [1500] := by decide
  have hsecond : (build [⟨0, [("03", 1500), ("3", 1200)], none⟩]).toOption.map
      (·.points.map (·.input.get 3)) = some [1200] := by decide
  refine ⟨ServoReordering.swap 0 ("3", 1200) ("03", 1500) none, fun h => ?_⟩
  rw [h, hsecond] at hfirst
  cases hfirst

end Schedule

end SailSim
