import SailSim.Proofs.JsonRoundTrip

/-!
# Maps and generic reading

`Json.mapMembers` turns members into a map: it keeps the last member of each key and sorts by
key. Written with its two steps named (`Json.keepLast`, `Json.keyLe`):

* `Json.mapMembers_map` : building a map commutes with changing the values of members, and
  `Json.mem_mapMembers` : a map holds only members it was built from;
* `Json.nodup_mapMembers` and **`Json.mapMembers_mapMembers`** : a map has distinct keys and is
  sorted, so building a map from a map changes nothing;
* **`Json.generic_object_mapMembers`** : reading a map generically gives what reading its
  members does, since a generic reading keeps keys and reads each value (`Json.genericMembers_ok`).
-/

namespace SailSim.Json

/-! ### Building maps -/

/-- One step of building a map: the members with the key of `m` dropped and `m` appended. -/
def keepLast (acc : List (String × Json)) (m : String × Json) : List (String × Json) :=
  acc.filter (fun a => a.1 != m.1) ++ [m]

/-- Members ordered by key. -/
def keyLe (a b : String × Json) : Bool := decide (a.1 ≤ b.1)

theorem mapMembers_eq (ms : List (String × Json)) :
    mapMembers ms = (ms.foldl keepLast []).mergeSort keyLe := rfl

section KeyPreserving

variable (F : String × Json → String × Json) (hF : ∀ m, (F m).1 = m.1)
include hF

theorem keepLast_map (acc : List (String × Json)) (m : String × Json) :
    keepLast (acc.map F) (F m) = (keepLast acc m).map F := by
  simp [keepLast, List.filter_map, Function.comp_def, hF]

theorem foldl_keepLast_map (l acc : List (String × Json)) :
    (l.foldl keepLast acc).map F = (l.map F).foldl keepLast (acc.map F) := by
  induction l generalizing acc with
  | nil => rfl
  | cons m l ih => simp only [List.foldl_cons, List.map_cons, ih, keepLast_map F hF]

/-- Building a map commutes with changing the values of members. -/
theorem mapMembers_map (ms : List (String × Json)) :
    mapMembers (ms.map F) = (mapMembers ms).map F := by
  rw [mapMembers_eq, mapMembers_eq,
    @List.map_mergeSort _ _ keyLe keyLe F _ (fun a _ b _ => by simp [keyLe, hF]),
    foldl_keepLast_map F hF, List.map_nil]

end KeyPreserving

theorem mem_foldl_keepLast {l acc : List (String × Json)} {x : String × Json}
    (h : x ∈ l.foldl keepLast acc) : x ∈ acc ∨ x ∈ l := by
  induction l generalizing acc with
  | nil => exact .inl h
  | cons m l ih =>
    rcases ih h with h | h
    · simp only [keepLast, List.mem_append, List.mem_filter, List.mem_singleton] at h
      rcases h with ⟨h, -⟩ | rfl
      · exact .inl h
      · exact .inr List.mem_cons_self
    · exact .inr (List.mem_cons_of_mem _ h)

/-- A map holds only members it was built from. -/
theorem mem_mapMembers {ms : List (String × Json)} {x : String × Json} (h : x ∈ mapMembers ms) :
    x ∈ ms := by
  rw [mapMembers_eq, List.mem_mergeSort] at h
  simpa using mem_foldl_keepLast h

theorem nodup_keepLast {acc : List (String × Json)} (h : (acc.map Prod.fst).Nodup)
    (m : String × Json) : ((keepLast acc m).map Prod.fst).Nodup := by
  simp only [keepLast, List.map_append, List.map_cons, List.map_nil]
  refine List.nodup_append.2 ⟨h.sublist (List.filter_sublist.map Prod.fst),
    by simp, ?_⟩
  simp [List.mem_map, List.mem_filter]

theorem nodup_foldl_keepLast (l : List (String × Json)) {acc : List (String × Json)}
    (h : (acc.map Prod.fst).Nodup) : ((l.foldl keepLast acc).map Prod.fst).Nodup := by
  induction l generalizing acc with
  | nil => exact h
  | cons m l ih => exact ih (nodup_keepLast h m)

/-- Building a map from members with distinct keys keeps them all, in order. -/
theorem foldl_keepLast_of_nodup (l : List (String × Json)) {acc : List (String × Json)}
    (h : ((acc ++ l).map Prod.fst).Nodup) : l.foldl keepLast acc = acc ++ l := by
  induction l generalizing acc with
  | nil => simp
  | cons m l ih =>
    -- the key of `m` is new, so the filter drops nothing
    have hnew : ∀ a ∈ acc, a.1 ≠ m.1 := by
      intro a ha hkey
      rw [List.map_append, List.map_cons] at h
      exact (List.nodup_append.1 h).2.2 _ (List.mem_map_of_mem ha) _ List.mem_cons_self hkey
    have hstep : keepLast acc m = acc ++ [m] := by
      rw [keepLast, List.filter_eq_self.2 fun a ha => by simpa using hnew a ha]
    rw [List.foldl_cons, hstep, ih (by simpa using h)]
    simp

theorem keyLe_trans (a b c : String × Json) (hab : keyLe a b = true) (hbc : keyLe b c = true) :
    keyLe a c = true := by
  simp only [keyLe, decide_eq_true_eq] at *
  exact String.le_trans hab hbc

theorem keyLe_total (a b : String × Json) : (keyLe a b || keyLe b a) = true := by
  simp only [keyLe, Bool.or_eq_true, decide_eq_true_eq]
  exact String.le_total _ _

/-- A map has distinct keys. -/
theorem nodup_mapMembers (ms : List (String × Json)) : ((mapMembers ms).map Prod.fst).Nodup := by
  rw [mapMembers_eq]
  exact ((List.mergeSort_perm _ _).map Prod.fst).nodup_iff.2 (nodup_foldl_keepLast ms (by simp))

/-- **A map built from a map is itself.** -/
theorem mapMembers_mapMembers (ms : List (String × Json)) :
    mapMembers (mapMembers ms) = mapMembers ms := by
  have hsorted := List.pairwise_mergeSort keyLe_trans keyLe_total (ms.foldl keepLast [])
  rw [mapMembers_eq (mapMembers ms), foldl_keepLast_of_nodup _ (by simpa using nodup_mapMembers ms),
    List.nil_append, mapMembers_eq, List.mergeSort_of_pairwise hsorted]

/-! ### Generic reading -/

theorem genericMembers_map (G : Json → Json) {ms : List (String × Json)}
    (h : ∀ m ∈ ms, generic m.2 = .ok (G m.2)) :
    genericMembers ms = .ok (ms.map fun m => (m.1, G m.2)) := by
  induction ms with
  | nil => rfl
  | cons m ms ih =>
    obtain ⟨k, v⟩ := m
    have hv := h (k, v) List.mem_cons_self
    simp only [genericMembers, hv, ih fun m hm => h m (List.mem_cons_of_mem _ hm)]
    rfl

/-- Members read generically: each value read, keys kept. -/
theorem genericMembers_ok {ms ms' : List (String × Json)} (h : genericMembers ms = .ok ms') :
    (∀ m ∈ ms, generic m.2 = .ok ((generic m.2).toOption.getD m.2)) ∧
      ms' = ms.map fun m => (m.1, (generic m.2).toOption.getD m.2) := by
  induction ms generalizing ms' with
  | nil =>
    cases h
    simp
  | cons m ms ih =>
    obtain ⟨k, v⟩ := m
    cases hv : generic v with
    | error e => simp [genericMembers, hv, bind, Except.bind] at h
    | ok w =>
      cases hms : genericMembers ms with
      | error e => simp [genericMembers, hv, hms, bind, Except.bind] at h
      | ok ws =>
        simp [genericMembers, hv, hms, bind, Except.bind, pure, Except.pure] at h
        obtain ⟨hall, rfl⟩ := ih hms
        subst h
        refine ⟨?_, by simp [hv, Except.toOption]⟩
        simp only [List.mem_cons, forall_eq_or_imp]
        exact ⟨by simp [hv, Except.toOption], hall⟩

/-- **Reading a map generically reads the members it was built from.** -/
theorem generic_object_mapMembers {ms : List (String × Json)} {w : Json}
    (h : generic (.object ms) = .ok w) : generic (.object (mapMembers ms)) = .ok w := by
  cases hms : genericMembers ms with
  | error e => simp [generic, hms, Functor.map, Except.map] at h
  | ok ms' =>
    obtain ⟨hall, rfl⟩ := genericMembers_ok hms
    simp only [generic, hms, Functor.map, Except.map, Except.ok.injEq] at h
    subst h
    have hF : ∀ m : String × Json, (m.1, (generic m.2).toOption.getD m.2).1 = m.1 := fun _ => rfl
    rw [generic, genericMembers_map (fun v => (generic v).toOption.getD v)
      fun m hm => hall m (mem_mapMembers hm),
      ← mapMembers_map _ hF]
    simp only [Functor.map, Except.map, mapMembers_mapMembers]

/-! ### Number literals in maps -/

theorem literalMembers_iff {ms : List (String × Json)} :
    LiteralMembers ms ↔ ∀ m ∈ ms, LiteralNumbers m.2 := by
  induction ms with
  | nil => simp [LiteralMembers]
  | cons m ms ih => simp [LiteralMembers, ih]

theorem LiteralMembers.mapMembers {ms : List (String × Json)} (h : LiteralMembers ms) :
    LiteralMembers (mapMembers ms) :=
  literalMembers_iff.2 fun m hm => literalMembers_iff.1 h m (mem_mapMembers hm)

end SailSim.Json
