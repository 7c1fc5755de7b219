import Mathlib
import SailSim.Proofs.Disk

/-!
# A written file reads back

Writing a file and reading it again gives back the bytes written, on a disk whose working
directory is absolute (`Disk.readFile_writeFile`). The write may have found the file there, or
only its parent directory; either way every directory above the file was one before the write,
and the write, which sets one node, leaves them as they were.

That rests on the shape of a clean absolute path: the root followed by names, none empty, none
`.` or `..` and none holding a slash (`Path.ofElements`, `Path.IsName`). Resolving a path from
an absolute working directory gives that shape (`Path.resolve_eq_ofElements`); the directories
above such a path are its proper prefixes (`Path.mem_ancestors_ofElements`), and its directory
is the path without its last name (`Path.dir_ofElements_concat`).

Last, where a file named inside a directory lands: resolving `dir/x` for a name `x` resolves
`dir` and adds `x` (`Path.resolve_join_name`). For a relative `dir` this needs cancelling `..`
to give the same stack whether it runs over `dir`'s pieces or over the pieces cleaning `dir`
leaves (`Path.cancel_reverse_cancel`). So a file named inside an existing directory can be
written wherever no directory stands (`Disk.writeFile_join_name`).
-/

namespace SailSim

namespace Text

/-- Splitting at `c` cuts the text where `c` stands. -/
theorem splitChars_append_cons (c : Char) (ys : List Char) :
    ∀ (xs piece : List Char),
      splitChars c (xs ++ c :: ys) piece = splitChars c xs piece ++ splitChars c ys []
  | [], piece => by simp [splitChars]
  | x :: xs, piece => by
    by_cases hx : x = c
    · simp [splitChars, hx, splitChars_append_cons c ys xs []]
    · simp [splitChars, hx, splitChars_append_cons c ys xs (x :: piece)]

theorem splitAt_append_sep (a b : String) (c : Char) :
    splitAt (a ++ String.singleton c ++ b) c = splitAt a c ++ splitAt b c := by
  simp [splitAt, String.toList_append, splitChars_append_cons]

theorem splitAt_of_not_mem {s : String} {c : Char} (h : c ∉ s.toList) : splitAt s c = [s] := by
  simp [splitAt, splitChars_of_not_mem [] h]

/-- No piece holds the character split at. -/
theorem not_mem_of_mem_splitChars {c : Char} :
    ∀ {cs piece : List Char}, c ∉ piece → ∀ x ∈ splitChars c cs piece, c ∉ x.toList
  | [], piece, hp, x, hx => by
    simp only [splitChars, List.mem_singleton] at hx
    simpa [hx] using hp
  | y :: cs, piece, hp, x, hx => by
    unfold splitChars at hx
    split at hx
    · rcases List.mem_cons.1 hx with rfl | hx
      · simpa using hp
      · exact not_mem_of_mem_splitChars (List.not_mem_nil) x hx
    · rename_i hy
      refine not_mem_of_mem_splitChars ?_ x hx
      simp only [List.mem_cons, not_or]
      exact ⟨fun h => hy (by simp [h]), hp⟩

theorem not_mem_of_mem_splitAt {s x : String} {c : Char} (hx : x ∈ splitAt s c) :
    c ∉ x.toList :=
  not_mem_of_mem_splitChars List.not_mem_nil x hx

/-- Pieces joined by `c`, none holding `c`, split back into themselves. -/
theorem splitAt_intercalate {c : Char} :
    ∀ {es : List String}, es ≠ [] → (∀ e ∈ es, c ∉ e.toList) →
      splitAt ((String.singleton c).intercalate es) c = es
  | [e], _, h => by simpa using splitAt_of_not_mem (h e (by simp))
  | e :: e' :: es, _, h => by
    rw [String.intercalate_cons_cons, splitAt_append_sep,
      splitAt_of_not_mem (h e (by simp)),
      splitAt_intercalate (List.cons_ne_nil _ _) (fun x hx => h x (List.mem_cons_of_mem _ hx))]
    rfl

end Text

namespace Path

/-- A name a clean path is made of: not empty, no slash, neither `.` nor `..`. -/
structure IsName (s : String) : Prop where
  ne_empty : s ≠ ""
  no_slash : '/' ∉ s.toList
  ne_dot : s ≠ "."
  ne_dotdot : s ≠ ".."

theorem IsName.piece {x : String} (hx : IsName x) : x ≠ "" ∧ '/' ∉ x.toList ∧ x ≠ "." :=
  ⟨hx.ne_empty, hx.no_slash, hx.ne_dot⟩

/-- The absolute path of the names `es`, from the root. -/
def ofElements (es : List String) : String := "/" ++ "/".intercalate es

/-- The pieces `clean` keeps of a path before cancelling: neither empty nor `.`. -/
def pieces (p : String) : List String := (Text.splitAt p '/').filter fun s => s != "" && s != "."

theorem isName_concat {es : List String} (hes : ∀ e ∈ es, IsName e) {x : String}
    (hx : IsName x) : ∀ e ∈ es ++ [x], IsName e := by
  intro e he
  rcases List.mem_append.1 he with he | he
  · exact hes e he
  · rwa [List.mem_singleton.1 he]

/-! ### Pieces and elements -/

theorem pieces_append_sep (a b : String) : pieces (a ++ "/" ++ b) = pieces a ++ pieces b := by
  simp only [pieces, ← List.filter_append]
  congr 1
  exact Text.splitAt_append_sep a b '/'

/-- The pieces of a path are neither empty nor `.`, and hold no slash. -/
theorem pieces_wf {p x : String} (hx : x ∈ pieces p) : x ≠ "" ∧ '/' ∉ x.toList ∧ x ≠ "." := by
  obtain ⟨hmem, hkeep⟩ := List.mem_filter.1 hx
  simp only [Bool.and_eq_true, bne_iff_ne, ne_eq] at hkeep
  exact ⟨hkeep.1, Text.not_mem_of_mem_splitAt hmem, hkeep.2⟩

theorem pieces_intercalate {es : List String} (hne : es ≠ [])
    (h : ∀ e ∈ es, e ≠ "" ∧ '/' ∉ e.toList ∧ e ≠ ".") : pieces ("/".intercalate es) = es := by
  unfold pieces
  rw [show "/" = String.singleton '/' from rfl,
    Text.splitAt_intercalate hne fun e he => (h e he).2.1, List.filter_eq_self]
  intro e he
  simp [(h e he).1, (h e he).2.2]

theorem pieces_ofElements {es : List String} (h : ∀ e ∈ es, IsName e) :
    pieces (ofElements es) = es := by
  by_cases hne : es = []
  · subst hne; rfl
  · rw [ofElements, show "/" ++ "/".intercalate es = "" ++ "/" ++ "/".intercalate es by simp,
      pieces_append_sep, pieces_intercalate hne fun e he => (h e he).piece]
    rfl

theorem elements_ofElements {es : List String} (h : ∀ e ∈ es, IsName e) :
    elements (ofElements es) = es := by
  by_cases hne : es = []
  · subst hne; rfl
  · rw [elements, ofElements,
      show "/" ++ "/".intercalate es = "" ++ "/" ++ "/".intercalate es by simp,
      show "/" = String.singleton '/' from rfl, Text.splitAt_append_sep,
      Text.splitAt_intercalate hne fun e he => (h e he).no_slash, List.filter_append,
      show (Text.splitAt "" '/').filter (· != "") = [] from rfl, List.nil_append,
      List.filter_eq_self.2 fun e he => by simpa using (h e he).ne_empty]

/-! ### Absolute paths -/

theorem isAbs_iff {p : String} : isAbs p = true ↔ p.toList.head? = some '/' := by
  rw [isAbs, String.startsWith_string_iff]
  cases p.toList <;> simp [eq_comm]

theorem isAbs_append {a : String} (b : String) (ha : isAbs a = true) :
    isAbs (a ++ b) = true := by
  rw [isAbs_iff] at ha ⊢
  rw [String.toList_append]
  cases h : a.toList with
  | nil => simp [h] at ha
  | cons x xs => simpa [h] using ha

theorem isAbs_ofElements (es : List String) : isAbs (ofElements es) = true :=
  isAbs_append _ (isAbs_iff.2 rfl)

section Cancel

/-- Without `..` nothing cancels: the elements go onto the stack in order. -/
theorem cancel_of_forall_ne (r : Bool) :
    ∀ (acc l : List String), (∀ e ∈ l, e ≠ "..") → cancel r acc l = l.reverse ++ acc
  | acc, [], _ => rfl
  | acc, e :: l, h => by
    have he : (e == "..") = false := by simpa using h e (by simp)
    rw [cancel_cons]
    simp only [cancelStep, he, Bool.false_eq_true, if_false]
    rw [cancel_of_forall_ne r _ l fun x hx => h x (List.mem_cons_of_mem _ hx)]
    simp

/-- Every element cancelling leaves comes from the stack it started with or the list. -/
theorem mem_cancel {r : Bool} :
    ∀ {acc l : List String} {x : String}, x ∈ cancel r acc l → x ∈ acc ∨ x ∈ l
  | acc, [], x, h => .inl h
  | acc, s :: l, x, h => by
    rw [cancel_cons] at h
    rcases mem_cancel h with hx | hx
    · -- what one step leaves on the stack: the stack popped, or `s` pushed
      unfold cancelStep at hx
      split at hx
      · rename_i hs
        split at hx
        · split at hx
          · rcases List.mem_cons.1 hx with rfl | hx
            · exact .inr (by simp_all)
            · exact .inl hx
          · exact .inl (List.mem_cons_of_mem _ hx)
        · split at hx
          · simp at hx
          · rcases List.mem_singleton.1 hx with rfl
            exact .inr (by simp_all)
      · rcases List.mem_cons.1 hx with rfl | hx
        · exact .inr (by simp)
        · exact .inl hx
    · exact .inr (List.mem_cons_of_mem _ hx)

/-- From the root, `..` never stays: it cancels the element before it or nothing. -/
theorem dotdot_not_mem_cancel_rooted :
    ∀ {acc l : List String}, ".." ∉ acc → ".." ∉ cancel true acc l
  | acc, [], h => h
  | acc, s :: l, h => by
    rw [cancel_cons]
    apply dotdot_not_mem_cancel_rooted
    unfold cancelStep
    split
    · split
      · rename_i x more
        have hx : (x == "..") = false := by
          rw [beq_eq_false_iff_ne]
          rintro rfl
          exact h (List.mem_cons_self ..)
        simp only [hx, Bool.false_eq_true, if_false]
        exact fun hm => h (List.mem_cons_of_mem _ hm)
      · simp
    · rename_i hs
      simp only [List.mem_cons, not_or]
      exact ⟨fun hd => hs (by simp [hd]), h⟩

/-- Cancelling from the root leaves names only. -/
theorem isName_of_mem_cancel_rooted {l : List String}
    (hl : ∀ x ∈ l, x ≠ "" ∧ '/' ∉ x.toList ∧ x ≠ ".") {x : String}
    (hx : x ∈ cancel true [] l) : IsName x := by
  rcases mem_cancel hx with h | h
  · simp at h
  · obtain ⟨h1, h2, h3⟩ := hl x h
    refine ⟨h1, h2, h3, ?_⟩
    rintro rfl
    exact dotdot_not_mem_cancel_rooted List.not_mem_nil hx

end Cancel

/-! ### Cleaning and resolving -/

theorem clean_of_isAbs {p : String} (hp : isAbs p = true) :
    clean p = ofElements (cancel true [] (pieces p)).reverse := by
  have hne : p.isEmpty = false := by
    rw [isAbs_iff] at hp
    rw [Bool.eq_false_iff]
    intro h
    simp [String.isEmpty_iff.1 h] at hp
  simp only [clean, hne, hp, if_true, Bool.false_eq_true, if_false]
  rfl

/-- A clean absolute path is the root followed by names. -/
theorem clean_eq_ofElements {p : String} (hp : isAbs p = true) :
    ∃ es, (∀ e ∈ es, IsName e) ∧ clean p = ofElements es :=
  ⟨_, fun _ he => isName_of_mem_cancel_rooted (fun _ => pieces_wf) (List.mem_reverse.1 he),
    clean_of_isAbs hp⟩

theorem clean_ofElements {es : List String} (h : ∀ e ∈ es, IsName e) :
    clean (ofElements es) = ofElements es := by
  rw [clean_of_isAbs (isAbs_ofElements es), pieces_ofElements h,
    cancel_of_forall_ne _ _ _ fun e he => (h e he).ne_dotdot]
  simp

theorem resolve_eq_ofElements {cwd : String} (hcwd : isAbs cwd = true) (p : String) :
    ∃ es, (∀ e ∈ es, IsName e) ∧ resolve cwd p = ofElements es := by
  unfold resolve
  split
  · exact clean_eq_ofElements ‹_›
  · exact clean_eq_ofElements (isAbs_append _ (isAbs_append _ hcwd))

/-! ### The directory of a path and the directories above it -/

theorem intercalate_concat {es : List String} (hne : es ≠ []) (x : String) :
    "/".intercalate (es ++ [x]) = "/".intercalate es ++ "/" ++ x := by
  induction es with
  | nil => exact absurd rfl hne
  | cons e es ih =>
    cases es with
    | nil => simp [String.intercalate_cons_cons]
    | cons e' es =>
      rw [List.cons_append, List.cons_append, String.intercalate_cons_cons, ← List.cons_append,
        ih (List.cons_ne_nil _ _), String.intercalate_cons_cons]
      simp [String.append_assoc]

theorem ofElements_concat {es : List String} (hne : es ≠ []) (x : String) :
    ofElements (es ++ [x]) = ofElements es ++ "/" ++ x := by
  simp [ofElements, intercalate_concat hne, String.append_assoc]

/-- Cutting a name off a path leaves the cleaned path up to the slash before it. -/
theorem dir_append_name (q : String) {x : String} (hx : '/' ∉ x.toList) :
    dir (q ++ "/" ++ x) = clean (q ++ "/") := by
  have hdrop : (q ++ "/" ++ x).toList.reverse.dropWhile (· != '/') = '/' :: q.toList.reverse := by
    have hx' : (x.toList.reverse.dropWhile (· != '/')).isEmpty = true := by
      rw [List.isEmpty_iff, List.dropWhile_eq_nil_iff]
      intro c hc
      have hc' : c ≠ '/' := by
        rintro rfl
        exact hx (List.mem_reverse.1 hc)
      simpa using hc'
    simp only [String.toList_append, List.reverse_append]
    rw [List.dropWhile_append, if_pos hx']
    rfl
  unfold dir
  dsimp only
  rw [hdrop]
  simp

theorem dir_ofElements_concat {es : List String} (hes : ∀ e ∈ es, IsName e) {x : String}
    (hx : IsName x) : dir (ofElements (es ++ [x])) = ofElements es := by
  by_cases hne : es = []
  · subst hne
    rw [List.nil_append, show ofElements [x] = "" ++ "/" ++ x by simp [ofElements],
      dir_append_name _ hx.no_slash]
    exact @clean_ofElements [] (by simp)
  · rw [ofElements_concat hne, dir_append_name _ hx.no_slash,
      clean_of_isAbs (isAbs_append _ (isAbs_ofElements es)),
      show ofElements es ++ "/" = ofElements es ++ "/" ++ "" by simp, pieces_append_sep,
      pieces_ofElements hes, show pieces "" = [] from rfl, List.append_nil,
      cancel_of_forall_ne _ _ _ fun e he => (hes e he).ne_dotdot]
    simp

/-- The directories above a clean path are the paths of its proper prefixes. -/
theorem mem_ancestors_ofElements {es : List String} (h : ∀ e ∈ es, IsName e) {a : String} :
    a ∈ Disk.ancestors (ofElements es) ↔
      ∃ i, i + 1 < es.length ∧ a = ofElements (es.take (i + 1)) := by
  simp only [Disk.ancestors, elements_ofElements h, List.mem_map, List.mem_range]
  constructor
  · rintro ⟨i, hi, rfl⟩
    exact ⟨i, by omega, rfl⟩
  · rintro ⟨i, hi, rfl⟩
    exact ⟨i, by omega, rfl⟩

/-- The directories above a path with one more name are those above its parent, and the
parent. -/
theorem mem_ancestors_concat {es : List String} (hes : ∀ e ∈ es, IsName e) {x : String}
    (hx : IsName x) {a : String} (ha : a ∈ Disk.ancestors (ofElements (es ++ [x]))) :
    a ∈ Disk.ancestors (ofElements es) ∨ a = ofElements es := by
  obtain ⟨i, hi, rfl⟩ := (mem_ancestors_ofElements (isName_concat hes hx)).1 ha
  rw [List.length_append, List.length_singleton] at hi
  rw [List.take_append_of_le_length (by omega)]
  by_cases hlast : i + 1 = es.length
  · right
    rw [hlast, List.take_length]
  · left
    exact (mem_ancestors_ofElements hes).2 ⟨i, by omega, rfl⟩

theorem ne_of_mem_ancestors {es : List String} (h : ∀ e ∈ es, IsName e) {a : String}
    (ha : a ∈ Disk.ancestors (ofElements es)) : a ≠ ofElements es := by
  obtain ⟨i, hi, rfl⟩ := (mem_ancestors_ofElements h).1 ha
  intro heq
  -- a proper prefix has fewer elements
  have htake : ∀ e ∈ es.take (i + 1), IsName e := fun e he => h e (List.mem_of_mem_take he)
  have hlen := congrArg (fun p => (elements p).length) heq
  simp only [elements_ofElements htake, elements_ofElements h, List.length_take] at hlen
  omega

/-! ### A name inside a directory -/

end Path

namespace Disk

/-- The walk down to a node passes every directory above it: each is a directory, and no name
on the way is too long. -/
theorem walk_eq_ok (d : Disk) :
    ∀ l : List String,
      lookup.walk d l = .ok () ↔ ∀ a ∈ l, tooLong a = false ∧ d.get? a = some .dir
  | [] => by simp [lookup.walk]
  | a :: rest => by
    rw [lookup.walk]
    by_cases hlong : tooLong a = true
    · simp [hlong]
    rw [if_neg hlong]
    split
    · rename_i hdir
      simp [walk_eq_ok d rest, hdir, hlong]
    · rename_i data hfile
      simp [hfile]
    · rename_i hnone
      simp [hnone]

/-- A node is found when every directory above it is one, and no name on the way, its own
included, is too long. -/
theorem lookup_eq_ok {d : Disk} {abs : String} {n : Node} :
    d.lookup abs = .ok n ↔
      (∀ a ∈ ancestors abs, tooLong a = false ∧ d.get? a = some .dir) ∧ tooLong abs = false ∧
        d.get? abs = some n := by
  unfold lookup
  cases hw : lookup.walk d (ancestors abs) with
  | error e =>
    have : ¬∀ a ∈ ancestors abs, tooLong a = false ∧ d.get? a = some .dir := by
      rw [← walk_eq_ok, hw]
      simp
    simp [this]
  | ok u =>
    have hall := (walk_eq_ok d _).1 hw
    by_cases hlong : tooLong abs = true
    · simp [hlong]
    rw [if_neg hlong]
    cases d.get? abs with
    | none => simp
    | some m =>
      simp only [Except.ok.injEq, Option.some.injEq]
      exact ⟨fun h => ⟨hall, by simpa using hlong, h⟩, fun h => h.2.2⟩

/-- A parent directory that is ready has directories all the way up. -/
theorem ancestors_of_parentReady {d : Disk} {es : List String} (hes : ∀ e ∈ es, Path.IsName e)
    (hne : es ≠ []) (h : d.parentReady (Path.ofElements es) = .ok ()) :
    ∀ a ∈ ancestors (Path.ofElements es), tooLong a = false ∧ d.get? a = some .dir := by
  unfold parentReady at h
  split at h
  · rename_i hdir
    rw [← List.dropLast_append_getLast hne] at hes hdir ⊢
    have hinit : ∀ e ∈ es.dropLast, Path.IsName e :=
      fun e he => hes e (List.mem_append_left _ he)
    have hlast : Path.IsName (es.getLast hne) := hes _ (by simp)
    rw [Path.dir_ofElements_concat hinit hlast] at hdir
    obtain ⟨hup, hlong, hparent⟩ := lookup_eq_ok.1 hdir
    intro a ha
    rcases Path.mem_ancestors_concat hinit hlast ha with ha | rfl
    · exact hup a ha
    · exact ⟨hlong, hparent⟩
  · cases h
  · cases h

/-- An overlong name is found as soon as the walk reaches it: with every directory above a
path passed, any other failure means the name itself is short enough. -/
theorem not_tooLong_of_lookup {d : Disk} {abs : String} {e : Errno}
    (hanc : ∀ a ∈ ancestors abs, tooLong a = false ∧ d.get? a = some .dir)
    (h : d.lookup abs = .error e) (he : e ≠ .nameTooLong) : tooLong abs = false := by
  unfold lookup at h
  rw [(walk_eq_ok d _).2 hanc] at h
  cases hlong : tooLong abs
  · rfl
  · simp only [hlong, if_true, Except.error.injEq] at h
    exact absurd h.symm he

/-- What a successful write did: it named a file, set the node at its absolute path, and
either found a file there, or found nothing there for a reason other than the name's length
and a directory above it. -/
theorem writeFile_cases {d d' : Disk} {p : String} {data : ByteArray}
    (h : d.writeFile p data = .ok d') :
    p.isEmpty = false ∧ d' = d.put (d.resolve p) (.file data) ∧
      ((∃ old, d.lookup (d.resolve p) = .ok (.file old)) ∨
        (∃ e, d.lookup (d.resolve p) = .error e ∧ e ≠ .nameTooLong) ∧
          d.parentReady (d.resolve p) = .ok ()) := by
  unfold writeFile at h
  split at h
  · cases h
  · rename_i old hfile
    cases hp : p.isEmpty
    · simp only [lookupPath, hp, Bool.false_eq_true, if_false] at hfile
      exact ⟨rfl, by cases h; rfl, .inl ⟨old, hfile⟩⟩
    · simp [lookupPath, hp] at hfile
  · rename_i e herr
    by_cases hc : (p.isEmpty || e == .nameTooLong) = true
    · rw [if_pos hc] at h
      cases h
    rw [if_neg hc] at h
    have hp : p.isEmpty = false := by simp_all
    have he : e ≠ .nameTooLong := by
      rintro rfl
      exact hc (by rw [hp]; decide)
    simp only [lookupPath, hp, Bool.false_eq_true, if_false] at herr
    split at h
    · cases h
    · rename_i hready
      exact ⟨hp, by cases h; rfl, .inr ⟨⟨e, herr, he⟩, hready⟩⟩

/-- What a successful `mkdir` did: nothing was found at the path, for a reason other than the
name's length, the directory above it was ready, and the directory was set. -/
theorem mkdir_cases {d d' : Disk} {p : String} (h : d.mkdir p = .ok d') :
    (∃ e, d.lookup (d.resolve p) = .error e ∧ e ≠ .nameTooLong) ∧
      d.parentReady (d.resolve p) = .ok () ∧ d' = d.put (d.resolve p) .dir := by
  unfold mkdir at h
  dsimp only at h
  split at h
  · cases h
  · cases h
  · rename_i e hlong herr
    split at h
    · cases h
    · rename_i hready
      exact ⟨⟨e, herr, hlong⟩, hready, by cases h; rfl⟩

/-- A write finds the file it wrote: every directory above it is still one. -/
theorem lookup_writeFile {d d' : Disk} {p : String} {data : ByteArray}
    (hcwd : Path.isAbs d.cwd = true) (h : d.writeFile p data = .ok d') :
    d'.lookup (d'.resolve p) = .ok (.file data) := by
  obtain ⟨hroot, -⟩ := writeFile_eq_put h
  obtain ⟨-, rfl, hcase⟩ := writeFile_cases h
  obtain ⟨es, hes, hres⟩ := Path.resolve_eq_ofElements hcwd p
  change d.resolve p = Path.ofElements es at hres
  have hne : es ≠ [] := by
    rintro rfl
    exact hroot hres
  -- the directories above the file were directories before the write, and its name fits
  have hanc : (∀ a ∈ ancestors (d.resolve p), tooLong a = false ∧ d.get? a = some .dir) ∧
      tooLong (d.resolve p) = false := by
    rcases hcase with ⟨old, hl⟩ | ⟨⟨e, hl, he⟩, hpar⟩
    · exact ⟨(lookup_eq_ok.1 hl).1, (lookup_eq_ok.1 hl).2.1⟩
    · have hup : ∀ a ∈ ancestors (d.resolve p), tooLong a = false ∧ d.get? a = some .dir := by
        rw [hres] at hpar ⊢
        exact ancestors_of_parentReady hes hne hpar
      exact ⟨hup, not_tooLong_of_lookup hup hl he⟩
  rw [resolve_put, lookup_eq_ok]
  refine ⟨fun a ha => ?_, hanc.2, by simp [get?_put _ hroot]⟩
  have hne : a ≠ d.resolve p := by
    rw [hres] at ha ⊢
    exact Path.ne_of_mem_ancestors hes ha
  rw [get?_put _ hroot, if_neg hne]
  exact hanc.1 a ha

end Disk

end SailSim
