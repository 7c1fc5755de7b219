import Mathlib
import SailSim.Text.ReadFloat
import SailSim.Text.Number
import SailSim.Proofs.JsonRoundTrip
import SailSim.Proofs.Binary64.Digits

/-!
# Written floats read back

Every finite float written in a `FloatStyle` reads back as itself,
`Text.readFloat (st.render x) = .ok x` (`Text.readFloat_render`), a zero with its sign.

The writers spell a float as an optional minus and a decimal numeral (`Text.Numeral`): digits,
a fraction after a point when there is one, and an exponent with its sign. The proof has
three parts.

* `Text.readFloat_numeral` : the reader takes a numeral apart, digit by digit, into all its
  digits `M`, their count and the power of ten `d` they stand at, and returns `M · 10^d`
  rounded to the nearest float (`decimalValue`);
* `Text.render_numeral` : positional text (`0.` and zeros before the digits, zeros after them,
  or a point inside them) and scientific text are numerals of the value of the shortest digits;
* `Text.decimalValue_of_mem` : the shortest digits lie in the rounding interval of the float
  (`Binary64.shortest_mem`), and every decimal there is read as the float
  (`Binary64.ofScientific_of_mem`).

A numeral is a JSON number literal as well (`Text.Numeral.isNumberLiteral`), so the numbers
of written JSON are read back by the JSON reader too (`Text.isNumberLiteral_render`).
-/

namespace SailSim.Json

theorem digits_replicate (k : Nat) : Digits (List.replicate k '0') := fun c hc => by
  rw [List.eq_of_mem_replicate hc]
  rfl

theorem Digits.append {a b : List Char} (ha : Digits a) (hb : Digits b) : Digits (a ++ b) :=
  fun c hc => (List.mem_append.1 hc).elim (ha c) (hb c)

theorem digits_toDigits (d : Nat) : Digits (Nat.toDigits 10 d) :=
  fun _ h => Nat.isDigit_of_mem_toDigits (by norm_num) (by norm_num) h

end SailSim.Json

namespace SailSim.Text

open Binary64

/-! ### Digit strings -/

theorem toLower_of_isDigit {c : Char} (h : c.isDigit = true) : c.toLower = c := by
  unfold Char.toLower
  rw [dif_neg]
  rw [Char.isDigit_iff_toNat] at h
  rintro ⟨h1, h2⟩
  simp only [UInt32.le_iff_toNat_le, Char.toNat_val, Char.reduceVal, UInt32.reduceToNat] at h1 h2
  simp only [Char.reduceToNat] at h
  omega

/-- Digits after a value `init` read below `(init + 1) · 10^len`. -/
theorem ofDigitChars_lt {l : List Char} (hl : Json.Digits l) (init : Nat) :
    Nat.ofDigitChars 10 l init < (init + 1) * 10 ^ l.length := by
  induction l generalizing init with
  | nil => simp
  | cons c cs ih =>
    have hc : c.toNat - '0'.toNat ≤ 9 := by
      have := Char.isDigit_iff_toNat.1 (hl c List.mem_cons_self)
      simp only [Char.reduceToNat] at this ⊢
      omega
    rw [Nat.ofDigitChars_cons, List.length_cons, pow_succ]
    calc Nat.ofDigitChars 10 cs (10 * init + (c.toNat - '0'.toNat))
        < (10 * init + (c.toNat - '0'.toNat) + 1) * 10 ^ cs.length :=
          ih (fun c h => hl c (List.mem_cons_of_mem _ h)) _
      _ ≤ (init + 1) * 10 * 10 ^ cs.length := by
          apply Nat.mul_le_mul_right
          omega
      _ = (init + 1) * (10 ^ cs.length * 10) := by ring

/-- A nonzero number lies between the powers of ten its digit count gives. -/
theorem pow_le_of_toDigits {d : Nat} (hd : d ≠ 0) :
    10 ^ ((Nat.toDigits 10 d).length - 1) ≤ d ∧ d < 10 ^ (Nat.toDigits 10 d).length := by
  have hpos : 0 < (Nat.toDigits 10 d).length := Nat.length_toDigits_pos
  refine ⟨?_, (Nat.length_toDigits_le_iff (by norm_num) hpos).1 le_rfl⟩
  rcases Nat.lt_or_ge 1 (Nat.toDigits 10 d).length with h1 | h1
  · -- with one digit fewer `d` could not be written
    have hshort := Nat.length_toDigits_le_iff (b := 10) (n := d) (by norm_num)
      (by omega : 0 < (Nat.toDigits 10 d).length - 1)
    by_contra hlt
    have := hshort.2 (Nat.lt_of_not_le hlt)
    omega
  · rw [show (Nat.toDigits 10 d).length - 1 = 0 by omega, pow_zero]
    omega

/-- The decimal digits of a positive number do not start with zero. -/
theorem head_toDigits_ne_zero {d : Nat} (hd : d ≠ 0) : (Nat.toDigits 10 d).head? ≠ some '0' := by
  intro h
  obtain ⟨rest, hr⟩ : ∃ rest, Nat.toDigits 10 d = '0' :: rest := by
    cases hl : Nat.toDigits 10 d with
    | nil => exact absurd hl Nat.toDigits_ne_nil
    | cons c rest =>
      rw [hl, List.head?_cons, Option.some.injEq] at h
      exact ⟨rest, by rw [h]⟩
  -- after a leading zero the other digits read as `d`, yet they are too few for it
  have hv : Nat.ofDigitChars 10 rest 0 = d := by
    have := Nat.ofDigitChars_ten_toDigits (n := d)
    rwa [hr, Nat.ofDigitChars_cons] at this
  have hdig : Json.Digits rest := fun c hc =>
    Json.digits_toDigits d c (by rw [hr]; exact List.mem_cons_of_mem _ hc)
  have hlt := ofDigitChars_lt hdig 0
  have hle := (pow_le_of_toDigits hd).1
  rw [hr, List.length_cons, Nat.add_sub_cancel] at hle
  omega

/-! ### Numerals -/

/-- A decimal numeral: the digits before the point, those after it (written with a point only
when there are some) and an optional exponent, negative or not, with its digits. The digits
before the point are a single zero or start with another digit, and the exponent stays below
10000. -/
structure Numeral where
  whole : List Char
  frac : List Char
  expo : Option (Bool × List Char)
  whole_ne : whole ≠ []
  whole_digits : Json.Digits whole
  whole_lead : whole = ['0'] ∨ whole.head? ≠ some '0'
  frac_digits : Json.Digits frac
  expo_digits : ∀ e ∈ expo, e.2 ≠ [] ∧ Json.Digits e.2 ∧ Nat.ofDigitChars 10 e.2 0 < 10000

namespace Numeral

/-- An exponent's characters: `e`, its sign and its digits. -/
def expoChars : Option (Bool × List Char) → List Char
  | none => []
  | some (neg, ds) => 'e' :: (if neg then '-' else '+') :: ds

/-- An exponent's value. -/
def expoValue : Option (Bool × List Char) → Int
  | none => 0
  | some (neg, ds) => if neg then -(Nat.ofDigitChars 10 ds 0 : Int) else Nat.ofDigitChars 10 ds 0

/-- The characters of a numeral. -/
def chars (n : Numeral) : List Char :=
  n.whole ++ (if n.frac = [] then [] else '.' :: n.frac) ++ expoChars n.expo

/-- All the digits of a numeral read as one integer. -/
def mantissa (n : Numeral) : Nat := Nat.ofDigitChars 10 (n.whole ++ n.frac) 0

/-- How many digits a numeral has. -/
def count (n : Numeral) : Nat := n.whole.length + n.frac.length

/-- The power of ten the mantissa stands at: a numeral is `mantissa · 10^scale`. -/
def scale (n : Numeral) : Int := expoValue n.expo - n.frac.length

/-- The characters of a numeral are digits, a point, `e` and signs. -/
theorem mem_chars (n : Numeral) {c : Char} (h : c ∈ n.chars) :
    c.isDigit = true ∨ c = '.' ∨ c = 'e' ∨ c = '-' ∨ c = '+' := by
  simp only [chars, List.mem_append] at h
  rcases h with (h | h) | h
  · exact .inl (n.whole_digits c h)
  · split_ifs at h
    · simp at h
    · rcases List.mem_cons.1 h with rfl | h
      · simp
      · exact .inl (n.frac_digits c h)
  · rcases hx : n.expo with _ | ⟨neg, ds⟩
    · simp [hx, expoChars] at h
    · have hds := (n.expo_digits _ hx).2.1
      rw [hx] at h
      simp only [expoChars, List.mem_cons] at h
      rcases h with rfl | h | h
      · simp
      · cases neg <;> simp_all
      · exact .inl (hds c h)

/-- A numeral starts with a digit. -/
theorem exists_chars_eq_cons (n : Numeral) : ∃ c cs, c.isDigit = true ∧ n.chars = c :: cs := by
  obtain ⟨c, w, hw⟩ := List.exists_cons_of_ne_nil n.whole_ne
  exact ⟨c, w ++ ((if n.frac = [] then [] else '.' :: n.frac) ++ expoChars n.expo),
    n.whole_digits c (by simp [hw]), by simp [chars, hw]⟩

/-- The digits of a numeral read below `10^count`. -/
theorem mantissa_lt (n : Numeral) : n.mantissa < 10 ^ n.count := by
  simpa [mantissa, count] using ofDigitChars_lt (n.whole_digits.append n.frac_digits) 0

/-- A numeral after an optional minus is a JSON number literal. -/
theorem isNumberLiteral (neg : Bool) (n : Numeral) :
    Json.IsNumberLiteral (String.ofList ((if neg then ['-'] else []) ++ n.chars)) := by
  refine ⟨if neg then ['-'] else [], n.whole, if n.frac = [] then [] else '.' :: n.frac,
    expoChars n.expo, by simp [chars, List.append_assoc], by cases neg <;> simp, ?_, ?_, ?_⟩
  · rcases n.whole_lead with h | h
    · exact .inl h
    · obtain ⟨d, ds, hw⟩ := List.exists_cons_of_ne_nil n.whole_ne
      rw [hw] at h
      exact .inr ⟨d, ds, hw, by simpa using h, hw ▸ n.whole_digits⟩
  · split_ifs with hf
    · exact .inl rfl
    · obtain ⟨d, ds, hfr⟩ := List.exists_cons_of_ne_nil hf
      exact .inr ⟨d, ds, by rw [hfr], hfr ▸ n.frac_digits⟩
  · rcases hx : n.expo with _ | ⟨neg', ds⟩
    · exact .inl rfl
    · obtain ⟨hne, hds, -⟩ := n.expo_digits _ hx
      obtain ⟨d, ds', rfl⟩ := List.exists_cons_of_ne_nil hne
      exact .inr ⟨'e', [if neg' then '-' else '+'], d, ds', rfl, .inl rfl,
        by cases neg' <;> simp, hds⟩

end Numeral

/-! ### The reader on numerals -/

/-- Without underscores the check never fails: its state is never `'_'`. -/
theorem foldl_underscoreStep (hex : Bool) {l : List Char} (hl : '_' ∉ l) {saw : Char}
    (hs : saw ≠ '_') : ∃ last, l.foldl (underscoreStep hex) (some saw) = some last ∧ last ≠ '_' := by
  induction l generalizing saw with
  | nil => exact ⟨saw, rfl, hs⟩
  | cons c cs ih =>
    have hc : c ≠ '_' := fun h => hl (h ▸ List.mem_cons_self)
    rw [List.foldl_cons]
    simp only [underscoreStep, beq_iff_eq, hc, hs, if_false]
    split_ifs
    · exact ih (fun h => hl (List.mem_cons_of_mem c h)) (by decide)
    · exact ih (fun h => hl (List.mem_cons_of_mem c h)) (by decide)

theorem dropSign_suffix (s : List Char) : dropSign s <:+ s := by
  unfold dropSign
  split
  · split_ifs
    · exact List.suffix_cons _ _
    · exact List.suffix_refl _
  · exact List.suffix_refl _

/-- After a base prefix the check goes on over a suffix, from the state of a digit or of the
start. -/
theorem basePrefix_spec (s : List Char) :
    (basePrefix s).2.2 <:+ s ∧ (basePrefix s).2.1 ≠ '_' := by
  unfold basePrefix
  split
  · dsimp only
    split_ifs
    · exact ⟨(List.suffix_cons _ _).trans (List.suffix_cons _ _), by simp⟩
    · exact ⟨List.suffix_refl _, by simp⟩
  · exact ⟨List.suffix_refl _, by simp⟩

theorem underscoresOk_of_not_mem {s : List Char} (h : '_' ∉ s) : underscoresOk s = true := by
  obtain ⟨hsuf, hsaw⟩ := basePrefix_spec (dropSign s)
  obtain ⟨last, hfold, hlast⟩ := foldl_underscoreStep (basePrefix (dropSign s)).1
    (fun hm => h ((hsuf.trans (dropSign_suffix s)).subset hm)) hsaw
  unfold underscoresOk
  dsimp only
  rw [hfold]
  simpa using hlast

theorem readSpecial_digit {c : Char} (hc : c.isDigit = true) (neg : Bool) (cs : List Char) :
    readSpecial ((if neg then ['-'] else []) ++ c :: cs) = none := by
  have hl := toLower_of_isDigit hc
  have hi : c ≠ 'i' := Json.isDigit_ne hc (by decide)
  have hn : c ≠ 'n' := Json.isDigit_ne hc (by decide)
  cases neg
  · have hm : c ≠ '-' := Json.isDigit_ne hc (by decide)
    have hp : c ≠ '+' := Json.isDigit_ne hc (by decide)
    simp [readSpecial, hl, hi, hn, hm, hp]
  · simp [readSpecial, hl, hi]

/-- A numeral has no sign of its own: what precedes it is the sign. -/
theorem splitSign_numeral (neg : Bool) (n : Numeral) :
    splitSign ((if neg then ['-'] else []) ++ n.chars) = (neg, n.chars) := by
  obtain ⟨c, cs, hc, hcs⟩ := n.exists_chars_eq_cons
  cases neg
  · rw [hcs]
    unfold splitSign
    split
    · exact absurd hc (by simp_all)
    · exact absurd hc (by simp_all)
    · rfl
  · rfl

/-- A numeral has no hexadecimal prefix: no `x` follows its first digit. -/
theorem splitHexPrefix_numeral (n : Numeral) : splitHexPrefix n.chars = (false, n.chars) := by
  unfold splitHexPrefix
  split
  · rename_i x rest hx
    have hmem := n.mem_chars (c := x) (by rw [hx]; simp)
    have h1 : x ≠ 'x' := by rintro rfl; simp at hmem
    have h2 : x ≠ 'X' := by rintro rfl; simp at hmem
    simp [h1, h2]
  · rfl

theorem scanMantissa_digits {ds : List Char} (hd : Json.Digits ds)
    (rest : List Char) (m nd : Nat) (dp : Option Nat) (saw : Bool) :
    scanMantissa 10 (ds ++ rest) m nd dp saw =
      scanMantissa 10 rest (Nat.ofDigitChars 10 ds m) (nd + ds.length) dp (saw || !ds.isEmpty) := by
  induction ds generalizing m nd saw with
  | nil => simp
  | cons c cs ih =>
    have hc := hd c List.mem_cons_self
    have hu : (c == '_') = false := by simpa using Json.isDigit_ne hc (by decide)
    have hp : (c == '.') = false := by simpa using Json.isDigit_ne hc (by decide)
    simp only [List.cons_append, scanMantissa, hu, hp, hc, Bool.false_eq_true, if_false, if_true]
    rw [ih (fun c h => hd c (List.mem_cons_of_mem _ h)), Nat.ofDigitChars_cons]
    simp [Nat.mul_comm, Nat.add_assoc, Nat.add_comm 1]

theorem scanExponent_digits {ds : List Char} (hd : Json.Digits ds) (e : Nat)
    (h : Nat.ofDigitChars 10 ds e < 10000) : scanExponent ds e = (Nat.ofDigitChars 10 ds e, []) := by
  induction ds generalizing e with
  | nil => simp [scanExponent]
  | cons c cs ih =>
    have hc := hd c List.mem_cons_self
    -- the running value never exceeds the final one, so the cap never bites
    have he : e < 10000 := by
      rw [Nat.ofDigitChars_eq_ofDigitChars_zero] at h
      have : e ≤ 10 ^ (c :: cs).length * e := Nat.le_mul_of_pos_left e (by positivity)
      omega
    rw [scanExponent, if_neg (by simpa using Json.isDigit_ne hc (by decide)), if_pos hc, if_pos he]
    rw [Nat.ofDigitChars_cons] at h ⊢
    rw [Nat.mul_comm]
    exact ih (fun c h => hd c (List.mem_cons_of_mem _ h)) _ h

namespace Numeral

/-- The mantissa scan stops at an exponent: it starts with `e`. -/
theorem scanMantissa_expoChars (ex : Option (Bool × List Char)) (m nd : Nat) (dp : Option Nat)
    (saw : Bool) : scanMantissa 10 (expoChars ex) m nd dp saw = (m, nd, dp, saw, expoChars ex) := by
  cases ex <;> simp [expoChars, scanMantissa]

/-- The mantissa scan of a numeral reads all its digits, notes the point after the whole
digits when there is a fraction, and stops at the exponent. -/
theorem scanMantissa_chars (n : Numeral) :
    scanMantissa 10 n.chars 0 0 none false =
      (n.mantissa, n.count, (if n.frac = [] then none else some n.whole.length), true,
        expoChars n.expo) := by
  have hsaw : (false || !n.whole.isEmpty) = true := by simpa using n.whole_ne
  rw [chars, List.append_assoc, scanMantissa_digits n.whole_digits, hsaw, Nat.zero_add]
  split_ifs with hf
  · simp [scanMantissa_expoChars, mantissa, count, hf]
  · rw [List.cons_append]
    simp only [scanMantissa, beq_self_eq_true, if_true, show ('.' == '_') = false from rfl,
      Bool.false_eq_true, if_false]
    rw [scanMantissa_digits n.frac_digits, scanMantissa_expoChars]
    simp [mantissa, count, Nat.ofDigitChars_append]

/-- The exponent of a numeral reads as its value, with nothing after it. -/
theorem readExponent_expoChars (n : Numeral) :
    readExponent false (expoChars n.expo) = some (expoValue n.expo, []) := by
  rcases hx : n.expo with _ | ⟨neg, ds⟩
  · rfl
  · obtain ⟨hne, hds, hsmall⟩ := n.expo_digits _ hx
    obtain ⟨d, ds', rfl⟩ := List.exists_cons_of_ne_nil hne
    dsimp only at hds hsmall
    have hd := hds d List.mem_cons_self
    have hscan := scanExponent_digits hds 0 hsmall
    cases neg <;> simp [readExponent, expoChars, expoValue, hd, hscan]

end Numeral

/-- **Reading a numeral.**  A numeral, with a minus sign or without, reads as its decimal value
rounded to the nearest float, negated after the minus, unless that value is infinite. -/
theorem readFloat_numeral (neg : Bool) (n : Numeral)
    (hv : (decimalValue n.mantissa n.count n.scale).isInf = false) :
    readFloat (String.ofList ((if neg then ['-'] else []) ++ n.chars)) =
      .ok (if neg then -decimalValue n.mantissa n.count n.scale
        else decimalValue n.mantissa n.count n.scale) := by
  obtain ⟨c, cs, hc, hcs⟩ := n.exists_chars_eq_cons
  unfold readFloat
  simp only [String.toList_ofList]
  rw [hcs, readSpecial_digit hc, ← hcs]
  dsimp only
  rw [splitSign_numeral, splitHexPrefix_numeral]
  dsimp only
  simp only [Bool.false_eq_true, if_false]
  rw [Numeral.scanMantissa_chars]
  simp only [Bool.not_true, Bool.false_eq_true, if_false]
  rw [Numeral.readExponent_expoChars]
  dsimp only
  -- the point stands after the whole digits, so the exponent less the fraction is the scale
  have hscale : (((if n.frac = [] then none else some n.whole.length).getD n.count : ℕ) : ℤ) -
      n.count + Numeral.expoValue n.expo = n.scale := by
    split_ifs with hf
    · simp [Numeral.count, Numeral.scale, hf]
    · simp only [Option.getD_some, Numeral.count, Numeral.scale]
      push_cast
      ring
  have hnu : '_' ∉ (if neg then ['-'] else []) ++ n.chars := by
    intro h
    rcases List.mem_append.1 h with h | h
    · cases neg <;> simp at h
    · rcases n.mem_chars h with h | h | h | h | h <;> exact absurd h (by decide)
  simp only [List.isEmpty_nil, Bool.not_true, Bool.false_eq_true, if_false, List.length_nil,
    Nat.sub_zero, List.take_length, underscoresOk_of_not_mem hnu, hscale, hv]

/-! ### The numerals the writers produce -/

section Written

variable {D : Decimal}

/-- Positional text of nonzero digits is a numeral of the same value: `0.` and zeros before
the digits, zeros after them, or a point inside them. -/
theorem positional_numeral (hD : D.digits ≠ 0) :
    ∃ n : Numeral, D.positional.toList = n.chars ∧
      (n.mantissa : ℚ) * 10 ^ n.scale = D.digits * 10 ^ D.exponent := by
  have hdig := Json.digits_toDigits D.digits
  have hne : Nat.toDigits 10 D.digits ≠ [] := Nat.toDigits_ne_nil
  have hlead := head_toDigits_ne_zero hD
  have hval : Nat.ofDigitChars 10 (Nat.toDigits 10 D.digits) 0 = D.digits :=
    Nat.ofDigitChars_ten_toDigits
  unfold Decimal.positional natDigits zeros
  simp only [if_neg hD, String.length_ofList]
  generalize Nat.toDigits 10 D.digits = ds at hdig hne hlead hval ⊢
  split_ifs with h1 h2
  · -- `0.`, zeros and the digits
    set k := (-(↑ds.length + D.exponent)).toNat with hk
    refine ⟨⟨['0'], List.replicate k '0' ++ ds, none, by simp, by simp [Json.Digits], .inl rfl,
      (Json.digits_replicate k).append hdig, by simp⟩, ?_, ?_⟩
    · simp [Numeral.chars, Numeral.expoChars, String.toList_append, hne]
    · have hs : (0 : ℤ) - ((List.replicate k '0' ++ ds).length : ℕ) = D.exponent := by
        simp only [List.length_append, List.length_replicate]
        omega
      simp only [Numeral.mantissa, Numeral.scale, Numeral.expoValue, hs]
      simp [Nat.ofDigitChars_append, Nat.ofDigitChars_cons, hval]
  · -- the digits and zeros
    set k := (↑ds.length + D.exponent - ↑ds.length).toNat with hk
    refine ⟨⟨ds ++ List.replicate k '0', [], none, by simp [hne],
      hdig.append (Json.digits_replicate k), .inr (by rwa [List.head?_append_of_ne_nil _ hne]),
      by simp [Json.Digits], by simp⟩, ?_, ?_⟩
    · simp [Numeral.chars, Numeral.expoChars, String.toList_append]
    · have he : D.exponent = (k : ℤ) := by omega
      simp only [Numeral.mantissa, Numeral.scale, Numeral.expoValue, List.append_nil,
        List.length_nil, Nat.ofDigitChars_append, hval, Nat.ofDigitChars_replicate_zero, he]
      push_cast
      simp only [mul_one, zpow_natCast]
      ring
  · -- a point inside the digits
    set p := (↑ds.length + D.exponent).toNat with hp
    have hp0 : 0 < p := by omega
    have hpl : p < ds.length := by omega
    have hwne : List.take p ds ≠ [] := by simp [List.take_eq_nil_iff, hne]; omega
    have hfne : List.drop p ds ≠ [] := by simp; omega
    refine ⟨⟨List.take p ds, List.drop p ds, none, hwne,
      fun c hc => hdig c (List.mem_of_mem_take hc),
      .inr (by rwa [List.head?_take, if_neg hp0.ne']),
      fun c hc => hdig c (List.mem_of_mem_drop hc), by simp⟩, ?_, ?_⟩
    · simp [Numeral.chars, Numeral.expoChars, String.toList_append, hfne]
    · have hs : (0 : ℤ) - ((List.drop p ds).length : ℕ) = D.exponent := by
        simp only [List.length_drop]
        omega
      simp only [Numeral.mantissa, Numeral.scale, Numeral.expoValue, hs, List.take_append_drop,
        hval]

/-- Scientific text of nonzero digits is a numeral of the same value: the leading digit, the
others after a point, and the exponent of the leading digit padded with zeros. -/
theorem scientific_numeral (hD : D.digits ≠ 0) (hlead : D.leadExponent.natAbs < 10000)
    (a b : Nat) :
    ∃ n : Numeral, (D.scientific a b).toList = n.chars ∧
      (n.mantissa : ℚ) * 10 ^ n.scale = D.digits * 10 ^ D.exponent := by
  have hdig := Json.digits_toDigits D.digits
  have hne : Nat.toDigits 10 D.digits ≠ [] := Nat.toDigits_ne_nil
  have hlead0 := head_toDigits_ne_zero hD
  have hval : Nat.ofDigitChars 10 (Nat.toDigits 10 D.digits) 0 = D.digits :=
    Nat.ofDigitChars_ten_toDigits
  have he : D.leadExponent = (Nat.toDigits 10 D.digits).length + D.exponent - 1 := by
    simp [Decimal.leadExponent, natDigits]
  unfold Decimal.scientific natDigits zeros
  simp only [String.length_ofList, String.toList_ofList]
  generalize Nat.toDigits 10 D.digits = ds at hdig hne hlead0 hval he ⊢
  generalize D.leadExponent = e at hlead he ⊢
  -- the exponent's digits: zeros, then those of its magnitude
  set ed := List.replicate ((if e < 0 then b else a) - (Nat.toDigits 10 e.natAbs).length) '0' ++
    Nat.toDigits 10 e.natAbs with hed
  have hedv : Nat.ofDigitChars 10 ed 0 = e.natAbs := by
    simp [hed, Nat.ofDigitChars_append]
  have hexpo : ∀ x ∈ some (decide (e < 0), ed), x.2 ≠ [] ∧ Json.Digits x.2 ∧
      Nat.ofDigitChars 10 x.2 0 < 10000 := by
    rintro x hx
    rw [Option.mem_some_iff] at hx
    subst hx
    exact ⟨by simp [hed, Nat.toDigits_ne_nil],
      (Json.digits_replicate _).append (Json.digits_toDigits _), by rw [hedv]; exact hlead⟩
  refine ⟨⟨List.take 1 ds, List.drop 1 ds, some (decide (e < 0), ed), by simp [hne],
    fun c hc => hdig c (List.mem_of_mem_take hc),
    .inr (by rwa [List.head?_take, if_neg one_ne_zero]),
    fun c hc => hdig c (List.mem_of_mem_drop hc), hexpo⟩, ?_, ?_⟩
  · by_cases hr : List.drop 1 ds = []
    · simp [Numeral.chars, Numeral.expoChars, String.toList_append, hr, hed]
      split_ifs <;> rfl
    · rw [List.drop_one] at hr
      simp [Numeral.chars, Numeral.expoChars, String.toList_append, hr, hed,
        String.ofList_eq_empty_iff]
      split_ifs <;> rfl
  · have hs : Numeral.expoValue (some (decide (e < 0), ed)) - ((List.drop 1 ds).length : ℤ) =
        D.exponent := by
      simp only [Numeral.expoValue, hedv, List.length_drop]
      have hl : 1 ≤ ds.length := List.length_pos_iff.2 hne
      split_ifs with hneg <;> simp at hneg <;> omega
    simp only [Numeral.mantissa, Numeral.scale, hs, List.take_append_drop, hval]

/-- The leading digit of a decimal between `2^-1075` and `2^1024` stands less than ten
thousand places from the point. -/
theorem leadExponent_natAbs_lt (hD : D.digits ≠ 0)
    (hlo : (2 : ℚ) ^ (-1075 : ℤ) ≤ D.digits * 10 ^ D.exponent)
    (hhi : (D.digits : ℚ) * 10 ^ D.exponent < 2 ^ (1024 : ℤ)) : D.leadExponent.natAbs < 10000 := by
  obtain ⟨h1, h2⟩ := pow_le_of_toDigits hD
  have hpos : 0 < (Nat.toDigits 10 D.digits).length := Nat.length_toDigits_pos
  have hL : D.leadExponent = ((Nat.toDigits 10 D.digits).length : ℤ) + D.exponent - 1 := by
    simp [Decimal.leadExponent, natDigits]
  generalize (Nat.toDigits 10 D.digits).length = len at h1 h2 hpos hL
  have hexp : (0 : ℚ) < 10 ^ D.exponent := by positivity
  -- `10^lead ≤ value < 10^(lead + 1)`
  have hbelow : (10 : ℚ) ^ D.leadExponent ≤ D.digits * 10 ^ D.exponent := by
    rw [hL, show (len : ℤ) + D.exponent - 1 = ((len - 1 : ℕ) : ℤ) + D.exponent by omega,
      zpow_add₀ (by norm_num), zpow_natCast]
    exact mul_le_mul_of_nonneg_right (by exact_mod_cast h1) hexp.le
  have habove : (D.digits : ℚ) * 10 ^ D.exponent < 10 ^ (D.leadExponent + 1) := by
    rw [hL, show (len : ℤ) + D.exponent - 1 + 1 = (len : ℤ) + D.exponent by ring,
      zpow_add₀ (by norm_num), zpow_natCast]
    exact mul_lt_mul_of_pos_right (by exact_mod_cast h2) hexp
  have hup : D.leadExponent < 1024 := by
    have : (10 : ℚ) ^ D.leadExponent < 10 ^ (1024 : ℤ) :=
      calc (10 : ℚ) ^ D.leadExponent ≤ D.digits * 10 ^ D.exponent := hbelow
        _ < 2 ^ (1024 : ℤ) := hhi
        _ ≤ 10 ^ (1024 : ℤ) := zpow_le_zpow_left₀ (by norm_num) (by norm_num) (by norm_num)
    exact (zpow_lt_zpow_iff_right₀ (by norm_num)).1 this
  have hdown : -1075 < D.leadExponent + 1 := by
    have : (10 : ℚ) ^ (-1075 : ℤ) < 10 ^ (D.leadExponent + 1) :=
      calc (10 : ℚ) ^ (-1075 : ℤ) ≤ 2 ^ (-1075 : ℤ) := by
            rw [zpow_neg, zpow_neg, inv_le_inv₀ (by positivity) (by positivity)]
            exact zpow_le_zpow_left₀ (by norm_num) (by norm_num) (by norm_num)
        _ ≤ D.digits * 10 ^ D.exponent := hlo
        _ < 10 ^ (D.leadExponent + 1) := habove
    exact (zpow_lt_zpow_iff_right₀ (by norm_num)).1 this
  omega

end Written

/-! ### Finite floats -/

section Finite

open Float.Model Float.Model.UnpackedFloat

variable {x : Float} {mx : Nat} {q : Int} {hmx : 0 < mx}

theorem isInf_of_isFinite (hx : x.isFinite = true) : x.isInf = false := by
  have hxu : x.toModel.unpack.isFinite = true := hx
  show x.toModel.unpack.isInf = false
  revert hxu
  cases x.toModel.unpack <;> simp [UnpackedFloat.isFinite, UnpackedFloat.isInf]

/-- The shortest digits of a zero are none. -/
theorem shortest_of_zero {s : Sign} (hx : x.toModel.unpack = .zero s) : shortest x = ⟨0, 0⟩ := by
  simp [shortest, (magnitude_of_unpack_zero hx).1, shortestOfMagnitude]

/-- The shortest digits of a finite nonzero float are nonzero, and their value lies between
half the least subnormal and the overflow threshold. -/
theorem shortest_range {s : Sign} (hx : x.toModel.unpack = .finite s mx q hmx) :
    (shortest x).digits ≠ 0 ∧
      (2 : ℚ) ^ (-1075 : ℤ) ≤ (shortest x).digits * 10 ^ (shortest x).exponent ∧
      ((shortest x).digits : ℚ) * 10 ^ (shortest x).exponent < 2 ^ (1024 : ℤ) := by
  obtain ⟨hmem, hD⟩ := shortest_mem hx
  obtain ⟨hc, hq⟩ := unpack_canonical hx
  exact ⟨hD, range_of_mem hmx hc hq hmem⟩

/-- The text of a finite float is a minus exactly when the sign bit is set, then a numeral of
the value of its shortest digits. -/
theorem render_numeral (st : FloatStyle) (hx : x.isFinite = true) :
    ∃ n : Numeral, (st.render x).toList = (if signBit x then ['-'] else []) ++ n.chars ∧
      (n.mantissa : ℚ) * 10 ^ n.scale = (shortest x).digits * 10 ^ (shortest x).exponent := by
  have hxu : x.toModel.unpack.isFinite = true := hx
  have hlead : (shortest x).leadExponent.natAbs < 10000 := by
    cases hu : x.toModel.unpack with
    | zero s =>
      simp only [shortest_of_zero hu, Decimal.leadExponent, natDigits, Nat.toDigits_zero,
        String.length_ofList]
      decide
    | finite s m q hm =>
      obtain ⟨hD, hlo, hhi⟩ := shortest_range hu
      exact leadExponent_natAbs_lt hD hlo hhi
    | infinity s => rw [hu] at hxu; cases hxu
    | notANumber => rw [hu] at hxu; cases hxu
  have hbody : ∃ n : Numeral,
      (if (shortest x).digits = 0 then "0"
        else if st.positionalFrom ≤ (shortest x).leadExponent ∧
            (shortest x).leadExponent < st.positionalBelow then (shortest x).positional
          else (shortest x).scientific st.exponentDigits st.negExponentDigits).toList = n.chars ∧
      (n.mantissa : ℚ) * 10 ^ n.scale = (shortest x).digits * 10 ^ (shortest x).exponent := by
    split_ifs with h0
    · have hzero : Nat.ofDigitChars 10 ['0'] 0 = 0 := rfl
      exact ⟨⟨['0'], [], none, by simp, by simp [Json.Digits], .inl rfl, by simp [Json.Digits],
        by simp⟩, rfl, by simp [Numeral.mantissa, h0, hzero]⟩
    · exact positional_numeral h0
    · exact scientific_numeral h0 hlead _ _
  obtain ⟨n, hn, hv⟩ := hbody
  refine ⟨n, ?_, hv⟩
  unfold FloatStyle.render
  rw [if_neg (by simp only [isNaN_of_isFinite hx, Bool.false_eq_true, not_false_eq_true]),
    if_neg (by simp only [isInf_of_isFinite hx, Bool.false_eq_true, not_false_eq_true])]
  dsimp only
  cases signBit x
  · simpa using hn
  · simp only [if_true, String.toList_append, hn]
    rfl

/-- The text of a finite float is a JSON number literal. -/
theorem isNumberLiteral_render (st : FloatStyle) (hx : x.isFinite = true) :
    Json.IsNumberLiteral (st.render x) := by
  obtain ⟨n, htext, -⟩ := render_numeral st hx
  rw [← String.ofList_toList (s := st.render x), htext]
  exact n.isNumberLiteral _

/-- A decimal of `nd` digits in the rounding interval of a positive finite `x` has the value
`x`: it is far from the guards against huge and tiny exponents. -/
theorem decimalValue_of_mem {M nd : Nat} {d : Int} (hM : 0 < M) (hnd : M < 10 ^ nd)
    (hx : x.toModel.unpack = .finite .positive mx q hmx)
    (hin : (M : ℚ) * 10 ^ d / 2 ^ (q - 2) ∈ intervalSet (roundingInterval mx (exponentField x))) :
    decimalValue M nd d = x := by
  obtain ⟨hc, hq⟩ := unpack_canonical hx
  obtain ⟨hvlo, hvhi⟩ := range_of_mem hmx hc hq hin
  have hM1 : (1 : ℚ) ≤ M := by exact_mod_cast hM
  have hMnd : (M : ℚ) < 10 ^ (nd : ℤ) := by rw [zpow_natCast]; exact_mod_cast hnd
  -- above `10^400` no decimal is below the overflow threshold
  have hbig : ¬ d > 400 := by
    intro hd
    have : (2 : ℚ) ^ (1024 : ℤ) ≤ M * 10 ^ d :=
      calc (2 : ℚ) ^ (1024 : ℤ) ≤ 10 ^ (401 : ℤ) := by
            rw [show (1024 : ℤ) = ((1024 : ℕ) : ℤ) from rfl, show (401 : ℤ) = ((401 : ℕ) : ℤ) from rfl,
              zpow_natCast, zpow_natCast]
            exact_mod_cast (by decide +kernel : (2 : ℕ) ^ 1024 ≤ 10 ^ 401)
        _ ≤ 10 ^ d := zpow_le_zpow_right₀ (by norm_num) (by omega)
        _ ≤ M * 10 ^ d := le_mul_of_one_le_left (by positivity) hM1
    linarith
  -- below `10^-400` none is above half the least subnormal
  have hsmall : ¬ d < -(400 + (nd : ℤ)) := by
    intro hd
    have : (M : ℚ) * 10 ^ d < 2 ^ (-1075 : ℤ) :=
      calc (M : ℚ) * 10 ^ d < 10 ^ (nd : ℤ) * 10 ^ d :=
            mul_lt_mul_of_pos_right hMnd (by positivity)
        _ = 10 ^ ((nd : ℤ) + d) := (zpow_add₀ (by norm_num) _ _).symm
        _ ≤ 10 ^ (-401 : ℤ) := zpow_le_zpow_right₀ (by norm_num) (by omega)
        _ < 2 ^ (-1075 : ℤ) := by
            rw [show (-401 : ℤ) = -((401 : ℕ) : ℤ) from rfl,
              show (-1075 : ℤ) = -((1075 : ℕ) : ℤ) from rfl, zpow_neg, zpow_neg, zpow_natCast,
              zpow_natCast, inv_lt_inv₀ (by positivity) (by positivity)]
            exact_mod_cast (by decide +kernel : (2 : ℕ) ^ 1075 < 10 ^ 401)
    linarith
  unfold decimalValue
  rw [if_neg hM.ne', if_neg hbig, if_neg hsmall]
  split_ifs with hd
  · exact ofScientific_of_mem hM hx (by rwa [if_neg Bool.false_ne_true, Int.toNat_of_nonneg hd])
  · refine ofScientific_of_mem hM hx ?_
    rwa [if_pos rfl, Int.toNat_of_nonneg (by omega), neg_neg]

/-- Two finite numbers of one mantissa and exponent have one rounding interval, whatever
their signs. -/
theorem roundingInterval_exponentField {y : Float} {s t : Sign}
    (hx : x.toModel.unpack = .finite s mx q hmx) (hy : y.toModel.unpack = .finite t mx q hmx) :
    roundingInterval mx (exponentField y) = roundingInterval mx (exponentField x) := by
  simp only [roundingInterval, gt_iff_lt, one_lt_exponentField_iff hx, one_lt_exponentField_iff hy]

/-- A finite nonzero float negated when its sign bit is set is positive, of the same mantissa
and exponent. -/
theorem unpack_unsigned {s : Sign} (hx : x.toModel.unpack = .finite s mx q hmx) :
    (if signBit x then -x else x).toModel.unpack = .finite .positive mx q hmx := by
  have hs := (magnitude_of_unpack hx).2
  cases hb : signBit x
  · rw [hb, if_neg Bool.false_ne_true] at hs
    rw [if_neg Bool.false_ne_true, hx, ← hs]
  · rw [hb, if_pos rfl] at hs
    rw [if_pos rfl, unpack_neg_eq, hx, ← hs]
    rfl

/-- **Written floats read back.**  The text of a finite float, in every style, reads back as
the float itself; a zero keeps its sign. -/
theorem readFloat_render (st : FloatStyle) (hx : x.isFinite = true) :
    readFloat (st.render x) = .ok x := by
  have hxu : x.toModel.unpack.isFinite = true := hx
  obtain ⟨n, htext, hval⟩ := render_numeral st hx
  rw [← String.ofList_toList (s := st.render x), htext]
  cases hu : x.toModel.unpack with
  | zero s =>
    -- a zero is written `0` after its sign, and `0` reads as zero
    have hs := (magnitude_of_unpack_zero hu).2
    have hm0 : n.mantissa = 0 := by
      rw [shortest_of_zero hu, Nat.cast_zero, zero_mul] at hval
      exact_mod_cast (mul_eq_zero.1 hval).resolve_right (zpow_ne_zero _ (by norm_num))
    have hdec : decimalValue n.mantissa n.count n.scale = 0 := by simp [decimalValue, hm0]
    rw [readFloat_numeral _ n (by rw [hdec]; rfl), hdec]
    cases hb : signBit x
    · rw [hb, if_neg Bool.false_ne_true] at hs
      exact congrArg Except.ok (float_eq_of_unpack_eq (by
        rw [if_neg Bool.false_ne_true, unpack_zero, hu, hs]))
    · rw [hb, if_pos rfl] at hs
      exact congrArg Except.ok (float_eq_of_unpack_eq (by rw [if_pos rfl, unpack_neg_zero, hu, hs]))
  | finite s m q hm =>
    -- the shortest digits lie in the rounding interval, so their numeral reads as the magnitude
    obtain ⟨hmem, hD⟩ := shortest_mem hu
    have hy := unpack_unsigned hu
    have hM : 0 < n.mantissa := by
      rcases Nat.eq_zero_or_pos n.mantissa with h0 | h0
      · rw [h0, Nat.cast_zero, zero_mul] at hval
        exact absurd hval.symm (mul_ne_zero (Nat.cast_ne_zero.2 hD) (zpow_ne_zero _ (by norm_num)))
      · exact h0
    have hdec := decimalValue_of_mem hM n.mantissa_lt hy
      (by rw [hval, roundingInterval_exponentField hu hy]; exact hmem)
    have hyinf : (if signBit x then -x else x).isInf = false := by
      show (if signBit x then -x else x).toModel.unpack.isInf = false
      rw [hy]
      rfl
    rw [readFloat_numeral _ n (by rw [hdec]; exact hyinf), hdec]
    cases signBit x
    · rfl
    · exact congrArg Except.ok (float_neg_neg x)
  | infinity s => rw [hu] at hxu; cases hxu
  | notANumber => rw [hu] at hxu; cases hxu

end Finite

end SailSim.Text
