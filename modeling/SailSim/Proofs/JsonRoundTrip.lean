import Mathlib
import SailSim.Json.Marshal

/-!
# Reading back written JSON

The reader undoes the writer: `Json.parse (Json.render e v) = .ok v` for every value whose
numbers are JSON number literals, whether or not the writer escapes HTML characters
(`Json.parse_render`, and `Json.parse_compact` for the program's encoder); and a written object is
the first value of any text it starts (`Json.parseFirst_render_object`). The pieces, one per kind
of token:

* `Json.readString_escaped` : the escapes the writer uses for a string, `\"`, `\\`, the short
  control escapes and `\u` with four hexadecimal digits, read back as the string's code points;
  and since no character is a surrogate, joining surrogate pairs gives the characters back
  (`Json.joinSurrogates_map_toNat`);
* `Json.readNumber_literal` : a number literal followed by the end of the text, a comma or a
  closing bracket reads back as itself, the reader's four phases (sign, whole part, fraction,
  exponent) each stopping where the next part starts;
* `Json.reads_render` : at every fuel, the value, item and member readers read back a written
  value, array body or object body whose text is shorter than the fuel, by induction on the
  fuel, which each call spends; `parse` gives twice the text's length plus two.
-/

namespace SailSim.Json

/-! ### Strings -/

theorem readHex4_go_append (k acc : Nat) (cs more : List Char) (hlen : cs.length = k) :
    readHex4.go k acc (cs ++ more) = (readHex4.go k acc cs).map fun r => (r.1, r.2 ++ more) := by
  induction cs generalizing k acc with
  | nil =>
    subst hlen
    rfl
  | cons c cs ih =>
    obtain ⟨k, rfl⟩ : ∃ k', k = k' + 1 := ⟨cs.length, by simp at hlen; omega⟩
    simp only [List.cons_append, readHex4.go]
    cases hexValue c with
    | some v => exact ih k _ (by simpa using hlen)
    | none => rfl

/-- The codes the writer escapes as `\u` with four hexadecimal digits: the control characters
without a short escape, and, escaping for HTML, `&`, `<`, `>`, U+2028 and U+2029. -/
def unicodeEscaped : List Nat := List.range 32 ++ [38, 60, 62, 8232, 8233]

/-- The four digits the writer gives an escaped code, checked code by code. -/
theorem hexDigits_escaped {n : Nat} (hn : n ∈ unicodeEscaped) :
    (Text.hexDigits n 4).toList.length = 4 ∧
      (readHex4 (Text.hexDigits n 4).toList).toOption = some (n, []) := by
  revert n
  decide

/-- The four digits the writer gives an escaped code read back as that code. -/
theorem readHex4_hexDigits {n : Nat} (hn : n ∈ unicodeEscaped) (more : List Char) :
    readHex4 ((Text.hexDigits n 4).toList ++ more) = .ok (n, more) := by
  obtain ⟨hlen, hread⟩ := hexDigits_escaped hn
  unfold readHex4 at hread ⊢
  rw [readHex4_go_append 4 0 _ more hlen]
  cases h : readHex4.go 4 0 (Text.hexDigits n 4).toList with
  | error e => rw [h] at hread; cases hread
  | ok r => rw [h] at hread; cases hread; rfl

theorem escaped_of_lt {c : Char} (h : c.toNat < 32) : c.toNat ∈ unicodeEscaped :=
  List.mem_append_left _ (List.mem_range.2 h)

theorem escaped_of_html {c : Char}
    (h : (c == '<' || c == '>' || c == '&' || c.toNat == 8232 || c.toNat == 8233) = true) :
    c.toNat ∈ unicodeEscaped := by
  simp only [Bool.or_eq_true, beq_iff_eq] at h
  apply List.mem_append_right
  rcases h with (((rfl | rfl) | rfl) | h) | h <;> simp_all

/-- A character written inside a string literal reads back as its code point. -/
theorem readString_escapeChar (e : Bool) (c : Char) (acc : List Nat) (more : List Char) :
    readString acc ((escapeChar e c).toList ++ more) = readString (c.toNat :: acc) more := by
  unfold escapeChar
  split
  · show readString acc ('\\' :: '"' :: more) = _
    simp only [readString]; rfl
  · show readString acc ('\\' :: '\\' :: more) = _
    simp only [readString]; rfl
  · show readString acc ('\\' :: 'n' :: more) = _
    simp only [readString]; rfl
  · show readString acc ('\\' :: 'r' :: more) = _
    simp only [readString]; rfl
  · show readString acc ('\\' :: 't' :: more) = _
    simp only [readString]; rfl
  · show readString acc ('\\' :: 'b' :: more) = _
    simp only [readString]; rfl
  · show readString acc ('\\' :: 'f' :: more) = _
    simp only [readString]; rfl
  · rename_i hq hb _ _ _ _ _
    -- a `\u` escape reads four digits, leaving `more`, which is shorter
    have hu : ∀ n ∈ unicodeEscaped, c.toNat = n →
        readString acc (("\\u" ++ Text.hexDigits n 4).toList ++ more) =
          readString (c.toNat :: acc) more := by
      rintro n hn rfl
      simp only [String.toList_append, List.append_assoc]
      rw [show ("\\u" : String).toList = ['\\', 'u'] from rfl, List.cons_append, List.cons_append,
        List.nil_append, readString.eq_12, readHex4_hexDigits hn]
      have hlen := (hexDigits_escaped hn).1
      simp only [List.length_append, hlen]
      rw [if_pos (by omega)]
    dsimp only
    split_ifs with hlt hhtml
    · exact hu _ (escaped_of_lt hlt) rfl
    · rw [Bool.and_eq_true] at hhtml
      exact hu _ (escaped_of_html hhtml.2) rfl
    · rw [show c.toString.toList = [c] from String.toList_singleton c, List.singleton_append,
        readString.eq_14 acc c more hq hb, if_neg hlt]

/-- **Strings read back.**  The escaped characters of a string and the closing quote read back
as the string's code points, leaving what follows. -/
theorem readString_escaped (e : Bool) (s : List Char) (acc : List Nat) (more : List Char) :
    readString acc ((String.join (s.map (escapeChar e))).toList ++ '"' :: more) =
      .ok (acc.reverse ++ s.map Char.toNat, more) := by
  induction s generalizing acc with
  | nil => simp [readString]
  | cons c s ih =>
    rw [List.map_cons, String.join_cons, String.toList_append, List.append_assoc,
      readString_escapeChar, ih]
    simp

/-- No character is a surrogate. -/
theorem not_surrogate (c : Char) : ¬ (0xD800 ≤ c.toNat ∧ c.toNat < 0xE000) := by
  have h : c.toNat.isValidChar := c.valid
  unfold Nat.isValidChar at h
  omega

/-- Joining surrogate pairs changes nothing in the code points of characters. -/
theorem joinSurrogates_map_toNat (s : List Char) : joinSurrogates (s.map Char.toNat) = s := by
  induction s with
  | nil => rfl
  | cons c s ih =>
    have hc := not_surrogate c
    cases s with
    | nil =>
      simp [joinSurrogates, Char.ofNat_toNat]
      omega
    | cons d s =>
      rw [List.map_cons, List.map_cons, joinSurrogates.eq_2, ← List.map_cons, ih]
      simp only [Bool.and_eq_true, decide_eq_true_eq, Char.ofNat_toNat]
      rw [if_neg (by omega), if_neg (by omega)]

/-! ### Numbers -/

def Digits (ds : List Char) : Prop := ∀ c ∈ ds, c.isDigit = true

/-- A digit differs from every character that is not one. -/
theorem isDigit_ne {c d : Char} (hc : c.isDigit = true) (hd : d.isDigit = false) : c ≠ d := by
  rintro rfl
  simp_all

/-- Text that is empty or starts with one of the characters `s`. -/
def StartsIn (s rest : List Char) : Prop := ∀ c cs, rest = c :: cs → c ∈ s

/-- What may follow a value in compact text: nothing, a comma or a closing bracket. -/
def EndsValue (rest : List Char) : Prop := StartsIn [',', ']', '}'] rest

theorem StartsIn.nil (s : List Char) : StartsIn s [] := by
  intro c cs h
  cases h

theorem StartsIn.append {s s' part rest : List Char} (hpart : StartsIn s part)
    (hrest : StartsIn s' rest) : StartsIn (s ++ s') (part ++ rest) := by
  cases part with
  | nil => exact fun c cs hc => List.mem_append_right s (hrest c cs hc)
  | cons c cs =>
    rintro d ds ⟨⟩
    exact List.mem_append_left s' (hpart c cs rfl)

theorem StartsIn.isDigit {s rest : List Char} (h : StartsIn s rest)
    (hs : ∀ c ∈ s, c.isDigit = false)
    {c : Char} {cs : List Char} (hc : rest = c :: cs) : c.isDigit = false :=
  hs c (h c cs hc)

theorem StartsIn.ne {s rest : List Char} (h : StartsIn s rest) {c : Char} (hs : c ∉ s)
    (cs : List Char) : rest ≠ c :: cs :=
  fun hc => hs (h c cs hc)

theorem digits_append {ds rest : List Char} (hds : Digits ds)
    (hrest : ∀ c cs, rest = c :: cs → c.isDigit = false) :
    digits (ds ++ rest) = (ds, rest) := by
  induction ds with
  | nil =>
    cases rest with
    | nil => rfl
    | cons c cs => simp [digits, hrest c cs rfl]
  | cons d ds ih =>
    have hd := hds d List.mem_cons_self
    have ih' := ih fun c hc => hds c (List.mem_cons_of_mem _ hc)
    simp only [digits, Prod.mk.injEq] at ih'
    simp [digits, hd, ih'.1, ih'.2]

/-- A JSON number literal: an optional minus sign; `0`, or a digit other than `0` followed by
digits; an optional point followed by one or more digits; and an optional exponent, `e` or
`E`, an optional sign and one or more digits. -/
def IsNumberLiteral (lit : String) : Prop :=
  ∃ sign whole frac expo : List Char, lit.toList = sign ++ whole ++ frac ++ expo ∧
    (sign = [] ∨ sign = ['-']) ∧
    (whole = ['0'] ∨ ∃ d ds, whole = d :: ds ∧ d ≠ '0' ∧ Digits (d :: ds)) ∧
    (frac = [] ∨ ∃ d ds, frac = '.' :: d :: ds ∧ Digits (d :: ds)) ∧
    (expo = [] ∨ ∃ e sgn d ds, expo = e :: sgn ++ d :: ds ∧ (e = 'e' ∨ e = 'E') ∧
      (sgn = [] ∨ sgn = ['+'] ∨ sgn = ['-']) ∧ Digits (d :: ds))

theorem readSign_literal {sign whole rest : List Char} (hsign : sign = [] ∨ sign = ['-'])
    (hwhole : ∃ d ds, whole = d :: ds ∧ d.isDigit = true) :
    readSign (sign ++ (whole ++ rest)) = (sign, whole ++ rest) := by
  obtain ⟨d, ds, rfl, hd⟩ := hwhole
  have hne : d ≠ '-' := isDigit_ne hd rfl
  rcases hsign with rfl | rfl
  · simp [readSign, hne]
  · rfl

theorem readWhole_literal {whole rest : List Char}
    (hwhole : whole = ['0'] ∨ ∃ d ds, whole = d :: ds ∧ d ≠ '0' ∧ Digits (d :: ds))
    (hr : StartsIn ['.', 'e', 'E', ',', ']', '}'] rest) :
    readWhole (whole ++ rest) = .ok (whole, rest) := by
  rcases hwhole with rfl | ⟨d, ds, rfl, h0, hds⟩
  · rfl
  · have hdr : digits (d :: (ds ++ rest)) = (d :: ds, rest) :=
      digits_append hds fun _ _ => hr.isDigit (by simp)
    simp [readWhole, hds d List.mem_cons_self, hdr]
    rfl

theorem readFraction_literal {frac rest : List Char}
    (hfrac : frac = [] ∨ ∃ d ds, frac = '.' :: d :: ds ∧ Digits (d :: ds))
    (hr : StartsIn ['e', 'E', ',', ']', '}'] rest) :
    readFraction (frac ++ rest) = .ok (frac, rest) := by
  rcases hfrac with rfl | ⟨d, ds, rfl, hds⟩
  · have hne : ∀ cs, rest ≠ '.' :: cs := hr.ne (by decide)
    cases rest with
    | nil => rfl
    | cons c cs =>
      simp [readFraction]
      rfl
  · have hdr : digits (d :: (ds ++ rest)) = (d :: ds, rest) :=
      digits_append hds fun _ _ => hr.isDigit (by simp)
    simp [readFraction, hds d List.mem_cons_self, hdr]
    rfl

theorem readExponent_literal {expo rest : List Char}
    (hexpo : expo = [] ∨ ∃ e sgn d ds, expo = e :: sgn ++ d :: ds ∧ (e = 'e' ∨ e = 'E') ∧
      (sgn = [] ∨ sgn = ['+'] ∨ sgn = ['-']) ∧ Digits (d :: ds))
    (hr : EndsValue rest) :
    readExponent (expo ++ rest) = .ok (expo, rest) := by
  rcases hexpo with rfl | ⟨e, sgn, d, ds, rfl, he, hsgn, hds⟩
  · cases rest with
    | nil => rfl
    | cons c cs =>
      have hc := hr c cs rfl
      simp only [List.mem_cons, List.not_mem_nil, or_false] at hc
      rcases hc with rfl | rfl | rfl <;> rfl
  · have hd := hds d List.mem_cons_self
    have hdr : digits (d :: (ds ++ rest)) = (d :: ds, rest) :=
      digits_append hds fun _ _ => hr.isDigit (by simp)
    rcases hsgn with rfl | rfl | rfl
    · have hplus : d ≠ '+' := isDigit_ne hd rfl
      have hminus : d ≠ '-' := isDigit_ne hd rfl
      rcases he with rfl | rfl <;> simp [readExponent, hd, hdr, hplus, hminus] <;> rfl
    · rcases he with rfl | rfl <;> simp [readExponent, hd, hdr] <;> rfl
    · rcases he with rfl | rfl <;> simp [readExponent, hd, hdr] <;> rfl

/-- **Numbers read back.**  A number literal followed by the end of the text, a comma or a
closing bracket reads back as itself. -/
theorem readNumber_literal {lit : String} (h : IsNumberLiteral lit) {rest : List Char}
    (hr : EndsValue rest) : readNumber (lit.toList ++ rest) = .ok (lit, rest) := by
  obtain ⟨sign, whole, frac, expo, hlit, hsign, hwhole, hfrac, hexpo⟩ := h
  -- each part is empty or starts with a character the part before it stops at
  have hexpo' : StartsIn ['e', 'E'] expo := by
    rcases hexpo with rfl | ⟨e, sgn, d, ds, rfl, he, -⟩
    · exact .nil _
    · rintro c cs ⟨⟩
      rcases he with rfl | rfl <;> decide
  have hfrac' : StartsIn ['.'] frac := by
    rcases hfrac with rfl | ⟨d, ds, rfl, -⟩
    · exact .nil _
    · rintro c cs ⟨⟩
      exact List.mem_singleton_self _
  have hwhole' : ∃ d ds, whole = d :: ds ∧ d.isDigit = true := by
    rcases hwhole with rfl | ⟨d, ds, rfl, -, hds⟩
    · exact ⟨'0', [], rfl, rfl⟩
    · exact ⟨d, ds, rfl, hds d List.mem_cons_self⟩
  have hafter : String.ofList (sign ++ whole ++ frac ++ expo) = lit := by
    rw [← hlit, String.ofList_toList]
  rw [hlit, List.append_assoc, List.append_assoc, List.append_assoc]
  simp only [readNumber, readSign_literal hsign hwhole',
    readWhole_literal hwhole (hfrac'.append (hexpo'.append hr)), bind, Except.bind,
    readFraction_literal hfrac (hexpo'.append hr), readExponent_literal hexpo hr, hafter, pure,
    Except.pure]

theorem IsNumberLiteral.head {lit : String} (h : IsNumberLiteral lit) :
    ∃ c cs, lit.toList = c :: cs ∧ (c = '-' ∨ c.isDigit = true) := by
  obtain ⟨sign, whole, frac, expo, hlit, hsign, hwhole, -⟩ := h
  rcases hsign with rfl | rfl
  · rcases hwhole with rfl | ⟨d, ds, rfl, -, hds⟩
    · exact ⟨'0', _, hlit, .inr rfl⟩
    · exact ⟨d, _, hlit, .inr (hds d List.mem_cons_self)⟩
  · exact ⟨'-', _, hlit, .inl rfl⟩

/-- A digit is no blank and starts no value other than a number. -/
theorem ne_of_isDigit {c : Char} (hd : c.isDigit = true) :
    c ≠ '{' ∧ c ≠ '[' ∧ c ≠ '"' ∧ c ≠ 't' ∧ c ≠ 'f' ∧ c ≠ 'n' ∧
      isSpace c = false := by
  have hsp : isSpace c = false := by
    simp only [isSpace, Bool.or_eq_false_iff, beq_eq_false_iff_ne]
    exact ⟨⟨⟨isDigit_ne hd rfl, isDigit_ne hd rfl⟩, isDigit_ne hd rfl⟩, isDigit_ne hd rfl⟩
  exact ⟨isDigit_ne hd rfl, isDigit_ne hd rfl, isDigit_ne hd rfl, isDigit_ne hd rfl,
    isDigit_ne hd rfl, isDigit_ne hd rfl, hsp⟩

/-- A number literal read as a value. -/
theorem readValue_number (fuel : Nat) {lit : String} (h : IsNumberLiteral lit) {rest : List Char}
    (hr : EndsValue rest) :
    readValue (fuel + 1) (lit.toList ++ rest) = .ok (.number lit, rest) := by
  have hread := readNumber_literal h hr
  obtain ⟨c, cs, hc, hstart⟩ := h.head
  rw [hc, List.cons_append] at hread ⊢
  rcases hstart with rfl | hd
  · simp [readValue, skipSpace, isSpace, hread]
  · obtain ⟨h1, h2, h3, h4, h5, h6, h7⟩ := ne_of_isDigit hd
    simp [readValue, skipSpace, h7, hd, hread]

/-! ### Values -/

mutual
/-- Every number of the value is a JSON number literal. -/
def LiteralNumbers : Json → Prop
  | .number lit => IsNumberLiteral lit
  | .array xs => LiteralItems xs
  | .object ms => LiteralMembers ms
  | _ => True

/-- Every number of the items is a JSON number literal. -/
def LiteralItems : List Json → Prop
  | [] => True
  | x :: xs => LiteralNumbers x ∧ LiteralItems xs

/-- Every number of the members' values is a JSON number literal. -/
def LiteralMembers : List (String × Json) → Prop
  | [] => True
  | m :: ms => LiteralNumbers m.2 ∧ LiteralMembers ms
end

theorem quoteString_toList (e : Bool) (s : String) :
    (quoteString e s).toList =
      '"' :: ((String.join (s.toList.map (escapeChar e))).toList ++ ['"']) := by
  simp [quoteString]

/-- Written text starts with a character that is no blank and no closing bracket. -/
theorem render_head (e : Bool) (v : Json) (h : LiteralNumbers v) :
    ∃ c cs, (render e v).toList = c :: cs ∧ isSpace c = false ∧ c ≠ ']' := by
  cases v with
  | number lit =>
    obtain ⟨c, cs, hc, hstart⟩ := IsNumberLiteral.head h
    refine ⟨c, cs, hc, ?_⟩
    rcases hstart with rfl | hd
    · decide
    · exact ⟨(ne_of_isDigit hd).2.2.2.2.2.2, isDigit_ne hd rfl⟩
  | string s => exact ⟨_, _, quoteString_toList e s, rfl, by decide⟩
  | bool b =>
    cases b
    · exact ⟨'f', "alse".toList, by simp [render], rfl, by decide⟩
    · exact ⟨'t', "rue".toList, by simp [render], rfl, by decide⟩
  | null => exact ⟨'n', "ull".toList, by simp [render], rfl, by decide⟩
  | array xs =>
    exact ⟨'[', (renderItems e xs).toList ++ [']'], by simp [render], rfl, by decide⟩
  | object ms =>
    exact ⟨'{', (renderMembers e ms).toList ++ ['}'], by simp [render], rfl, by decide⟩

theorem renderItems_cons_toList (e : Bool) (x : Json) (xs : List Json) :
    ∃ t, (renderItems e (x :: xs)).toList = (render e x).toList ++ t := by
  cases xs with
  | nil => exact ⟨[], by simp [renderItems]⟩
  | cons y ys =>
    refine ⟨',' :: (renderItems e (y :: ys)).toList, ?_⟩
    rw [renderItems.eq_3 _ _ _ (List.cons_ne_nil y ys)]
    simp

theorem renderMembers_cons_toList (e : Bool) (k : String) (v : Json) (ms : List (String × Json)) :
    ∃ t, (renderMembers e ((k, v) :: ms)).toList = (quoteString e k).toList ++ t := by
  cases ms with
  | nil => exact ⟨':' :: (render e v).toList, by simp [renderMembers]⟩
  | cons m ms =>
    refine ⟨':' :: ((render e v).toList ++ ',' :: (renderMembers e (m :: ms)).toList), ?_⟩
    rw [renderMembers.eq_3 _ _ _ _ (List.cons_ne_nil m ms)]
    simp

theorem EndsValue.nil : EndsValue [] := StartsIn.nil _

theorem skipSpace_cons {c : Char} (h : isSpace c = false) (cs : List Char) :
    skipSpace (c :: cs) = c :: cs := by
  simp [skipSpace, h]

theorem EndsValue.cons {c : Char} (hc : c ∈ [',', ']', '}']) (cs : List Char) :
    EndsValue (c :: cs) := by
  rintro d ds ⟨⟩
  exact hc

/-- The reader at `fuel` reads back every written value whose text is shorter than the fuel,
followed by the end of the text, a comma or a closing bracket. -/
def ReadsValues (e : Bool) (fuel : Nat) : Prop :=
  ∀ v rest, LiteralNumbers v → (render e v).toList.length < fuel → EndsValue rest →
    readValue fuel ((render e v).toList ++ rest) = .ok (v, rest)

/-- The item reader at `fuel` reads back every written array body and its closing bracket
when the fuel exceeds the body's length by more than one. -/
def ReadsItems (e : Bool) (fuel : Nat) : Prop :=
  ∀ acc x xs rest, LiteralItems (x :: xs) →
    (renderItems e (x :: xs)).toList.length + 1 < fuel →
    readItems fuel acc ((renderItems e (x :: xs)).toList ++ ']' :: rest) =
      .ok (.array (acc.reverse ++ x :: xs), rest)

/-- The member reader at `fuel` reads back every written object body and its closing brace
when the fuel exceeds the body's length by more than one. -/
def ReadsMembers (e : Bool) (fuel : Nat) : Prop :=
  ∀ acc m ms rest, LiteralMembers (m :: ms) →
    (renderMembers e (m :: ms)).toList.length + 1 < fuel →
    readMembers fuel acc ((renderMembers e (m :: ms)).toList ++ '}' :: rest) =
      .ok (.object (acc.reverse ++ m :: ms), rest)

theorem readsItems_succ {e : Bool} {fuel : Nat} (hv : ReadsValues e fuel) (hi : ReadsItems e fuel) :
    ReadsItems e (fuel + 1) := by
  intro acc x xs rest hlit hlen
  obtain ⟨hx, hxs⟩ := hlit
  cases xs with
  | nil =>
    have hread := hv x (']' :: rest) hx (by simpa [renderItems] using hlen) (.cons (by decide) _)
    simp only [renderItems]
    simp [readItems, hread, skipSpace, isSpace, bind, Except.bind, pure, Except.pure]
  | cons y ys =>
    have htext : (renderItems e (x :: y :: ys)).toList =
        (render e x).toList ++ ',' :: (renderItems e (y :: ys)).toList := by
      rw [renderItems.eq_3 _ _ _ (List.cons_ne_nil y ys)]
      simp
    rw [htext, List.length_append, List.length_cons] at hlen
    have hread := hv x (',' :: ((renderItems e (y :: ys)).toList ++ ']' :: rest)) hx
      (by omega) (.cons (by decide) _)
    have hrest := hi (x :: acc) y ys rest hxs (by omega)
    rw [htext, List.append_assoc, List.cons_append]
    simp [readItems, hread, skipSpace, isSpace, bind, Except.bind, hrest]

theorem readsMembers_succ {e : Bool} {fuel : Nat} (hv : ReadsValues e fuel)
    (hm : ReadsMembers e fuel) : ReadsMembers e (fuel + 1) := by
  intro acc m ms rest hlit hlen
  obtain ⟨k, v⟩ := m
  obtain ⟨hx, hms⟩ := hlit
  -- the key reads back as itself
  have hkey : ∀ more, readString [] ((String.join (k.toList.map (escapeChar e))).toList ++
      '"' :: more) = .ok (k.toList.map Char.toNat, more) := fun more => by
    simpa using readString_escaped e k.toList [] more
  have hk : String.ofList (joinSurrogates (k.toList.map Char.toNat)) = k := by
    rw [joinSurrogates_map_toNat, String.ofList_toList]
  cases ms with
  | nil =>
    have htext : (renderMembers e [(k, v)]).toList = '"' ::
        ((String.join (k.toList.map (escapeChar e))).toList ++
          '"' :: ':' :: (render e v).toList) := by
      simp [renderMembers, quoteString]
    rw [htext] at hlen ⊢
    simp only [List.length_cons, List.length_append] at hlen
    have hread := hv v ('}' :: rest) hx (by omega) (.cons (by decide) _)
    simp [readMembers, skipSpace, isSpace, hkey, hk, hread, bind, Except.bind, pure, Except.pure,
      -String.toList_join]
  | cons m' ms' =>
    have htext : (renderMembers e ((k, v) :: m' :: ms')).toList = '"' ::
        ((String.join (k.toList.map (escapeChar e))).toList ++ '"' :: ':' ::
          ((render e v).toList ++ ',' :: (renderMembers e (m' :: ms')).toList)) := by
      rw [renderMembers.eq_3 _ _ _ _ (List.cons_ne_nil m' ms')]
      simp [quoteString]
    rw [htext] at hlen ⊢
    simp only [List.length_cons, List.length_append] at hlen
    have hread := hv v (',' :: ((renderMembers e (m' :: ms')).toList ++ '}' :: rest)) hx
      (by omega) (.cons (by decide) _)
    have hrest := hm ((k, v) :: acc) m' ms' rest hms (by omega)
    simp [readMembers, skipSpace, isSpace, hkey, hk, hread, hrest, bind, Except.bind,
      -String.toList_join]

/-- A written object reads back whatever follows it: its closing brace ends it. -/
theorem readObject_succ {e : Bool} {fuel : Nat} (hm : ReadsMembers e fuel)
    {ms : List (String × Json)} (hlit : LiteralMembers ms)
    (hlen : (render e (.object ms)).toList.length < fuel + 1) (rest : List Char) :
    readValue (fuel + 1) ((render e (.object ms)).toList ++ rest) = .ok (.object ms, rest) := by
  cases ms with
  | nil => simp [render, renderMembers, readValue, skipSpace, isSpace]
  | cons m ms =>
    have hbody : (render e (.object (m :: ms))).toList =
        '{' :: ((renderMembers e (m :: ms)).toList ++ ['}']) := by
      simp [render]
    rw [hbody, List.length_cons, List.length_append, List.length_singleton] at hlen
    have hmembers := hm [] m ms rest hlit (by omega)
    -- the first member starts with the quote of its key
    obtain ⟨k, v⟩ := m
    obtain ⟨t, ht⟩ := renderMembers_cons_toList e k v ms
    have hstart : (renderMembers e ((k, v) :: ms)).toList ++ '}' :: rest =
        '"' :: ((String.join (k.toList.map (escapeChar e))).toList ++
          '"' :: (t ++ '}' :: rest)) := by
      rw [ht, quoteString_toList]
      simp [-String.toList_join]
    rw [hstart] at hmembers
    rw [hbody, List.cons_append, List.append_assoc, List.singleton_append, hstart]
    simp [readValue, skipSpace, isSpace, hmembers, -String.toList_join]

theorem readsValues_succ {e : Bool} {fuel : Nat} (hi : ReadsItems e fuel)
    (hm : ReadsMembers e fuel) : ReadsValues e (fuel + 1) := by
  intro v rest hlit hlen hr
  cases v with
  | null => simp [render, readValue, skipSpace, isSpace, readWord, Functor.map, Except.map]
  | bool b =>
    cases b <;> simp [render, readValue, skipSpace, isSpace, readWord, Functor.map, Except.map]
  | number lit => exact readValue_number fuel hlit hr
  | string s =>
    rw [render, quoteString_toList, List.cons_append, List.append_assoc, List.singleton_append]
    simp [readValue, skipSpace, isSpace, readString_escaped, joinSurrogates_map_toNat, Functor.map,
      Except.map, -String.toList_join]
  | array xs =>
    cases xs with
    | nil => simp [render, renderItems, readValue, skipSpace, isSpace]
    | cons x xs =>
      have hbody : (render e (.array (x :: xs))).toList =
          '[' :: ((renderItems e (x :: xs)).toList ++ [']']) := by
        simp [render]
      rw [hbody, List.length_cons, List.length_append, List.length_singleton] at hlen
      have hitems := hi [] x xs rest hlit (by omega)
      -- the first item starts with neither a blank nor the closing bracket
      obtain ⟨c, cs, hc, hsp, hne⟩ := render_head e x hlit.1
      obtain ⟨t, ht⟩ := renderItems_cons_toList e x xs
      have hstart : (renderItems e (x :: xs)).toList ++ ']' :: rest =
          c :: (cs ++ (t ++ ']' :: rest)) := by
        rw [ht, hc]
        simp
      rw [hstart] at hitems
      rw [hbody, List.cons_append, List.append_assoc, List.singleton_append, hstart]
      simp [readValue, skipSpace_cons (show isSpace '[' = false by decide), skipSpace_cons hsp, hne,
        hitems]
  | object ms => exact readObject_succ hm hlit hlen rest

/-- **The readers read back what is written**, at every fuel: a call spends one unit of fuel and
reads at least one character. -/
theorem reads_render (e : Bool) (fuel : Nat) :
    ReadsValues e fuel ∧ ReadsItems e fuel ∧ ReadsMembers e fuel := by
  induction fuel with
  | zero =>
    refine ⟨fun _ _ _ h _ => absurd h (Nat.not_lt_zero _), fun _ _ _ _ _ h => ?_,
      fun _ _ _ _ _ h => ?_⟩ <;> omega
  | succ fuel ih =>
    obtain ⟨hv, hi, hm⟩ := ih
    exact ⟨readsValues_succ hi hm, readsItems_succ hv hi, readsMembers_succ hv hm⟩

/-- A written value reads back when the fuel exceeds the length of its text. -/
theorem readValue_render (e : Bool) {v : Json} (h : LiteralNumbers v) (fuel : Nat)
    (hfuel : (render e v).toList.length < fuel) (rest : List Char) (hr : EndsValue rest) :
    readValue fuel ((render e v).toList ++ rest) = .ok (v, rest) :=
  (reads_render e fuel).1 v rest h hfuel hr

/-- A written object reads back, whatever text follows it, when the fuel exceeds the length of
its text. -/
theorem readValue_render_object (e : Bool) {ms : List (String × Json)} (h : LiteralMembers ms)
    (fuel : Nat) (hfuel : (render e (.object ms)).toList.length < fuel) (rest : List Char) :
    readValue fuel ((render e (.object ms)).toList ++ rest) = .ok (.object ms, rest) := by
  obtain ⟨fuel, rfl⟩ : ∃ f, fuel = f + 1 := ⟨fuel - 1, by omega⟩
  exact readObject_succ (reads_render e fuel).2.2 h hfuel rest

/-- **Written text reads back** as the value written, for every value whose numbers are JSON
number literals, with or without the HTML characters escaped. -/
theorem parse_render (e : Bool) {v : Json} (h : LiteralNumbers v) : parse (render e v) = .ok v := by
  have hread := readValue_render e h (2 * (render e v).toList.length + 2) (by omega) [] .nil
  rw [List.append_nil] at hread
  simp [parse, hread, skipSpace, bind, Except.bind, pure, Except.pure]

/-- **Compact text reads back** as the value written. -/
theorem parse_compact {v : Json} (h : LiteralNumbers v) : parse (compact v) = .ok v :=
  parse_render true h

/-- The first value of a text that starts with a written object is that object. -/
theorem parseFirst_render_object (e : Bool) {ms : List (String × Json)} (h : LiteralMembers ms)
    (rest : String) : parseFirst (render e (.object ms) ++ rest) = .ok (.object ms) := by
  have hread := readValue_render_object e h
    (2 * (render e (.object ms) ++ rest).toList.length + 2) (by simp; omega) rest.toList
  have hstart : (render e (.object ms)).toList = '{' :: (renderMembers e ms ++ "\x7d").toList := by
    simp [render]
  rw [String.toList_append] at hread
  rw [parseFirst, String.toList_append, hread]
  simp [hstart, skipSpace, isSpace]

end SailSim.Json
