import RegistrySearch.Json.Tree
import RegistrySearch.Proofs.Numeral.Decimal

/-!
# Numbers and strings are read as written

A number that is an integer (`Number.IsWhole`) and any string at all are read back from their text,
whatever follows, as long as what follows a number does not go on with it (`EndsNumber`). Doubles
are left out, as they may be read one unit off.
-/

namespace RegistrySearch.Json

open Numeral (decimal digit? ofDigits)

/-- The text of an integer, cut into its parts. -/
def NumberText.ofInteger (n : Int) : NumberText := ⟨decide (n < 0), decimal n.natAbs, none, none⟩

namespace Number

/-- A number that is written as an integer and read as itself: only an integer below zero is kept as
a signed word. -/
def IsWhole : Number → Prop
  | natural _ => True
  | negative n => n.toInt < 0
  | real _ => False

/-- The text of a whole number, cut into its parts. -/
def text (n : Number) : NumberText := .ofInteger (n.integer?.getD 0)

/-- The number of an integer that fits a word, signed or not. -/
theorem isWhole_ofInt {n : Int} (hlo : -2 ^ 63 ≤ n) : (ofInt n).IsWhole := by
  rw [ofInt]
  split
  · next h =>
    rw [Numeral.clampInt64, if_neg (by omega), if_neg (by omega), IsWhole,
      Int64.toInt_ofInt_of_le (by omega) (by omega)]
    exact h
  · trivial

theorem integer?_ofInt {n : Int} (hlo : -2 ^ 63 ≤ n) (hhi : n < 2 ^ 64) :
    (ofInt n).integer? = some n := by
  rw [ofInt]
  split
  · next h =>
    rw [Numeral.clampInt64, if_neg (by omega), if_neg (by omega), integer?,
      Int64.toInt_ofInt_of_le (by omega) (by omega)]
  · next h =>
    have hlt : n.toNat < 2 ^ 64 := by omega
    rw [integer?, Nat.min_eq_left (Nat.le_sub_one_of_lt hlt), UInt64.toNat_ofNat_of_lt' hlt,
      Int.toNat_of_nonneg (by omega)]

/-- **Numbers.** The text of a whole number denotes it. -/
theorem value?_text {n : Number} (h : n.IsWhole) : n.text.value? = some n := by
  cases n with
  | real => cases h
  | natural n =>
    have hlt := UInt64.toNat_lt n
    have hsign : ¬(n.toNat : Int) < 0 := by omega
    simp only [text, integer?, Option.getD_some, NumberText.ofInteger, NumberText.value?,
      Int.natAbs_natCast, Numeral.ofDigits_decimal, hsign, decide_false, Bool.not_false, if_true,
      Option.isSome_none, Bool.or_self, Bool.false_or, decide_eq_true_eq]
    rw [if_neg (by omega), Nat.toUInt64, UInt64.ofNat_toNat]
  | negative n =>
    have hlo : -2 ^ 63 ≤ n.toInt := Int64.le_toInt n
    have hneg : n.toInt < 0 := h
    simp only [text, integer?, Option.getD_some, NumberText.ofInteger, NumberText.value?,
      Numeral.ofDigits_decimal, hneg, decide_true, Bool.not_true, Bool.false_eq_true, if_false,
      Option.isSome_none, Bool.or_self, Bool.false_or, decide_eq_true_eq]
    rw [if_neg (by omega), if_neg (by omega), Numeral.int64?, if_pos (by omega),
      show -((n.toInt.natAbs : Nat) : Int) = n.toInt by omega, Int64.ofInt_toInt]
    rfl

end Number

/-- A number in front of a text does not go on with it. -/
def EndsNumber (rest : List Char) : Prop :=
  ∀ c ∈ rest.head?, digit? c = none ∧ c ≠ '.' ∧ c ≠ 'e' ∧ c ≠ 'E'

namespace Tree

/-! ### Numbers -/

section numbers

variable {rest : List Char}

theorem readDigits_digits {n : Nat} (h : EndsNumber rest) :
    readDigits (Number.digits n ++ rest) = (decimal n, rest) := by
  have hdigits : ∀ c ∈ Nat.toDigits 10 n, (digit? c).isSome := fun c hc =>
    Numeral.isSome_digit?_of_mem hc
  have hrest : rest.takeWhile (fun c => (digit? c).isSome) = [] ∧
      rest.dropWhile (fun c => (digit? c).isSome) = rest := by
    cases rest with
    | nil => exact ⟨rfl, rfl⟩
    | cons c cs =>
      have hc := (h c rfl).1
      simp [hc]
  rw [readDigits, Number.digits, List.takeWhile_append_of_pos hdigits,
    List.dropWhile_append_of_pos hdigits, hrest.1, hrest.2, List.append_nil, decimal]

theorem readInteger?_digits {n : Nat} (h : EndsNumber rest) :
    readInteger? (Number.digits n ++ rest) = some (decimal n, rest) := by
  rw [readInteger?, readDigits_digits h]
  rcases Nat.eq_zero_or_pos n with rfl | hpos
  · rw [Numeral.decimal_zero]
    rfl
  · obtain ⟨d, ds, hd⟩ := Numeral.exists_cons_decimal hpos
    rw [hd]
    rfl

theorem readFraction?_of_endsNumber (h : EndsNumber rest) :
    readFraction? rest = some (none, rest) := by
  unfold readFraction?
  split
  · exact absurd rfl (h '.' rfl).2.1
  · rfl

theorem readExponent?_of_endsNumber (h : EndsNumber rest) :
    readExponent? rest = some (none, rest) := by
  unfold readExponent?
  split
  · rfl
  · next c cs =>
    rw [if_neg]
    rintro (he | he)
    · exact (h c rfl).2.2.1 he
    · exact (h c rfl).2.2.2 he

theorem exists_cons_digits (n : Nat) :
    ∃ c cs, Number.digits n = c :: cs ∧ (digit? c).isSome := by
  obtain ⟨c, cs, h⟩ := List.exists_cons_of_ne_nil (Nat.toDigits_ne_nil (n := n) (b := 10))
  exact ⟨c, cs, h, Numeral.isSome_digit?_of_mem (h ▸ List.mem_cons_self)⟩

/-- An integer is read from its text. -/
theorem readNumber?_integerText {n : Int} (h : EndsNumber rest) :
    readNumber? (Number.integerText n ++ rest) = some (.ofInteger n, rest) := by
  have hminus : readMinus (Number.integerText n ++ rest) =
      (decide (n < 0), Number.digits n.natAbs ++ rest) := by
    rw [Number.integerText]
    split
    · next hneg => rw [List.cons_append, readMinus, decide_eq_true hneg]
    · next hneg =>
      obtain ⟨c, cs, hc, hd⟩ := exists_cons_digits n.natAbs
      rw [hc, List.cons_append, readMinus, decide_eq_false hneg]
      rintro r hr
      cases hr
      cases hd
  rw [readNumber?, hminus]
  simp only [readInteger?_digits h, readFraction?_of_endsNumber h, readExponent?_of_endsNumber h,
    Option.bind_eq_bind, Option.bind_some, NumberText.ofInteger]

theorem render_eq_integerText {n : Number} (h : n.IsWhole) :
    n.render = Number.integerText (n.integer?.getD 0) := by
  cases n with
  | real => cases h
  | natural n =>
    rw [Number.render, Number.integer?, Option.getD_some, Number.integerText, if_neg (by omega)]
    rfl
  | negative n => rfl

/-- A whole number is read from its text. -/
theorem readNumber?_render {n : Number} (hn : n.IsWhole) (h : EndsNumber rest) :
    readNumber? (n.render ++ rest) = some (n.text, rest) := by
  rw [render_eq_integerText hn, readNumber?_integerText h, Number.text]

end numbers

/-! ### Strings -/

theorem hexDigit?_hexDigit {n : Nat} (h : n < 16) : hexDigit? (Value.hexDigit n) = some n := by
  match n with
  | 0 | 1 | 2 | 3 | 4 | 5 | 6 | 7 | 8 | 9 | 10 | 11 | 12 | 13 | 14 | 15 => rfl
  | _ + 16 => omega

/-- A character is read from its text inside quotes. -/
theorem readCodes?_escapeChar {c : Char} {rest after : List Char} {codes : List Nat}
    (h : readCodes? rest = some (codes, after)) :
    readCodes? (Value.escapeChar c ++ rest) = some (c.toNat :: codes, after) := by
  -- a character with a letter of its own is escaped by a backslash and that letter
  have hshort : ∀ e : Char, escape? e = some c → e ≠ 'u' →
      readCodes? ('\\' :: e :: rest) = some (c.toNat :: codes, after) := by
    intro e he hu
    rw [readCodes?]
    · simp only [he, h, Option.bind_eq_bind, Option.bind_some]
    · exact fun _ _ _ _ _ hu' => absurd hu' hu
  unfold Value.escapeChar
  iterate 7
    split
    · next hc => subst hc; exact hshort _ rfl (by decide)
  split
  · next hlt =>
    have h1 := hexDigit?_hexDigit (show c.toNat / 16 < 16 by omega)
    have h2 := hexDigit?_hexDigit (Nat.mod_lt c.toNat (by decide : 0 < 16))
    have h0 : hexDigit? '0' = some 0 := rfl
    simp only [List.cons_append, List.nil_append, readCodes?, List.mapM_cons, List.mapM_nil, h0, h1,
      h2, h, Option.bind_eq_bind, Option.bind_some, Option.pure_def, List.foldl_cons,
      List.foldl_nil, Nat.mul_zero, Nat.zero_add, Nat.div_add_mod]
  · next hquote hslash _ _ _ _ _ hlt =>
    rw [List.singleton_append, readCodes?]
    · rw [if_neg (not_or.mpr ⟨hslash, hlt⟩), h]
      rfl
    · exact fun hq => absurd hq hquote
    · exact fun _ _ _ _ _ hb => absurd hb hslash
    · exact fun _ _ hb => absurd hb hslash

/-- The text of a string inside quotes is read up to the closing quote. -/
theorem readCodes?_escaped {s rest : List Char} :
    readCodes? (s.flatMap Value.escapeChar ++ '"' :: rest) = some (s.map Char.toNat, rest) := by
  induction s with
  | nil => rw [List.flatMap_nil, List.nil_append, readCodes?, List.map_nil]
  | cons c s ih =>
    rw [List.flatMap_cons, List.append_assoc, readCodes?_escapeChar ih, List.map_cons]

/-- No character is half of a surrogate pair. -/
theorem not_surrogate (c : Char) :
    isHighSurrogate c.toNat = false ∧ isLowSurrogate c.toNat = false := by
  have h : c.toNat < 0xD800 ∨ 0xDFFF < c.toNat ∧ c.toNat < 0x110000 := c.valid
  simp only [isHighSurrogate, isLowSurrogate, Bool.and_eq_false_iff, decide_eq_false_iff_not]
  omega

theorem chars?_codes (s : List Char) : chars? (s.map Char.toNat) = some s := by
  induction s with
  | nil => rfl
  | cons c s ih =>
    obtain ⟨hhigh, hlow⟩ := not_surrogate c
    -- so no pair is joined
    cases s with
    | nil => simp [chars?, hhigh, hlow, Char.ofNat_toNat]
    | cons d s =>
      rw [List.map_cons] at ih
      simp [chars?, hhigh, hlow, ih, Char.ofNat_toNat]

/-- **Strings.** The code points of a string denote it. -/
theorem text?_codes (s : String) : text? (s.toList.map Char.toNat) = some s := by
  rw [text?, chars?_codes, Option.map_some, String.ofList_toList]

end Tree

end RegistrySearch.Json
