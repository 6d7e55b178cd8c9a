import RegistrySearch.Proofs.Search.Ranges

/-!
# Numbers as words

A number is indexed as a point and as the term that it is written as. A query for the number goes by
the term, a range by the point. The word of a number is analyzed like any other, though, and loses
its sign: so both find the same records for a number that is not negative, while the word of a
negative one finds its magnitude instead.
-/

namespace RegistrySearch

open Query (Clause)

section integers

variable {p : Path}

/-- An integer behind a field is the term of its magnitude. -/
theorem parse_integer (hp : p.IsPlain) (n : Int) :
    Clause.parse (String.ofList (p.text.toList ++ ':' :: (toString n).toList)) =
      .ok (.term p.text (String.ofList (Nat.toDigits 10 n.natAbs))) := by
  have hbare : ∀ c ∈ Nat.toDigits 10 n.natAbs, Query.isBare c := fun c hc =>
    Query.isBare_of_isAlphanumeric
      ((Text.isTerm_toDigits n.natAbs).alphanumeric c (by rwa [String.toList_ofList]))
  have hwild : ((toString n).toList.any fun c => c = '*' || c = '?') = false := by
    rw [List.any_eq_false]
    intro c hc
    have hbounds := Numeral.toNat_of_isNumeralChar (Numeral.isNumeralChar_of_mem_toString hc)
    have hne : ∀ d : Char, d.toNat < 43 ∨ 57 < d.toNat → c ≠ d := by
      rintro d hd rfl
      omega
    simp only [hne '*' (by decide), hne '?' (by decide), decide_false, Bool.or_self,
      Bool.false_eq_true, not_false_eq_true]
  have hclause := Query.clause?_of_analyze hwild
    (by rw [String.ofList_toList, Text.analyze_toString]) p.text
  refine Query.ReadsPrimary.parse_eq ?_
  rw [String.toList_ofList]
  refine Query.readsPrimary_of_value hp.isName fun rest hrest => ?_
  rw [← hclause]
  have htext := Numeral.toList_toString n
  split at htext
  · rw [htext]
    exact Query.readValue_minus hbare hrest
  · rw [htext]
    exact Query.readValue_word Nat.toDigits_ne_nil hbare hrest

/-- A value that is a number or nothing has the term of a magnitude if it is that number. -/
theorem exists_standsAt_toDigits {value : TypedValue} {k : Nat}
    (h : value = .null ∨ ∃ x, value = .number x) :
    (∃ j, StandsAt (Field.ofValue p value) (String.ofList (Nat.toDigits 10 k)) j) ↔
      ∃ x, value = .number x ∧ x.toInt = k := by
  obtain rfl | ⟨x, rfl⟩ := h
  · refine iff_of_false ?_ ?_
    · rintro ⟨j, hj | ⟨-, f, hf, -⟩⟩
      · cases hj
      · cases hf
    · rintro ⟨x, ⟨⟩, -⟩
  · rw [exists_standsAt_number, Numeral.ofList_toDigits_eq_iff]
    constructor
    · exact fun hx => ⟨x, rfl, hx⟩
    · rintro ⟨y, hy, hk⟩
      cases hy
      exact hk

/-- An integer alone matches the records with its magnitude. -/
theorem mem_matched_magnitude (hp : p.IsPlain) {k i : Nat} {records : List Record}
    (hn : records.length ≤ 2 ^ 32)
    (hvalues : ∀ record ∈ records, Record.resolve record p = .null ∨
      ∃ x, Record.resolve record p = .number x) :
    i ∈ matched (.term p.text (String.ofList (Nat.toDigits 10 k))) records ↔
      ∃ record x, records[i]? = some record ∧ Record.resolve record p = .number x ∧
        x.toInt = k := by
  rw [mem_matched_term hp hn]
  refine exists_congr fun record => ?_
  rw [exists_and_left]
  refine and_congr_right fun hrecord => ?_
  exact exists_standsAt_toDigits (hvalues record (List.mem_of_getElem? hrecord))

/-- The range from an integer to itself matches the records with the integer. -/
theorem mem_matched_point {n : Int64} {records : List Record} {range : Clause}
    (hpoints : ∀ i, i ∈ matched range records ↔ ∃ record, records[i]? = some record ∧
      ∃ x, Record.resolve record p = .number x ∧ AdmitsAbove true (some n) x ∧
        AdmitsBelow true (some n) x) (i : Nat) :
    i ∈ matched range records ↔
      ∃ record, records[i]? = some record ∧ Record.resolve record p = .number n := by
  rw [hpoints]
  refine exists_congr fun record => and_congr_right fun _ => ?_
  constructor
  · rintro ⟨x, hx, habove, hbelow⟩
    have heq : x = n := Int64.toInt_inj.mp (Int.le_antisymm (hbelow n rfl) (habove n rfl))
    rw [hx, heq]
  · refine fun hx => ⟨n, hx, ?_, ?_⟩ <;>
    · rintro m ⟨⟩
      exact Int.le_refl _

/-- The records with the magnitude of an integer are those with the integer exactly if it is not
negative, or no number has its magnitude. -/
private theorem forall_magnitude_iff {n : Int64} {records : List Record} :
    (∀ i : Nat, (∃ record x, records[i]? = some record ∧ Record.resolve record p = .number x ∧
        x.toInt = n.toInt.natAbs) ↔
      ∃ record, records[i]? = some record ∧ Record.resolve record p = .number n) ↔
    0 ≤ n.toInt ∨ ∀ record ∈ records, ∀ x, Record.resolve record p = .number x →
      x.toInt.natAbs ≠ n.toInt.natAbs := by
  constructor
  · intro hsame
    by_contra hnone
    rw [not_or] at hnone
    push Not at hnone
    obtain ⟨hneg, record, hrecord, x, hx, hmagnitude⟩ := hnone
    obtain ⟨i, hi⟩ := List.getElem?_of_mem hrecord
    have hvalue : ∀ y record', records[i]? = some record' →
        Record.resolve record' p = .number y → y = x := by
      intro y record' hrecord' hy
      rw [hi, Option.some.injEq] at hrecord'
      rw [← hrecord', hx] at hy
      exact (TypedValue.number.inj hy).symm
    -- a record with the magnitude of a negative integer is found in one way only
    by_cases hxn : x = n
    · obtain ⟨record', y, hrecord', hy, hpos⟩ := (hsame i).mpr ⟨record, hi, hxn ▸ hx⟩
      rw [hvalue y record' hrecord' hy, hxn] at hpos
      omega
    · have hne := mt Int64.toInt_inj.mp hxn
      obtain ⟨record', hrecord', hy⟩ := (hsame i).mp ⟨record, x, hi, hx, by omega⟩
      exact hxn (hvalue n record' hrecord' hy).symm
  · rintro (hnonneg | hnone) i
    · refine exists_congr fun record => ?_
      rw [exists_and_left]
      refine and_congr_right fun _ => ⟨?_, fun hx => ⟨n, hx, by omega⟩⟩
      rintro ⟨x, hx, hmagnitude⟩
      have heq : x = n := Int64.toInt_inj.mp (by omega)
      rw [hx, heq]
    · refine iff_of_false ?_ ?_
      · rintro ⟨record, x, hrecord, hx, hmagnitude⟩
        exact hnone record (List.mem_of_getElem? hrecord) x hx (by omega)
      · rintro ⟨record, hrecord, hx⟩
        exact hnone record (List.mem_of_getElem? hrecord) n hx rfl

/-- **Numbers.** Among records with a number or nothing at a path, the range from an integer to
itself matches those with the integer, and the integer alone those with its magnitude. So both match
the same records exactly if the integer is not negative, or no number has its magnitude. -/
theorem matched_integer (hp : p.IsPlain) (n : Int64) {records : List Record}
    (hn : records.length ≤ 2 ^ 32)
    (hvalues : ∀ record ∈ records, Record.resolve record p = .null ∨
      ∃ x, Record.resolve record p = .number x) :
    ∃ word range,
      Clause.parse (String.ofList (p.text.toList ++ ':' :: (toString n.toInt).toList)) = .ok word ∧
      Clause.parse (rangeText p true true (toString n.toInt).toList (toString n.toInt).toList) =
        .ok range ∧
      (∀ i, i ∈ matched range records ↔
        ∃ record, records[i]? = some record ∧ Record.resolve record p = .number n) ∧
      (∀ i, i ∈ matched word records ↔
        ∃ record x, records[i]? = some record ∧ Record.resolve record p = .number x ∧
          x.toInt = n.toInt.natAbs) ∧
      (matched word records = matched range records ↔ 0 ≤ n.toInt ∨
        ∀ record ∈ records, ∀ x, Record.resolve record p = .number x →
          x.toInt.natAbs ≠ n.toInt.natAbs) := by
  have hbound : IsIntegerBound (toString n.toInt).toList (some n) :=
    .integer (by rw [String.ofList_toList, Numeral.readInt64?_toString])
  obtain ⟨range, hrange, hpoints⟩ := exists_matched_rangeText true true hp hbound
    hbound (.inl (Option.some_ne_none n)) hn
  have hexact := mem_matched_point hpoints
  have hword := fun i => mem_matched_magnitude (i := i) (k := n.toInt.natAbs) hp hn hvalues
  refine ⟨_, range, parse_integer hp n.toInt, hrange, hexact, hword, ?_⟩
  rw [Set.ext_iff, ← forall_magnitude_iff]
  simp only [hexact, hword]

/-- The word of a positive number, beside its negative and a record without number. -/
theorem matched_integer_five :
    ∃ word range, Clause.parse "n:5" = .ok word ∧ Clause.parse "n:[5 TO 5]" = .ok range ∧
      matched word [.object [("n", .number (.negative (-5)))], .object [],
        .object [("n", .number (.natural 5))]] =
      matched range [.object [("n", .number (.negative (-5)))], .object [],
        .object [("n", .number (.natural 5))]] := by
  have hvalues : ∀ record ∈ [Json.Value.object [("n", .number (.negative (-5)))], .object [],
      .object [("n", .number (.natural 5))]], Record.resolve record ⟨"n"⟩ = .null ∨
        ∃ x, Record.resolve record ⟨"n"⟩ = .number x := by
    simp only [List.forall_mem_cons, List.not_mem_nil, false_implies, implies_true, and_true]
    have hkey : Path.segments ⟨"n"⟩ = ["n"] := by decide
    refine ⟨.inr ⟨-5, resolve_singleton hkey _⟩, .inl ?_, .inr ⟨5, resolve_singleton hkey _⟩⟩
    rw [Record.resolve, hkey]
    rfl
  obtain ⟨word, range, hword, hrange, -, -, hsame⟩ :=
    matched_integer (p := ⟨"n"⟩) (by decide) 5 (by decide) hvalues
  exact ⟨word, range, hword, hrange, hsame.mpr (.inl (by decide))⟩

/-- The word of a negative number finds its magnitude, which the range does not. -/
theorem matched_integer_negative :
    ∃ word range, Clause.parse "n:-5" = .ok word ∧ Clause.parse "n:[-5 TO -5]" = .ok range ∧
      0 ∉ matched word [.object [("n", .number (.negative (-5)))],
        .object [("n", .number (.natural 5))]] ∧
      1 ∈ matched word [.object [("n", .number (.negative (-5)))],
        .object [("n", .number (.natural 5))]] ∧
      0 ∈ matched range [.object [("n", .number (.negative (-5)))],
        .object [("n", .number (.natural 5))]] := by
  have hp : Path.IsPlain ⟨"n"⟩ := by decide
  have hkey : Path.segments ⟨"n"⟩ = ["n"] := by decide
  have hnegative : Record.resolve (.object [("n", .number (.negative (-5)))]) ⟨"n"⟩ =
      .number (-5) := resolve_singleton hkey _
  have hpositive : Record.resolve (.object [("n", .number (.natural 5))]) ⟨"n"⟩ =
      .number 5 := resolve_singleton hkey _
  have hbound : IsIntegerBound ['-', '5'] (some (-5)) := .integer (by decide)
  have hlength : [Json.Value.object [("n", .number (.negative (-5)))],
      .object [("n", .number (.natural 5))]].length ≤ 2 ^ 32 := by decide
  obtain ⟨range, hrange, hpoints⟩ := exists_matched_rangeText true true hp hbound hbound
    (.inl (Option.some_ne_none (-5))) hlength
  have htext : String.ofList ("n".toList ++ ':' :: (toString (-5 : Int)).toList) = "n:-5" :=
    rfl
  refine ⟨_, range, htext ▸ parse_integer hp (-5), hrange, fun h => ?_, ?_, ?_⟩
  · obtain ⟨record, hrecord, hstands⟩ := (mem_matched_term hp (by decide)).mp h
    cases hrecord
    rw [hnegative, exists_standsAt_toDigits (.inr ⟨-5, rfl⟩)] at hstands
    obtain ⟨x, hx, hmagnitude⟩ := hstands
    cases hx
    exact absurd hmagnitude (by decide)
  · refine (mem_matched_term hp (by decide)).mpr ⟨_, rfl, ?_⟩
    rw [hpositive, exists_standsAt_toDigits (.inr ⟨5, rfl⟩)]
    exact ⟨5, rfl, by decide⟩
  · refine (hpoints 0).mpr ⟨_, rfl, -5, hnegative, ?_, ?_⟩ <;>
    · rintro n ⟨⟩
      decide

end integers

end RegistrySearch
