import RegistrySearch.Proofs.Query.Delimited
import RegistrySearch.Proofs.Search.Values
import RegistrySearch.Proofs.Text.Numerals
import RegistrySearch.Query.Tree

/-!
# Ranges of numbers

A range between integers is exact: each bound holds or excludes its own value, and what lies beyond
the integers of 64 bits leaves the range empty instead of turning it into one of terms. A range is
shown as numeric exactly if it is one.

What the bounds say of an integer is stated without the points that they are read as, in
`AdmitsAbove` and `AdmitsBelow`.
-/

namespace RegistrySearch

open Numeral (int64? readInt64? isNumeralChar)
open Query (Clause Bound NumericRange ReadsBound ReadsPrimary paint)

/-! ### Points -/

namespace Numeral

/-- An integer has a word exactly if it is the value of one. -/
theorem int64?_eq_some_iff {n : Int} {w : Int64} : int64? n = some w ↔ w.toInt = n := by
  rw [int64?]
  constructor
  · intro h
    split at h
    · cases h
      exact Int64.toInt_ofInt_of_le (by omega) (by omega)
    · cases h
  · rintro rfl
    rw [if_pos ⟨Int64.le_toInt w, Int64.toInt_lt w⟩, Int64.ofInt_toInt]

theorem int64?_eq_none_iff {n : Int} : int64? n = none ↔ n < -2 ^ 63 ∨ 2 ^ 63 ≤ n := by
  rw [int64?]
  split <;> simp <;> omega

end Numeral

namespace Query

variable {lower upper : Bound}

/-- The integers that a lower bound admits are none below those of 64 bits. -/
theorem Bound.le_of_least? {b : Bound} {lo : Int} (h : b.least? = some lo) : -2 ^ 63 ≤ lo := by
  cases b with
  | unbounded =>
    cases h
    exact Int.le_refl _
  | inclusive v =>
    obtain ⟨w, -, rfl⟩ := Option.map_eq_some_iff.mp h
    exact Int64.le_toInt w
  | exclusive v =>
    obtain ⟨w, -, rfl⟩ := Option.map_eq_some_iff.mp h
    have hw := Int64.le_toInt w
    omega

/-- The integers that an upper bound admits are none above those of 64 bits. -/
theorem Bound.lt_of_greatest? {b : Bound} {hi : Int} (h : b.greatest? = some hi) : hi < 2 ^ 63 := by
  cases b with
  | unbounded =>
    cases h
    decide
  | inclusive v =>
    obtain ⟨w, -, rfl⟩ := Option.map_eq_some_iff.mp h
    exact Int64.toInt_lt w
  | exclusive v =>
    obtain ⟨w, -, rfl⟩ := Option.map_eq_some_iff.mp h
    have hw := Int64.toInt_lt w
    omega

/-- **Points.** A range whose bounds are integers is one of points, or no integer of 64 bits lies in
it. -/
theorem ofBounds_of_some {lo hi : Int} (hopen : lower ≠ .unbounded ∨ upper ≠ .unbounded)
    (hlower : lower.least? = some lo) (hupper : upper.greatest? = some hi) :
    (∃ a b, NumericRange.ofBounds lower upper = .between a b ∧ a.toInt = lo ∧ b.toInt = hi) ∨
      NumericRange.ofBounds lower upper = .empty ∧
        ∀ x : Int64, ¬(lo ≤ x.toInt ∧ x.toInt ≤ hi) := by
  have hbounds : ¬(decide (lower = .unbounded) && decide (upper = .unbounded)) = true := by
    rw [Bool.and_eq_true, decide_eq_true_eq, decide_eq_true_eq]
    exact fun h => hopen.elim (· h.1) (· h.2)
  have hlo := Bound.le_of_least? hlower
  have hhi := Bound.lt_of_greatest? hupper
  rw [NumericRange.ofBounds, if_neg hbounds, hlower, hupper]
  dsimp only
  cases ha : int64? lo with
  | none =>
    -- an exclusive lower bound at the greatest integer
    rw [Numeral.int64?_eq_none_iff] at ha
    refine .inr ⟨rfl, fun x hx => ?_⟩
    have hlt := Int64.toInt_lt x
    omega
  | some a =>
    cases hb : int64? hi with
    | none =>
      -- an exclusive upper bound at the least integer
      rw [Numeral.int64?_eq_none_iff] at hb
      refine .inr ⟨rfl, fun x hx => ?_⟩
      have hle := Int64.le_toInt x
      omega
    | some b =>
      rw [Numeral.int64?_eq_some_iff] at ha hb
      dsimp only
      split
      · exact .inl ⟨a, b, rfl, ha, hb⟩
      · next hab =>
        rw [Int64.le_iff_toInt_le, ha, hb] at hab
        exact .inr ⟨rfl, fun x hx => hab (Int.le_trans hx.1 hx.2)⟩

/-- A bound is numeric if a range can begin with it, and if one can end with it. -/
theorem isNumeric_eq (b : Bound) :
    b.isNumeric = b.least?.isSome ∧ b.isNumeric = b.greatest?.isSome := by
  cases b with
  | unbounded => exact ⟨rfl, rfl⟩
  | inclusive v | exclusive v => exact ⟨Option.isSome_map.symm, Option.isSome_map.symm⟩

/-- A range is shown as numeric exactly if it is not one of terms. -/
theorem isNumericRange_iff (lower upper : Bound) :
    isNumericRange lower upper ↔ NumericRange.ofBounds lower upper ≠ .notNumeric := by
  rw [isNumericRange, (isNumeric_eq lower).1, (isNumeric_eq upper).2, NumericRange.ofBounds]
  by_cases hopen : (decide (lower = .unbounded) && decide (upper = .unbounded)) = true
  · rw [if_pos hopen, hopen]
    simp
  · rw [if_neg hopen, Bool.not_eq_true _ |>.mp hopen]
    cases lower.least? with
    | none => simp
    | some lo =>
      cases upper.greatest? with
      | none => simp
      | some hi =>
        refine iff_of_true rfl ?_
        dsimp only
        split
        · split <;> exact NumericRange.noConfusion
        · exact NumericRange.noConfusion

/-- **Labels.** A range is shown as numeric exactly if it is one of points. -/
theorem Clause.label_range (field : String) (lower upper : Bound) (color : Bool) :
    (Clause.range field lower upper).label color =
      paint color .dim (if NumericRange.ofBounds lower upper = .notNumeric then "range"
        else "range (numeric)").toList ++ ' ' :: (Clause.range field lower upper).renderChars := by
  have hkind : (Clause.range field lower upper).kindName =
      if NumericRange.ofBounds lower upper = .notNumeric then "range" else "range (numeric)" := by
    rw [kindName]
    by_cases h : NumericRange.ofBounds lower upper = .notNumeric
    · rw [if_pos h, if_neg (mt (isNumericRange_iff lower upper).mp (not_not_intro h))]
    · rw [if_neg h, if_pos ((isNumericRange_iff lower upper).mpr h)]
  rw [← hkind]
  rfl

end Query

/-! ### Bounds -/

/-- The text of a bound of a range of integers: open, or an integer in decimal. -/
inductive IsIntegerBound : List Char → Option Int64 → Prop
  | unbounded : IsIntegerBound ['*'] none
  | integer {s : List Char} {n : Int64} (h : readInt64? (String.ofList s) = some n) :
    IsIntegerBound s (some n)

/-- A lower bound, inclusive or not, admits an integer. -/
def AdmitsAbove (isInclusive : Bool) (bound? : Option Int64) (x : Int64) : Prop :=
  ∀ n ∈ bound?, if isInclusive then n.toInt ≤ x.toInt else n.toInt < x.toInt

/-- An upper bound, inclusive or not, admits an integer. -/
def AdmitsBelow (isInclusive : Bool) (bound? : Option Int64) (x : Int64) : Prop :=
  ∀ n ∈ bound?, if isInclusive then x.toInt ≤ n.toInt else x.toInt < n.toInt

namespace IsIntegerBound

variable {s : List Char} {bound? : Option Int64} {isInclusive : Bool}

/-- The text of an integer is read as it is, though it may have a sign or leading zeros. -/
theorem readsBound (h : IsIntegerBound s bound?) :
    ReadsBound s (bound?.map fun _ => String.ofList s) := by
  cases h with
  | unbounded =>
    refine Query.readsBound_of_forall (List.cons_ne_nil _ _) (fun c hc => ?_) (by decide)
    rw [List.mem_singleton.mp hc]
    rfl
  | @integer _ n h =>
    obtain ⟨⟨d, hd, hdigit⟩, hall⟩ := Numeral.isNumeralChar_of_readInt64? h
    rw [String.toList_ofList] at hd hall
    have hends : ∀ c ∈ s, Query.endsBound c = false := by
      intro c hc
      have hbounds := Numeral.toNat_of_isNumeralChar (hall c hc)
      have hclosing : ∀ b : Char, 57 < b.toNat → c ≠ b := by
        rintro b hb rfl
        omega
      simp only [Query.endsBound, Text.not_isBlank_of_isNumeralChar (hall c hc),
        hclosing ']' (by decide), hclosing '}' (by decide), decide_false, Bool.or_self]
    have hquote : s.head? ≠ some '"' := fun he => by
      have hbounds := Numeral.toNat_of_isNumeralChar (hall _ (List.mem_of_mem_head? he))
      exact absurd hbounds (by decide)
    have hstar : s ≠ ['*'] := by
      rintro rfl
      rw [List.mem_singleton.mp hd] at hdigit
      exact absurd hdigit (by decide)
    have hread := Query.readsBound_of_forall (List.ne_nil_of_mem hd) hends hquote
    rwa [if_neg hstar, Text.normalize_numeral (by rwa [String.toList_ofList])] at hread

/-- A lower bound admits the integers from some integer on. -/
theorem exists_least? (h : IsIntegerBound s bound?) (isInclusive : Bool) : ∃ lo : Int,
    (Bound.ofValue? isInclusive (bound?.map fun _ => String.ofList s)).least? = some lo ∧
      ∀ x : Int64, lo ≤ x.toInt ↔ AdmitsAbove isInclusive bound? x := by
  cases h with
  | unbounded =>
    refine ⟨-2 ^ 63, rfl, fun x => iff_of_true (Int64.le_toInt x) ?_⟩
    rintro n ⟨⟩
  | @integer _ n h =>
    cases isInclusive with
    | true =>
      refine ⟨n.toInt, ?_, fun x => ?_⟩
      · simp only [Option.map_some, Bound.ofValue?, if_true, Bound.least?, h]
      · simp only [AdmitsAbove, Option.mem_def, Option.some.injEq, forall_eq', if_true]
    | false =>
      refine ⟨n.toInt + 1, ?_, fun x => ?_⟩
      · simp only [Option.map_some, Bound.ofValue?, Bool.false_eq_true, if_false, Bound.least?, h]
      · simp only [AdmitsAbove, Option.mem_def, Option.some.injEq, forall_eq', Bool.false_eq_true,
          if_false, Int.add_one_le_iff]

/-- An upper bound admits the integers up to some integer. -/
theorem exists_greatest? (h : IsIntegerBound s bound?) (isInclusive : Bool) : ∃ hi : Int,
    (Bound.ofValue? isInclusive (bound?.map fun _ => String.ofList s)).greatest? = some hi ∧
      ∀ x : Int64, x.toInt ≤ hi ↔ AdmitsBelow isInclusive bound? x := by
  cases h with
  | unbounded =>
    refine ⟨2 ^ 63 - 1, rfl, fun x => iff_of_true ?_ ?_⟩
    · have hx := Int64.toInt_lt x
      omega
    · rintro n ⟨⟩
  | @integer _ n h =>
    cases isInclusive with
    | true =>
      refine ⟨n.toInt, ?_, fun x => ?_⟩
      · simp only [Option.map_some, Bound.ofValue?, if_true, Bound.greatest?, h]
      · simp only [AdmitsBelow, Option.mem_def, Option.some.injEq, forall_eq', if_true]
    | false =>
      refine ⟨n.toInt - 1, ?_, fun x => ?_⟩
      · simp only [Option.map_some, Bound.ofValue?, Bool.false_eq_true, if_false,
          Bound.greatest?, h]
      · simp only [AdmitsBelow, Option.mem_def, Option.some.injEq, forall_eq', Bool.false_eq_true,
          if_false, Int.le_sub_one_iff]

/-- A bound that is not open has an integer. -/
theorem ofValue?_ne_unbounded (isInclusive : Bool) (hne : bound? ≠ none) :
    Bound.ofValue? isInclusive (bound?.map fun _ => String.ofList s) ≠ .unbounded := by
  cases bound? with
  | none => exact absurd rfl hne
  | some n => cases isInclusive <;> exact Bound.noConfusion

end IsIntegerBound

/-! ### Matches -/

section ranges

variable {p : Path} {l u : List Char} {opens closes : Bool}

/-- The text of a range over a field. -/
def rangeText (p : Path) (opens closes : Bool) (l u : List Char) : String :=
  String.ofList (p.text.toList ++ ':' :: (if opens then '[' else '{') ::
    (l ++ ' ' :: 'T' :: 'O' :: ' ' :: (u ++ [if closes then ']' else '}'])))

/-- A range is parsed with its bounds. -/
theorem parse_rangeText (hp : p.IsPlain) {lower? upper? : Option String}
    (hl : ReadsBound l lower?) (hu : ReadsBound u upper?) :
    Clause.parse (rangeText p opens closes l u) =
      .ok (.range p.text (.ofValue? opens lower?) (.ofValue? closes upper?)) := by
  refine ReadsPrimary.parse_eq ?_
  rw [rangeText, String.toList_ofList]
  refine Query.readsPrimary_of_value (hp.isName) fun rest _ => ?_
  have htext : l ++ ' ' :: 'T' :: 'O' :: ' ' :: (u ++ [if closes then ']' else '}']) ++ rest =
      l ++ ' ' :: 'T' :: 'O' :: ' ' :: (u ++ (if closes then ']' else '}') :: rest) := by
    simp only [List.append_assoc, List.cons_append, List.nil_append]
  rw [List.cons_append, htext]
  exact Query.readValue_range fun s => Query.readRange_bounds hl hu opens closes p.text s rest

/-- A range of integers matches the records with a number within its bounds. -/
theorem mem_matched_integers (hp : p.IsPlain) {lower upper : Bound} {lo hi : Int}
    (hopen : lower ≠ .unbounded ∨ upper ≠ .unbounded) (hlower : lower.least? = some lo)
    (hupper : upper.greatest? = some hi) {records : List Record} (hn : records.length ≤ 2 ^ 32)
    {i : Nat} :
    i ∈ matched (.range p.text lower upper) records ↔ ∃ record, records[i]? = some record ∧
      ∃ x, Record.resolve record p = .number x ∧ lo ≤ x.toInt ∧ x.toInt ≤ hi := by
  obtain ⟨a, b, hrange, rfl, rfl⟩ | ⟨hrange, hempty⟩ :=
    Query.ofBounds_of_some hopen hlower hupper
  · simp only [mem_matched_range hp hn hrange, Int64.le_iff_toInt_le]
  · refine iff_of_false (notMem_matched_points hrange) ?_
    rintro ⟨-, -, x, -, hx⟩
    exact hempty x hx

/-- The text of a range of integers matches the records with a number within its bounds. -/
theorem exists_matched_rangeText (opens closes : Bool) (hp : p.IsPlain)
    {lower? upper? : Option Int64} (hl : IsIntegerBound l lower?) (hu : IsIntegerBound u upper?)
    (hopen : lower? ≠ none ∨ upper? ≠ none) {records : List Record}
    (hn : records.length ≤ 2 ^ 32) :
    ∃ c, Clause.parse (rangeText p opens closes l u) = .ok c ∧
      ∀ i, i ∈ matched c records ↔ ∃ record, records[i]? = some record ∧
        ∃ x, Record.resolve record p = .number x ∧ AdmitsAbove opens lower? x ∧
          AdmitsBelow closes upper? x := by
  obtain ⟨lo, hlower, habove⟩ := hl.exists_least? opens
  obtain ⟨hi, hupper, hbelow⟩ := hu.exists_greatest? closes
  refine ⟨_, parse_rangeText hp hl.readsBound hu.readsBound, fun i => ?_⟩
  have hbounds := hopen.imp (IsIntegerBound.ofValue?_ne_unbounded (s := l) opens)
    (IsIntegerBound.ofValue?_ne_unbounded (s := u) closes)
  simp only [mem_matched_integers hp hbounds hlower hupper hn, habove, hbelow]

/-- **Ranges.** The text of a range between integers, in any spelling, matches exactly the records
whose value at the path is a number within its bounds; and a range of any bounds is shown as numeric
exactly if it is not evaluated as one of terms. -/
theorem range_exact :
    (∀ {p : Path} {l u : List Char} {lower? upper? : Option Int64} (opens closes : Bool)
        {records : List Record}, p.IsPlain → IsIntegerBound l lower? → IsIntegerBound u upper? →
        (lower? ≠ none ∨ upper? ≠ none) → records.length ≤ 2 ^ 32 →
        ∃ c, Clause.parse (rangeText p opens closes l u) = .ok c ∧
          ∀ i, i ∈ matched c records ↔ ∃ record, records[i]? = some record ∧
            ∃ x, Record.resolve record p = .number x ∧ AdmitsAbove opens lower? x ∧
              AdmitsBelow closes upper? x) ∧
      ∀ (field : String) (lower upper : Bound) (color : Bool),
        (Clause.range field lower upper).label color =
          paint color .dim (if NumericRange.ofBounds lower upper = .notNumeric then "range"
            else "range (numeric)").toList ++ ' ' :: (Clause.range field lower upper).renderChars :=
  ⟨fun opens closes _ hp hl hu hopen hn =>
      exists_matched_rangeText opens closes hp hl hu hopen hn,
    Clause.label_range⟩

/-- A range that excludes its upper bound, which has a sign and leading zeros. -/
theorem range_exact_signed :
    ∃ c, Clause.parse "n:[-5 TO +007\x7d" = .ok c ∧
      0 ∈ matched c [.object [("n", .number (.negative (-5)))],
        .object [("n", .number (.natural 7))]] ∧
      1 ∉ matched c [.object [("n", .number (.negative (-5)))],
        .object [("n", .number (.natural 7))]] := by
  have hlower : IsIntegerBound ['-', '5'] (some (-5)) := .integer (by decide)
  have hupper : IsIntegerBound ['+', '0', '0', '7'] (some 7) := .integer (by decide)
  have hlength : [Json.Value.object [("n", .number (.negative (-5)))],
      .object [("n", .number (.natural 7))]].length ≤ 2 ^ 32 := by decide
  obtain ⟨c, hparse, hmatched⟩ := range_exact.1 (p := ⟨"n"⟩) true false (by decide) hlower hupper
    (by decide) hlength
  have hkey : Path.segments ⟨"n"⟩ = ["n"] := by decide
  have hfirst : Record.resolve (.object [("n", .number (.negative (-5)))]) ⟨"n"⟩ =
      .number (-5) := resolve_singleton hkey _
  have hsecond : Record.resolve (.object [("n", .number (.natural 7))]) ⟨"n"⟩ =
      .number 7 := resolve_singleton hkey _
  refine ⟨c, hparse, (hmatched 0).mpr ⟨_, rfl, -5, hfirst, ?_, ?_⟩, fun h => ?_⟩
  · rintro n hn
    cases hn
    decide
  · rintro n hn
    cases hn
    decide
  · obtain ⟨record, hrecord, x, hx, -, hbelow⟩ := (hmatched 1).mp h
    cases hrecord
    rw [hsecond] at hx
    cases hx
    exact absurd (hbelow 7 rfl) (by decide)

end ranges

end RegistrySearch
