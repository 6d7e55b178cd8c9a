import RegistrySearch.Proofs.Numeral.Truncation
import RegistrySearch.Proofs.Search.Keys
import RegistrySearch.Proofs.Search.Ranges

/-!
# Points of numbers

The point of a number is the number without its fraction, clamped to the integers of 64 bits
(`Json.Number.toInt_toPoint`), whichever of its representations it has: an unsigned word beyond the
signed ones and a double-precision number beyond them have the point of their common bound. So
points are in the order of the numbers, and a range finds a number exactly if its integer part lies
within the bounds.
-/

namespace RegistrySearch

open Numeral (clamp clamp_mono clamp_toInt towardZero towardZero_intCast towardZero_mono)
open Query (Clause Bound NumericRange)

namespace Json.Number

/-- The rational number that a number denotes: for a double, the one that its bits do. -/
def value : Number → ℚ
  | natural n => n.toNat
  | negative n => n.toInt
  | real x => x.value

/-- **Points.** The point of a number is its integer part, clamped to 64 bits. -/
theorem toInt_toPoint (n : Number) : n.toPoint.toInt = clamp (towardZero n.value) := by
  cases n with
  | natural n =>
    have hvalue : value (natural n) = ((n.toNat : Int) : ℚ) := (Int.cast_natCast n.toNat).symm
    rw [hvalue, towardZero_intCast]
    exact Numeral.toInt_clampInt64 _
  | negative n =>
    have hvalue : value (negative n) = (n.toInt : ℚ) := rfl
    rw [hvalue, towardZero_intCast, clamp_toInt]
    rfl
  | real x =>
    have hvalue : value (real x) = x.value := rfl
    rw [hvalue, ← x.truncate_eq]
    exact Numeral.toInt_clampInt64 _

/-- Points are in the order of the numbers, in whatever representations. -/
theorem toPoint_mono {m n : Number} (h : m.value ≤ n.value) : m.toPoint ≤ n.toPoint := by
  rw [Int64.le_iff_toInt_le, toInt_toPoint, toInt_toPoint]
  exact clamp_mono (towardZero_mono h)

/-- A number that is a signed word is its own point. -/
theorem toPoint_of_int64? {n : Number} {w : Int64} (h : n.int64? = some w) : n.toPoint = w := by
  rw [int64?, Option.bind_eq_some_iff] at h
  obtain ⟨k, hk, hw⟩ := h
  rw [Numeral.int64?_eq_some_iff] at hw
  have hvalue : n.value = (k : ℚ) := by
    cases n with
    | natural n =>
      cases hk
      exact (Int.cast_natCast n.toNat).symm
    | negative n =>
      cases hk
      rfl
    | real x => cases hk
  rw [← Int64.toInt_inj, toInt_toPoint, hvalue, towardZero_intCast, ← hw, clamp_toInt]

end Json.Number

/-! ### Numbers of records -/

/-- A number of a record by the name of a field: the one at the path of that name. By the name of
the identifier it is a signed word, as any other value is no identifier. -/
def Record.HasNumber (record : Record) (field : String) (n : Json.Number) : Prop :=
  Record.lookup? record (Path.segments ⟨field⟩) = some (.number n) ∧
    (field = Path.idName → n.int64?.isSome)

/-- The points of a record by the name of a field: those of its document for that field alone. -/
def Record.points (record : Record) (field : String) : List Int64 :=
  pointsOf ((project record (.ofList [⟨field⟩])).fieldsNamed field)

/-- A name by which the value at its path is found: without the exact marker, and not that of the
whole record. -/
def IsPlainName (field : String) : Prop :=
  Path.isExact ⟨field⟩ = false ∧ Path.isBody ⟨field⟩ = false

section points

variable {record : Record} {field : String} {n : Json.Number}

/-- The identifier of a record is its point by that name. -/
theorem Record.points_idName (record : Record) : record.points Path.idName = [Record.id record] :=
  rfl

/-- By a plain name a record with a number has the point of that number. -/
theorem Record.HasNumber.points_eq (h : record.HasNumber field n) (hfield : IsPlainName field) :
    record.points field = [n.toPoint] := by
  by_cases hid : field = Path.idName
  · obtain rfl := hid
    obtain ⟨w, hw⟩ := Option.isSome_iff_exists.mp (h.2 rfl)
    have hkey : Path.segments ⟨Path.idName⟩ = [Path.idName] := by decide
    have hget : record.get? Path.idName = some (.number n) := by
      have hlookup := h.1
      rw [hkey, Record.lookup?, Option.bind_eq_some_iff] at hlookup
      obtain ⟨value, hvalue, hnumber⟩ := hlookup
      cases hnumber
      exact hvalue
    have hint : Json.Value.int64? (.number n) = some w := hw
    rw [Record.points_idName, Record.id, hget, Option.bind_some, hint, Option.getD_some,
      Json.Number.toPoint_of_int64? hw]
  · have hresolve : Record.resolve record ⟨field⟩ = .number n.toPoint := by
      rw [Record.resolve, h.1]
      rfl
    rw [Record.points, Path.brings_of_unmarked hfield.2 hid (Path.unmarked_eq_text hfield.1) record,
      hresolve]
    rfl

/-- By any other name a record has no points. -/
theorem Record.points_eq_nil (hfield : ¬IsPlainName field) (record : Record) :
    record.points field = [] := by
  by_cases hbody : Path.isBody ⟨field⟩ = true
  · -- the whole record is a text
    have hpath : Path.mk field = Path.body := of_decide_eq_true hbody
    obtain rfl : field = Path.body.text := congrArg Path.text hpath
    have hpaths : (PathSet.ofList [Path.body]).paths = [Path.body] := rfl
    rw [Record.points, Record.fieldsNamed_project_eq,
      Record.fieldsNamed_project_empty (by decide), List.nil_append, hpaths, List.flatMap_singleton,
      Record.fieldsUnder_body_self]
    rfl
  · have hbody : Path.isBody ⟨field⟩ = false := Bool.eq_false_iff.mpr hbody
    have hexact : Path.isExact ⟨field⟩ = true :=
      Bool.not_eq_false _ |>.mp fun h => hfield ⟨h, hbody⟩
    have hid : field ≠ Path.idName := by
      rintro rfl
      exact absurd hexact (by decide)
    rw [Record.points, Record.fieldsNamed_project_ofList hbody hid,
      if_neg (Path.unmarked_ne_text hexact)]
    rfl

end points

/-! ### Ranges of points -/

namespace Query

variable {lower upper : Bound}

/-- The bounds of a range of points are open or integers, and not both are open. -/
theorem exists_bounds (h : NumericRange.ofBounds lower upper ≠ .notNumeric) :
    (lower ≠ .unbounded ∨ upper ≠ .unbounded) ∧
      ∃ lo hi, lower.least? = some lo ∧ upper.greatest? = some hi := by
  rw [NumericRange.ofBounds] at h
  split at h
  · exact absurd rfl h
  · next hopen =>
    rw [Bool.and_eq_true, decide_eq_true_eq, decide_eq_true_eq, not_and_or] at hopen
    split at h
    · next lo hi hlo hhi => exact ⟨hopen, lo, hi, hlo, hhi⟩
    · exact absurd rfl h

end Query

/-- The record at a place has a number by the name of a field. -/
def NumberAt (records : List Record) (field : String) (i : Nat) (n : Json.Number) : Prop :=
  ∃ record, records[i]? = some record ∧ record.HasNumber field n

section ranges

variable {records : List Record} {field : String} {lower upper lower' upper' : Bound} {i j k : Nat}
  {l m n : Json.Number}

/-- The number of a record with one key. -/
theorem numberAt_singleton (hkey : Path.segments ⟨field⟩ = [field]) (hid : field ≠ Path.idName)
    (h : records[i]? = some (.object [(field, .number n)])) : NumberAt records field i n := by
  refine ⟨_, h, ?_, fun he => absurd he hid⟩
  rw [hkey, Record.lookup?, Json.Value.get?, List.lookup_cons_self]
  rfl

/-- **Ranges of numbers.** A range of points finds a number, by a plain name, exactly if the number
lies within the bounds without its fraction and clamped to 64 bits. -/
theorem mem_matched_number (hn : records.length ≤ 2 ^ 32)
    (hrange : NumericRange.ofBounds lower upper ≠ .notNumeric) (hi : NumberAt records field i n) :
    i ∈ matched (.range field lower upper) records ↔ IsPlainName field ∧
      ∃ lo hi, lower.least? = some lo ∧ upper.greatest? = some hi ∧
        lo ≤ clamp (towardZero n.value) ∧ clamp (towardZero n.value) ≤ hi := by
  obtain ⟨record, hrecord, hnumber⟩ := hi
  obtain ⟨hopen, lo, hi, hlower, hupper⟩ := Query.exists_bounds hrange
  simp only [← Json.Number.toInt_toPoint, hlower, hupper, Option.some.injEq, exists_eq_left',
    exists_and_left]
  obtain ⟨a, b, hbetween, rfl, rfl⟩ | ⟨hempty, hnone⟩ :=
    Query.ofBounds_of_some hopen hlower hupper
  · have hpoints : i ∈ matched (.range field lower upper) records ↔
        ∃ x ∈ record.points field, a ≤ x ∧ x ≤ b := by
      rw [mem_matched_points hn hbetween]
      simp only [hrecord, Option.some.injEq, exists_eq_left']
      rfl
    rw [hpoints, ← Int64.le_iff_toInt_le, ← Int64.le_iff_toInt_le]
    by_cases hfield : IsPlainName field
    · rw [hnumber.points_eq hfield, and_iff_right hfield]
      simp only [List.mem_singleton, exists_eq_left]
    · rw [record.points_eq_nil hfield]
      refine iff_of_false ?_ fun h => hfield h.1
      rintro ⟨x, hx, -⟩
      cases hx
  · exact iff_of_false (notMem_matched_points hempty) fun h => hnone _ h.2

/-- What lies between two numbers that a range of points finds is found too. -/
theorem mem_matched_of_between (hn : records.length ≤ 2 ^ 32)
    (hrange : NumericRange.ofBounds lower upper ≠ .notNumeric) (hi : NumberAt records field i l)
    (hj : NumberAt records field j m) (hk : NumberAt records field k n) (hlm : l.value ≤ m.value)
    (hmn : m.value ≤ n.value) (hli : i ∈ matched (.range field lower upper) records)
    (hnk : k ∈ matched (.range field lower upper) records) :
    j ∈ matched (.range field lower upper) records := by
  rw [mem_matched_number hn hrange hi] at hli
  rw [mem_matched_number hn hrange hk] at hnk
  obtain ⟨hfield, lo, -, hlower, -, hlo, -⟩ := hli
  obtain ⟨-, -, hi, -, hupper, -, hhi⟩ := hnk
  exact (mem_matched_number hn hrange hj).mpr ⟨hfield, lo, hi, hlower, hupper,
    hlo.trans (clamp_mono (towardZero_mono hlm)), (clamp_mono (towardZero_mono hmn)).trans hhi⟩

/-- A range that finds a number begins below the end of any that finds a greater number. -/
theorem exists_le_of_mem_matched (hn : records.length ≤ 2 ^ 32)
    (hrange : NumericRange.ofBounds lower upper ≠ .notNumeric)
    (hrange' : NumericRange.ofBounds lower' upper' ≠ .notNumeric)
    (hi : NumberAt records field i m) (hj : NumberAt records field j n) (hmn : m.value ≤ n.value)
    (hmi : i ∈ matched (.range field lower upper) records)
    (hnj : j ∈ matched (.range field lower' upper') records) :
    ∃ lo hi, lower.least? = some lo ∧ upper'.greatest? = some hi ∧ lo ≤ hi := by
  obtain ⟨-, lo, -, hlower, -, hlo, -⟩ := (mem_matched_number hn hrange hi).mp hmi
  obtain ⟨-, -, hi, -, hupper, -, hhi⟩ := (mem_matched_number hn hrange' hj).mp hnj
  exact ⟨lo, hi, hlower, hupper, hlo.trans ((clamp_mono (towardZero_mono hmn)).trans hhi)⟩

end ranges

/-- **Points in order.** Every number is classified by its integer part, clamped to 64 bits; so
points are in the order of the numbers, whatever their representations, and so is what ranges of
points find: a number is found exactly if its integer part lies within the bounds, what lies between
two numbers that a range finds is found, and no range that finds a number lies above one that finds
a greater number. -/
theorem points_in_order :
    (∀ n : Json.Number, TypedValue.ofJson (.number n) = .number n.toPoint ∧
      n.toPoint.toInt = clamp (towardZero n.value)) ∧
    (∀ m n : Json.Number, m.value ≤ n.value → m.toPoint ≤ n.toPoint) ∧
    ∀ (field : String) {records : List Record} {lower upper : Bound}, records.length ≤ 2 ^ 32 →
      NumericRange.ofBounds lower upper ≠ .notNumeric →
      (∀ {i n}, NumberAt records field i n →
        (i ∈ matched (.range field lower upper) records ↔ IsPlainName field ∧
          ∃ lo hi, lower.least? = some lo ∧ upper.greatest? = some hi ∧
            lo ≤ clamp (towardZero n.value) ∧ clamp (towardZero n.value) ≤ hi)) ∧
      (∀ {i j k l m n}, NumberAt records field i l → NumberAt records field j m →
        NumberAt records field k n → l.value ≤ m.value → m.value ≤ n.value →
        i ∈ matched (.range field lower upper) records →
        k ∈ matched (.range field lower upper) records →
        j ∈ matched (.range field lower upper) records) ∧
      ∀ {lower' upper' i j m n}, NumericRange.ofBounds lower' upper' ≠ .notNumeric →
        NumberAt records field i m → NumberAt records field j n → m.value ≤ n.value →
        i ∈ matched (.range field lower upper) records →
        j ∈ matched (.range field lower' upper') records →
        ∃ lo hi, lower.least? = some lo ∧ upper'.greatest? = some hi ∧ lo ≤ hi := by
  refine ⟨fun n => ⟨rfl, n.toInt_toPoint⟩, fun m n => Json.Number.toPoint_mono,
    fun field _ _ _ hn hrange => ⟨?_, ?_, ?_⟩⟩
  · intro i n hi
    exact mem_matched_number hn hrange hi
  · intro i j k l m n hi hj hk hlm hmn
    exact mem_matched_of_between hn hrange hi hj hk hlm hmn
  · intro lower' upper' i j m n hrange' hi hj hmn
    exact exists_le_of_mem_matched hn hrange hrange' hi hj hmn

/-- Records with a negative fraction, a small number and an unsigned word beyond the signed ones. -/
def mixedNumbers : List Record :=
  [.object [("n", .number (.real ⟨0xBFE0000000000000⟩))], .object [("n", .number (.natural 7))],
    .object [("n", .number (.natural 0xFFFFFFFFFFFFFFFF))]]

/-- A range from zero on finds the first and the last of them, so it finds the one between. -/
theorem points_in_order_mixed :
    (Json.Number.real ⟨0xBFE0000000000000⟩).toPoint ≤ (Json.Number.natural 7).toPoint ∧
      0 ∈ matched (.range "n" (.inclusive "0") .unbounded) mixedNumbers ∧
      1 ∈ matched (.range "n" (.inclusive "0") .unbounded) mixedNumbers ∧
      2 ∈ matched (.range "n" (.inclusive "0") .unbounded) mixedNumbers := by
  have hkey : Path.segments ⟨"n"⟩ = ["n"] := by decide
  have hfirst : NumberAt mixedNumbers "n" 0 (.real ⟨0xBFE0000000000000⟩) :=
    numberAt_singleton hkey (by decide) rfl
  have hmiddle : NumberAt mixedNumbers "n" 1 (.natural 7) :=
    numberAt_singleton hkey (by decide) rfl
  have hlast : NumberAt mixedNumbers "n" 2 (.natural 0xFFFFFFFFFFFFFFFF) :=
    numberAt_singleton hkey (by decide) rfl
  have hbelow : (Json.Number.real ⟨0xBFE0000000000000⟩).value ≤ (Json.Number.natural 7).value := by
    have hneg : (Json.Number.real ⟨0xBFE0000000000000⟩).value ≤ 0 :=
      neg_nonpos_of_nonneg (Numeral.Binary64.size_nonneg _)
    exact hneg.trans (Nat.cast_nonneg _)
  have habove : (Json.Number.natural 7).value ≤ (Json.Number.natural 0xFFFFFFFFFFFFFFFF).value :=
    Nat.cast_le.mpr (by decide)
  have hzero : towardZero (Json.Number.real ⟨0xBFE0000000000000⟩).value = 0 :=
    (Numeral.Binary64.truncate_eq _).symm.trans (by decide)
  have hword : towardZero (Json.Number.natural 0xFFFFFFFFFFFFFFFF).value = 2 ^ 64 - 1 :=
    towardZero_intCast (2 ^ 64 - 1)
  have hbound : (Bound.inclusive "0").least? = some 0 := by decide
  have hlength : mixedNumbers.length ≤ 2 ^ 32 := by decide
  have hrange : NumericRange.ofBounds (.inclusive "0") .unbounded ≠ .notNumeric := by decide
  obtain ⟨hiff, hbetween, -⟩ := points_in_order.2.2 "n" hlength hrange
  have hzeroth := (hiff hfirst).mpr
    ⟨⟨by decide, by decide⟩, 0, 2 ^ 63 - 1, hbound, rfl, by rw [hzero]; decide⟩
  have hsecond := (hiff hlast).mpr
    ⟨⟨by decide, by decide⟩, 0, 2 ^ 63 - 1, hbound, rfl, by rw [hword]; decide⟩
  exact ⟨points_in_order.2.1 _ _ hbelow, hzeroth,
    hbetween hfirst hmiddle hlast hbelow habove hzeroth hsecond, hsecond⟩

end RegistrySearch
