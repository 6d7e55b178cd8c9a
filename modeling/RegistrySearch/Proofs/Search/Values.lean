import RegistrySearch.Proofs.Query.Grammar
import RegistrySearch.Proofs.Search.Composition

/-!
# Clauses over one path

A leaf over a path that brings its field sees of a record nothing but the value at the path. So what
it matches is said record by record, in terms of that value: `Path.Brings.mem_matched_leaf` leads
the records that a leaf finds back to a column of single values.
-/

namespace RegistrySearch

open Query (Clause Bound NumericRange)
open Text (analyze)

/-- A path of letters is a name that needs no escapes. -/
theorem Path.IsPlain.isName {p : Path} (h : p.IsPlain) : Query.IsName p.text where
  toList_ne_nil := h.toList_ne_nil
  isNameChar c hc := by
    obtain halpha | rfl := h.isLetter c hc
    · have halnum : c.isAlphanum = true := by simp only [Char.isAlphanum, halpha, Bool.true_or]
      simp only [Query.isNameChar, halnum, Bool.true_or]
    · rfl

/-- The value at a path of one key, in a record with that key alone. -/
theorem resolve_singleton {p : Path} {key : String} (h : p.segments = [key])
    (value : Json.Value) :
    Record.resolve (.object [(key, value)]) p = TypedValue.ofJson value := by
  have hget : (Json.Value.object [(key, value)]).get? key = some value := by
    rw [Json.Value.get?, List.lookup_cons_self]
  rw [Record.resolve, h, Record.lookup?, hget]
  rfl

/-! ### Fields of values -/

section values

variable {p : Path} {term : String}

/-- The terms of one text. -/
theorem textTerms_text (name v : String) : textTerms [.text name v] = analyze v := by
  rw [textTerms_cons, if_pos (show (Field.text name v).kind = .text from rfl)]
  exact (List.append_nil _).trans (Text.map_term_tokenize v)

/-- A number stands for itself, written in decimal. -/
theorem exists_standsAt_number {n : Int64} :
    (∃ j, StandsAt (Field.ofValue p (.number n)) term j) ↔ term = toString n.toInt := by
  have hfields : Field.ofValue p (.number n) =
      [.numeric p.unmarked n, .exact p.unmarked (toString n.toInt)] := rfl
  rw [exists_standsAt_iff, hfields]
  simp [Field.numeric, Field.exact, eq_comm]

/-- A string has its terms, where it is not wanted whole. -/
theorem exists_standsAt_of_isExact_eq (hp : p.isExact = false) {v : String} :
    (∃ j, StandsAt (Field.ofValue p (.string v)) term j) ↔ term ∈ analyze v := by
  have hfields : Field.ofValue p (.string v) = [.text p.unmarked v] := by
    rw [Field.ofValue, hp]
    rfl
  rw [exists_standsAt_iff, hfields]
  simp [Field.text]

/-- A string that is wanted whole is its only term. -/
theorem exists_standsAt_of_isExact (hp : p.isExact = true) {v : String} :
    (∃ j, StandsAt (Field.ofValue p (.string v)) term j) ↔ term = v := by
  have hfields : Field.ofValue p (.string v) = [.exact p.unmarked v] := by
    rw [Field.ofValue, hp]
    rfl
  rw [exists_standsAt_iff, hfields]
  simp [Field.exact, eq_comm]

/-- A string has its terms. -/
theorem exists_standsAt_string (hp : p.IsPlain) {v : String} :
    (∃ j, StandsAt (Field.ofValue p (.string v)) term j) ↔ term ∈ analyze v :=
  exists_standsAt_of_isExact_eq hp.isExact_eq

/-- The points of a value are those of a number. -/
theorem mem_pointsOf_ofValue {value : TypedValue} {point : Int64} :
    point ∈ pointsOf (Field.ofValue p value) ↔ value = .number point := by
  cases value with
  | number n =>
    have hpoints : pointsOf (Field.ofValue p (.number n)) = [n] := rfl
    rw [hpoints, List.mem_singleton, TypedValue.number.injEq, eq_comm]
  | string s =>
    have hpoints : pointsOf (Field.ofValue p (.string s)) = [] := by
      rw [Field.ofValue]
      split <;> rfl
    rw [hpoints]
    exact iff_of_false List.not_mem_nil TypedValue.noConfusion
  | boolean | array | object | null => exact iff_of_false List.not_mem_nil TypedValue.noConfusion

end values

/-! ### Leaves -/

section leaves

variable {p : Path} {records : List Record} {i : Nat}

/-- The fields of the values at a path, record by record. -/
def Path.column (p : Path) (records : List Record) : List (List Field) :=
  records.map fun record => Field.ofValue p (Record.resolve record p)

theorem Path.isOrdered_column (p : Path) (hn : records.length ≤ 2 ^ 32) :
    (FieldIndex.ofColumn (p.column records)).IsOrdered :=
  FieldIndex.isOrdered_ofColumn (by rwa [Path.column, List.length_map])

/-- Of records whose places are words, each is known by its ordinal in a list of their fields. -/
theorem exists_mem_map_iff (hn : records.length ≤ 2 ^ 32) {g : Record → List Field}
    {P : List Field → Prop} :
    (i < 2 ^ 32 ∧ ∃ (k : Nat) (fields : List Field), (records.map g)[k]? = some fields ∧
      P fields ∧ k.toUInt32 = i.toUInt32) ↔
      ∃ record, records[i]? = some record ∧ P (g record) := by
  constructor
  · rintro ⟨hi, k, fields, hk, hP, hki⟩
    rw [List.getElem?_map, Option.map_eq_some_iff] at hk
    obtain ⟨record, hrecord, rfl⟩ := hk
    have hlt : k < 2 ^ 32 := Nat.lt_of_lt_of_le (List.getElem?_eq_some_iff.mp hrecord).1 hn
    obtain rfl := (toUInt32_inj hlt hi).mp hki
    exact ⟨record, hrecord, hP⟩
  · rintro ⟨record, hrecord, hP⟩
    have hlt : i < 2 ^ 32 := Nat.lt_of_lt_of_le (List.getElem?_eq_some_iff.mp hrecord).1 hn
    exact ⟨hlt, i, _, by rw [List.getElem?_map, hrecord, Option.map_some], hP, rfl⟩

theorem exists_mem_column_iff (hn : records.length ≤ 2 ^ 32) {P : List Field → Prop} :
    (i < 2 ^ 32 ∧ ∃ (k : Nat) (fields : List Field), (p.column records)[k]? = some fields ∧
      P fields ∧ k.toUInt32 = i.toUInt32) ↔
      ∃ record, records[i]? = some record ∧ P (Field.ofValue p (Record.resolve record p)) :=
  exists_mem_map_iff hn

/-- A leaf finds what it finds in the column of its field. -/
theorem mem_matched_ofColumn {leaf : Clause} {field : String} (hfield : leaf.field? = some field)
    (hcompile : leaf.compiles) :
    i ∈ matched leaf records ↔ i < 2 ^ 32 ∧
      i.toUInt32 ∈ ((Index.ofDocuments (records.map fun r =>
        Record.project r leaf.paths)).leafScores leaf (.ofColumn (records.map fun r =>
          (Record.project r leaf.paths).fieldsNamed field))).keys := by
  rw [matched, mem_matchedOn ((Clause.patternsCompile_leaf hfield).mpr hcompile),
    Index.finds_leaf_ofDocuments hfield hcompile, List.map_map]
  rfl

/-- A leaf over a field that a path brings finds what it finds in the column of the path. -/
theorem Path.Brings.mem_matched_leaf {field : String} (hbrings : p.Brings field) {leaf : Clause}
    (hfield : leaf.field? = some field) (hpaths : leaf.leafPaths = [p]) (hcompile : leaf.compiles) :
    i ∈ matched leaf records ↔ i < 2 ^ 32 ∧
      i.toUInt32 ∈ ((Index.ofDocuments (records.map fun r =>
        Record.project r leaf.paths)).leafScores leaf (.ofColumn (p.column records))).keys := by
  have hcolumn : (records.map fun r => (Record.project r leaf.paths).fieldsNamed field) =
      p.column records :=
    List.map_congr_left fun record _ => by rw [Clause.paths, hpaths, hbrings record]
  rw [mem_matched_ofColumn hfield hcompile, hcolumn]

variable (hp : p.IsPlain) (hn : records.length ≤ 2 ^ 32)

include hn

/-- A document of the index of a path has a term if the value of its record has. -/
theorem hasPosting_column {term : String} :
    (i < 2 ^ 32 ∧ (FieldIndex.ofColumn (p.column records)).HasPosting term i.toUInt32) ↔
      ∃ record, records[i]? = some record ∧
        ∃ j, StandsAt (Field.ofValue p (Record.resolve record p)) term j := by
  have ordered := p.isOrdered_column hn
  rw [← exists_mem_column_iff hn (P := fun fields => ∃ j, StandsAt fields term j),
    ordered.hasPosting_iff]
  refine and_congr_right fun _ => ?_
  simp only [FieldIndex.occurs_ofColumn]
  constructor
  · rintro ⟨-, k, j, fields, hk, hj, hki, -⟩
    exact ⟨k, fields, hk, ⟨j, hj⟩, hki⟩
  · rintro ⟨k, fields, hk, ⟨j, hj⟩, hki⟩
    exact ⟨_, k, j, fields, hk, hj, hki, rfl⟩

/-- A document of the index of a path has a term that is accepted if the value of its record has. -/
theorem mem_acceptedScores_column {accepts : String → Bool} :
    (i < 2 ^ 32 ∧ i.toUInt32 ∈
      ((FieldIndex.ofColumn (p.column records)).acceptedScores accepts).keys) ↔
      ∃ record, records[i]? = some record ∧
        ∃ term, (∃ j, StandsAt (Field.ofValue p (Record.resolve record p)) term j) ∧
          accepts term := by
  rw [FieldIndex.mem_acceptedScores]
  constructor
  · rintro ⟨hi, term, hposting, haccepts⟩
    obtain ⟨record, hrecord, hstands⟩ := (hasPosting_column hn).mp ⟨hi, hposting⟩
    exact ⟨record, hrecord, term, hstands, haccepts⟩
  · rintro ⟨record, hrecord, term, hstands, haccepts⟩
    obtain ⟨hi, hposting⟩ := (hasPosting_column hn).mpr ⟨record, hrecord, hstands⟩
    exact ⟨hi, term, hposting, haccepts⟩

/-- **Terms.** A term over a field that its path brings matches the records with a value that has
it. -/
theorem Path.Brings.mem_matched_term {field term : String} (hbrings : (Path.mk field).Brings field) :
    i ∈ matched (.term field term) records ↔ ∃ record, records[i]? = some record ∧
      ∃ j, StandsAt (Field.ofValue ⟨field⟩ (Record.resolve record ⟨field⟩)) term j := by
  rw [hbrings.mem_matched_leaf rfl rfl rfl, Index.leafScores, FieldIndex.mem_termScores,
    hasPosting_column hn]

/-- **Regular expressions.** One over a field that the marked path brings matches the records with a
value of which it accepts a term. -/
theorem Path.Brings.mem_matched_regexp {field pattern : String}
    (hbrings : (Path.exact field).Brings field) {regex : Pattern.Regex}
    (hregex : Pattern.regexp? pattern = some regex) :
    i ∈ matched (.regexp field pattern) records ↔ ∃ record, records[i]? = some record ∧
      ∃ term, (∃ j, StandsAt (Field.ofValue (.exact field)
        (Record.resolve record (.exact field))) term j) ∧ regex.accepts term.toList := by
  have hcompile : (Clause.regexp field pattern).compiles := by
    rw [Clause.compiles, hregex]
    rfl
  rw [hbrings.mem_matched_leaf rfl rfl hcompile, Index.leafScores, mem_acceptedScores_column hn]
  simp only [hregex, Option.any_some]

/-- **Ranges of points.** A range of points matches the records that bring a point in it under its
field. -/
theorem mem_matched_points {field : String} {lower upper : Bound} {lo hi : Int64}
    (hrange : NumericRange.ofBounds lower upper = .between lo hi) :
    i ∈ matched (.range field lower upper) records ↔ ∃ record, records[i]? = some record ∧
      ∃ x ∈ pointsOf ((Record.project record (.ofList [⟨field⟩])).fieldsNamed field),
        lo ≤ x ∧ x ≤ hi := by
  rw [mem_matched_ofColumn rfl rfl, Index.leafScores, Index.rangeScores, hrange,
    ← exists_mem_map_iff hn (P := fun fields => ∃ x ∈ pointsOf fields, lo ≤ x ∧ x ≤ hi)]
  refine and_congr_right fun _ => ?_
  have ordered : (FieldIndex.ofColumn (records.map fun r =>
      (Record.project r (.ofList [⟨field⟩])).fieldsNamed field)).IsOrdered :=
    FieldIndex.isOrdered_ofColumn (by rwa [List.length_map])
  refine (FieldIndex.mem_pointScores ordered).trans ?_
  simp only [FieldIndex.mem_points_ofColumn]
  constructor
  · rintro ⟨x, ⟨k, fields, hk, hx, hki⟩, hbetween⟩
    exact ⟨k, fields, hk, ⟨x, hx, hbetween⟩, hki⟩
  · rintro ⟨k, fields, hk, ⟨x, hx, hbetween⟩, hki⟩
    exact ⟨x, ⟨k, fields, hk, hx, hki⟩, hbetween⟩

omit hn in
/-- An empty range of points matches nothing. -/
theorem notMem_matched_points {field : String} {lower upper : Bound}
    (hrange : NumericRange.ofBounds lower upper = .empty) :
    i ∉ matched (.range field lower upper) records := by
  rw [mem_matched_ofColumn rfl rfl, Index.leafScores, Index.rangeScores, hrange]
  rintro ⟨-, h⟩
  cases h

include hp

/-- A term over a plain path matches the records with a value that has it. -/
theorem mem_matched_term {term : String} :
    i ∈ matched (.term p.text term) records ↔ ∃ record, records[i]? = some record ∧
      ∃ j, StandsAt (Field.ofValue p (Record.resolve record p)) term j :=
  hp.brings.mem_matched_term hn

/-- **Patterns.** A pattern matches the records with a value of which it accepts a term. -/
theorem mem_matched_wildcard {pattern : String} {regex : Pattern.Regex}
    (hregex : Pattern.wildcard? pattern = some regex) :
    i ∈ matched (.wildcard p.text pattern) records ↔ ∃ record, records[i]? = some record ∧
      ∃ term, (∃ j, StandsAt (Field.ofValue p (Record.resolve record p)) term j) ∧
        regex.accepts term.toList := by
  have hcompile : (Clause.wildcard p.text pattern).compiles := by
    rw [Clause.compiles, hregex]
    rfl
  rw [hp.brings.mem_matched_leaf rfl rfl hcompile, Index.leafScores, mem_acceptedScores_column hn]
  simp only [hregex, Option.any_some]

/-- **Ranges of numbers.** A range of numbers matches the records with a number in it. -/
theorem mem_matched_range {lower upper : Bound} {lo hi : Int64}
    (hrange : NumericRange.ofBounds lower upper = .between lo hi) :
    i ∈ matched (.range p.text lower upper) records ↔ ∃ record, records[i]? = some record ∧
      ∃ x, Record.resolve record p = .number x ∧ lo ≤ x ∧ x ≤ hi := by
  simp only [mem_matched_points hn hrange, hp.brings _, mem_pointsOf_ofValue]

end leaves

end RegistrySearch
