import RegistrySearch.Index.Builder
import RegistrySearch.Proofs.Query.Truth
import RegistrySearch.Proofs.Text.Runs
import RegistrySearch.Search.Range

/-!
# Scanning documents

What a clause says of a document (`Document.Satisfies`), read off the fields of the document without
any index. The texts of a name are one text; a value that is kept whole stands at its front, in one
place with the first token.

An index agrees with this as long as its ordinals and positions are words (`FitsWords`).
-/

namespace RegistrySearch

open Query (Clause Bound NumericRange)
open Text (analyze tokenize)

/-- The terms of the texts among fields, one text after the other. -/
def textTerms (fields : List Field) : List String :=
  (fields.filter fun f => f.kind = .text).flatMap fun f => (tokenize f.value).map (·.term)

/-- A term stands at a position among fields: as the token there, or at position 0 as a value that
is kept whole. -/
def StandsAt (fields : List Field) (term : String) (position : Nat) : Prop :=
  (textTerms fields)[position]? = some term ∨
    position = 0 ∧ ∃ f ∈ fields, f.kind = .exact ∧ f.value = term

/-- A term that satisfies a predicate stands somewhere among fields. -/
def HasTerm (fields : List Field) (accepts : String → Bool) : Prop :=
  ∃ term position, StandsAt fields term position ∧ accepts term

/-- A numeric field has a point from `lo` to `hi`. -/
def HasPoint (fields : List Field) (lo hi : Int64) : Prop :=
  ∃ f ∈ fields, f.kind = .numeric ∧ ∃ point ∈ f.point, lo ≤ point ∧ point ≤ hi

namespace Document

/-- A document satisfies a leaf. -/
def SatisfiesLeaf (d : Document) : Clause → Prop
  | .term field text => ∃ position, StandsAt (d.fieldsNamed field) text position
  | .phrase field terms =>
    terms ≠ [] ∧ ∃ start, ∀ j term, terms[j]? = some term →
      StandsAt (d.fieldsNamed field) term (start + j)
  | .wildcard field pattern =>
    ∃ regex ∈ Pattern.wildcard? pattern,
      HasTerm (d.fieldsNamed field) fun term => regex.accepts term.toList
  | .regexp field pattern =>
    ∃ regex ∈ Pattern.regexp? pattern,
      HasTerm (d.fieldsNamed field) fun term => regex.accepts term.toList
  | .range field lower upper =>
    match NumericRange.ofBounds lower upper with
    | .between lo hi => HasPoint (d.fieldsNamed field) lo hi
    | .empty => False
    | .notNumeric => HasTerm (d.fieldsNamed field) (Query.isBetween lower upper)
  | .boolean _ => False

/-- **Direct scan.** A document satisfies a clause. -/
def Satisfies (d : Document) (c : Clause) : Prop := c.Holds d.SatisfiesLeaf

end Document

/-- Documents are so few, and their texts and the phrases of a clause so short, that ordinals and
positions are words of 32 bits. -/
structure FitsWords (documents : List Document) (c : Clause) : Prop where
  ordinals : documents.length ≤ 2 ^ 32
  tokens : ∀ d ∈ documents, ∀ name, (textTerms (d.fieldsNamed name)).length < 2 ^ 32
  phrases : ∀ d ∈ documents, ∀ field terms, .phrase field terms ∈ c.leaves →
    (textTerms (d.fieldsNamed field)).length + terms.length ≤ 2 ^ 32

/-! ### Terms of fields -/

theorem textTerms_cons (f : Field) (fields : List Field) :
    textTerms (f :: fields) =
      (if f.kind = .text then (tokenize f.value).map (·.term) else []) ++ textTerms fields := by
  rw [textTerms, List.filter_cons]
  by_cases h : f.kind = .text <;> simp [h, textTerms]

theorem mem_textTerms {fields : List Field} {term : String} :
    term ∈ textTerms fields ↔ ∃ f ∈ fields, f.kind = .text ∧ term ∈ analyze f.value := by
  simp only [textTerms, Text.map_term_tokenize, List.mem_flatMap, List.mem_filter,
    decide_eq_true_eq, and_assoc]

/-- A term stands somewhere among fields if it is one of a text or a value that is kept whole. -/
theorem exists_standsAt_iff {fields : List Field} {term : String} :
    (∃ position, StandsAt fields term position) ↔
      ∃ f ∈ fields, f.kind = .text ∧ term ∈ analyze f.value ∨ f.kind = .exact ∧ f.value = term := by
  have htext : (∃ position : Nat, (textTerms fields)[position]? = some term) ↔
      ∃ f ∈ fields, f.kind = .text ∧ term ∈ analyze f.value := by
    rw [← mem_textTerms, List.mem_iff_getElem?]
  simp only [StandsAt, exists_or, exists_eq_left, htext, and_or_left]

/-- The texts of one name have no more terms than all texts of a document. -/
theorem length_textTerms_fieldsNamed_le (d : Document) (name : String) :
    (textTerms (d.fieldsNamed name)).length ≤ (textTerms d.fields).length := by
  rw [Document.fieldsNamed]
  induction d.fields with
  | nil => exact Nat.le_refl _
  | cons f fields ih =>
    rw [textTerms_cons, List.length_append, List.filter_cons]
    split
    · rw [textTerms_cons, List.length_append]
      exact Nat.add_le_add_left ih _
    · exact Nat.le_trans ih (Nat.le_add_left _ _)

/-- It suffices that all texts of a document, whatever their names, have so few terms. -/
theorem FitsWords.of_textTerms {documents : List Document} {c : Clause}
    (ordinals : documents.length ≤ 2 ^ 32)
    (tokens : ∀ d ∈ documents, (textTerms d.fields).length < 2 ^ 32)
    (phrases : ∀ d ∈ documents, ∀ field terms, .phrase field terms ∈ c.leaves →
      (textTerms d.fields).length + terms.length ≤ 2 ^ 32) : FitsWords documents c where
  ordinals := ordinals
  tokens d hd name := Nat.lt_of_le_of_lt (length_textTerms_fieldsNamed_le d name) (tokens d hd)
  phrases d hd field terms hl := Nat.le_trans
    (Nat.add_le_add_right (length_textTerms_fieldsNamed_le d field) _) (phrases d hd field terms hl)

/-- The term at a place of a text, and its position when `start` tokens stand before. -/
private theorem mem_shifted_tokenize {start position : Nat} {s term : String} :
    (term, position) ∈ (tokenize s).map (fun t => (t.term, start + t.position)) ↔
      start ≤ position ∧ ((tokenize s).map (·.term))[position - start]? = some term := by
  simp only [tokenize, List.map_map, List.mem_map, Function.comp_def, List.getElem?_map,
    List.getElem?_zipIdx, Option.map_map, Option.map_eq_some_iff, Prod.mk.injEq, Prod.exists,
    List.mem_zipIdx_iff_getElem?]
  constructor
  · rintro ⟨a, j, ha, rfl, rfl⟩
    exact ⟨Nat.le_add_right start j, a, by rwa [Nat.add_sub_cancel_left], rfl⟩
  · rintro ⟨hle, a, ha, rfl⟩
    exact ⟨a, position - start, ha, rfl, by omega⟩

/-- The occurrences of terms among fields, when `start` tokens stand before. -/
theorem mem_occurrencesFrom {start : Nat} {fields : List Field} {term : String} {position : Nat} :
    (term, position) ∈ occurrencesFrom start fields ↔
      (start ≤ position ∧ (textTerms fields)[position - start]? = some term) ∨
        position = 0 ∧ ∃ f ∈ fields, f.kind = .exact ∧ f.value = term := by
  -- tokens of a text push the positions behind it on; other fields leave them
  induction fields generalizing start with
  | nil => simp [occurrencesFrom, textTerms]
  | cons f fields ih =>
    rw [occurrencesFrom, textTerms_cons]
    cases hk : f.kind with
    | exact =>
      simp only [List.mem_cons, ih, hk, Prod.mk.injEq, reduceCtorEq, if_false, List.nil_append,
        exists_eq_or_imp, true_and]
      grind
    | numeric => simp [ih, hk]
    | text =>
      simp only [List.mem_append, mem_shifted_tokenize, ih, hk, if_true, List.getElem?_append,
        List.length_map, List.mem_cons, exists_eq_or_imp, reduceCtorEq, false_and, false_or]
      grind

theorem StandsAt.lt_max {fields : List Field} {term : String} {position : Nat}
    (h : StandsAt fields term position) : position < max (textTerms fields).length 1 := by
  rcases h with h | ⟨rfl, -⟩
  · exact Nat.lt_of_lt_of_le (List.getElem?_eq_some_iff.mp h).1 (Nat.le_max_left _ _)
  · exact Nat.le_max_right _ _

theorem mem_occurrencesFrom_zero {fields : List Field} {term : String} {position : Nat} :
    (term, position) ∈ occurrencesFrom 0 fields ↔ StandsAt fields term position := by
  rw [mem_occurrencesFrom, StandsAt, Nat.sub_zero, and_iff_right (Nat.zero_le position)]

end RegistrySearch
