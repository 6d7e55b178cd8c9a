import RegistrySearch.Proofs.Dictionary
import RegistrySearch.Proofs.Query.Truth
import RegistrySearch.Search.Evaluation

/-!
# What a boolean clause matches

Scores of children are put together document by document, from what every child contributes
(`contributionsTo`). A child contributes to a document exactly when it matches it, and once, so
counting the contributions of the required children tells whether all of them match.
-/

namespace RegistrySearch

open Query (Clause Occur Decides)

/-- Contributions make a document match when none excludes it, all required ones are there, and
there is a required one or an optional one. -/
theorem isSome_verdict? {required : Nat} {contributions : List (Occur × Float)} :
    (verdict? required contributions).isSome ↔
      contributedBy .mustNot contributions = [] ∧
        (contributedBy .must contributions).length = required ∧
        (required ≠ 0 ∨ contributedBy .should contributions ≠ []) := by
  unfold verdict?
  cases contributedBy .mustNot contributions with
  | cons => simp
  | nil =>
    cases contributedBy .must contributions with
    | nil =>
      cases contributedBy .should contributions <;> cases required <;> simp
    | cons first rest =>
      by_cases h : rest.length + 1 = required
      · simp [h, show required ≠ 0 by omega]
      · simp [h]

section contributions

variable {children : List (Occur × Scores)} {doc : Ordinal} {occur : Occur}

/-- What the children contribute to a document. -/
def contributionsTo (doc : Ordinal) (children : List (Occur × Scores)) :
    List (Occur × Float) :=
  children.filterMap fun c => (c.2.get? doc).map fun score => (c.1, score)

private theorem valuesAt_contributions :
    valuesAt doc (children.flatMap fun (occur, scores) =>
      scores.entries.map fun (doc, score) => (doc, (occur, score))) =
      contributionsTo doc children := by
  rw [valuesAt_flatMap, contributionsTo]
  induction children with
  | nil => rfl
  | cons c rest ih =>
    rw [List.flatMap_cons, ih, List.filterMap_cons, valuesAt_map (f := fun score => (c.1, score)),
      Dictionary.valuesAt_entries]
    cases c.2.get? doc <;> rfl

/-- What the children of one kind contribute. -/
private theorem contributedBy_contributionsTo :
    contributedBy occur (contributionsTo doc children) =
      (children.filter fun c => c.1 = occur).filterMap fun c => c.2.get? doc := by
  induction children with
  | nil => rfl
  | cons c rest ih =>
    unfold contributedBy contributionsTo at *
    rw [List.filterMap_cons, List.filter_cons]
    by_cases ho : c.1 = occur <;> cases hs : c.2.get? doc <;> simp [ho, hs, ih]

private theorem contributedBy_eq_nil_iff :
    contributedBy occur (contributionsTo doc children) = [] ↔
      ∀ c ∈ children, c.1 = occur → doc ∉ c.2.keys := by
  simp only [contributedBy_contributionsTo, List.filterMap_eq_nil_iff, List.mem_filter,
    decide_eq_true_eq, and_imp, Dictionary.get?_eq_none_iff]

/-- All of some dictionaries hold a key exactly when as many values are found in them. -/
private theorem length_filterMap_get?_eq_iff {xs : List (Occur × Scores)} :
    (xs.filterMap fun c => c.2.get? doc).length = xs.length ↔ ∀ c ∈ xs, doc ∈ c.2.keys := by
  induction xs with
  | nil => simp
  | cons c xs ih =>
    have hle := List.length_filterMap_le (fun c : Occur × Scores => c.2.get? doc) xs
    rw [List.filterMap_cons, List.forall_mem_cons, ← ih, Dictionary.mem_keys_iff]
    cases c.2.get? doc with
    | none => simp; omega
    | some score => simp

end contributions

section combine

variable {children : List (Occur × Scores)} {doc : Ordinal}

/-- The score of a document is the verdict on what the children contribute to it. -/
theorem get?_combine :
    (combine children).get? doc =
      verdict? (children.filter fun c => c.1 = .must).length (contributionsTo doc children) := by
  rw [combine, Dictionary.get?_filterMap, Dictionary.get?_group, valuesAt_contributions]
  split
  · next h =>
    -- a document without contributions is in no group, but no verdict would let it in, either
    rw [h, Option.bind_none, eq_comm, ← Option.not_isSome_iff_eq_none, isSome_verdict?]
    rintro ⟨-, hl, h | h⟩
    · exact h hl.symm
    · exact h rfl
  · rfl

/-- **Boolean clauses.** A document is matched exactly if the clause decides so from which children
match it. -/
theorem mem_keys_combine :
    doc ∈ (combine children).keys ↔ Decides (children.map fun c => (c.1, doc ∈ c.2.keys)) := by
  rw [Dictionary.mem_keys_iff, ← Option.isSome_iff_exists, get?_combine, isSome_verdict?,
    contributedBy_eq_nil_iff, ne_eq, ne_eq, contributedBy_eq_nil_iff,
    contributedBy_contributionsTo, length_filterMap_get?_eq_iff, List.length_eq_zero_iff,
    List.filter_eq_nil_iff]
  simp only [Decides, List.mem_map, List.mem_filter, forall_exists_index, and_imp,
    forall_apply_eq_imp_iff₂, exists_exists_and_eq_and, decide_eq_true_eq, not_forall, not_not,
    exists_prop]
  exact and_left_comm

end combine

end RegistrySearch
