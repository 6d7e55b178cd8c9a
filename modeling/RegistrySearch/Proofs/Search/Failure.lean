import RegistrySearch.Proofs.Search.Exactness

/-!
# Evaluation that fails

Evaluation visits every leaf of a clause, whatever the leaves before it have found and whatever part
they have in the clause. So it fails exactly if some leaf has a pattern that is none, and with the
first one from left to right (`Clause.firstInvalid?`): the index has no say in it.
-/

namespace RegistrySearch

open Query (Clause Occur)

namespace Query.Clause

/-- The pattern of a leaf, if it is none. -/
def invalidPattern? : Clause → Option InvalidPattern
  | wildcard _ pattern => if (Pattern.wildcard? pattern).isSome then none else some ⟨pattern⟩
  | regexp _ pattern => if (Pattern.regexp? pattern).isSome then none else some ⟨pattern⟩
  | _ => none

/-- The first pattern of a clause that is none, from left to right. -/
def firstInvalid? (c : Clause) : Option InvalidPattern := c.leaves.findSome? invalidPattern?

theorem invalidPattern?_eq_none_iff {leaf : Clause} :
    leaf.invalidPattern? = none ↔ leaf.compiles := by
  cases leaf with
  | wildcard | regexp =>
    simp only [invalidPattern?, compiles, ite_eq_left_iff, reduceCtorEq, imp_false, not_not]
  | term | phrase | range | boolean => exact iff_of_true rfl rfl

/-- No pattern is found exactly if all of them compile. -/
theorem firstInvalid?_eq_none_iff {c : Clause} : c.firstInvalid? = none ↔ c.PatternsCompile := by
  simp only [firstInvalid?, List.findSome?_eq_none_iff, invalidPattern?_eq_none_iff,
    PatternsCompile]

theorem firstInvalid?_leaf {c : Clause} {field : String} (h : c.field? = some field) :
    c.firstInvalid? = c.invalidPattern? := by
  rw [firstInvalid?, leaves_leaf h, List.findSome?_singleton]

end Query.Clause

namespace Index

variable {index : Index} {e : InvalidPattern}

/-- A leaf fails with its pattern. -/
private theorem scores_leaf_eq_error_iff {leaf : Clause} {field : String}
    (hf : leaf.field? = some field) :
    index.scores leaf = .error e ↔ leaf.invalidPattern? = some e := by
  cases leaf with
  | boolean => cases hf
  | term | phrase | range => exact iff_of_false (fun h => nomatch h) (fun h => nomatch h)
  | wildcard name pattern =>
    rw [scores, Clause.invalidPattern?]
    cases Pattern.wildcard? pattern with
    | none => simp [patternScores]
    | some r => simp [patternScores]
  | regexp name pattern =>
    rw [scores, Clause.invalidPattern?]
    cases Pattern.regexp? pattern with
    | none => simp [patternScores]
    | some r => simp [patternScores]

/-- Children fail with the first of them that does. -/
private theorem childScores_eq_error_iff {children : List (Occur × Clause)}
    (h : ∀ c ∈ children, ∀ e, index.scores c.2 = .error e ↔ c.2.firstInvalid? = some e) :
    index.childScores children = .error e ↔
      (Clause.leavesOf children).findSome? Clause.invalidPattern? = some e := by
  induction children with
  | nil => simp [childScores, Clause.leavesOf]
  | cons c rest ih =>
    have hfirst := h c List.mem_cons_self
    have hrest := ih fun c hc => h c (List.mem_cons_of_mem _ hc)
    rw [Clause.leavesOf, List.findSome?_append, childScores]
    cases hs : index.scores c.2 with
    | error e' =>
      have hinvalid : c.2.firstInvalid? = some e' := (hfirst e').mp hs
      rw [Clause.firstInvalid?] at hinvalid
      rw [hinvalid]
      simp [bind, Except.bind]
    | ok scores =>
      have hnone : c.2.firstInvalid? = none := by
        refine Option.eq_none_iff_forall_ne_some.mpr fun e' he => ?_
        rw [(hfirst e').mpr he] at hs
        cases hs
      rw [Clause.firstInvalid?] at hnone
      rw [hnone, Option.none_or, ← hrest]
      cases index.childScores rest <;> simp [bind, Except.bind]

/-- **Failure.** The documents of a clause cannot be found exactly if one of its patterns is none,
and the first one is the reason. -/
theorem scores_eq_error_iff {c : Clause} :
    index.scores c = .error e ↔ c.firstInvalid? = some e := by
  induction c using Clause.induct generalizing e with
  | leaf c field hf => rw [scores_leaf_eq_error_iff hf, Clause.firstInvalid?_leaf hf]
  | boolean children ih =>
    have hchildren : index.childScores children = .error e ↔
        (Clause.boolean children).firstInvalid? = some e :=
      childScores_eq_error_iff fun c hc e => ih c hc
    rw [← hchildren, scores]
    cases index.childScores children <;> simp [Except.map]

theorem evaluate_eq_error_iff {c : Clause} {limit : Nat} :
    index.evaluate c limit = .error e ↔ c.firstInvalid? = some e := by
  have hscores : index.scores c = .error e ↔ c.firstInvalid? = some e := scores_eq_error_iff
  rw [← hscores, evaluate]
  cases index.scores c <;> simp [bind, Except.bind]

end Index

end RegistrySearch
