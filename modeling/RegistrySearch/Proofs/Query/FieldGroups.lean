import RegistrySearch.Proofs.Query.Groups
import RegistrySearch.Proofs.Query.Trees

/-!
# Fields in front of groups

A name in front of a group holds for the leaves of the group that have no name of their own, at
every depth. So the group is read as it is by itself where the name is the field that is looked at
by default (`readPrimary_fieldGroup`), and a query is read as a group if no sign waits for its
operand at the end.
-/

namespace RegistrySearch.Query

open Text (utf8Length utf8Length_append)

variable {field query f q : String}

/-- What is read of a whole query is what a syntax tree gives. -/
theorem parseWith_eq_ok_iff_exists_tree {c : Clause} :
    Clause.parseWith field query = .ok c ↔ skipBlanks query.toList ≠ [] ∧
      ∃ tree : SyntaxTree (.alternatives true) query.toList [], tree.clause field = c := by
  rw [parseWith_eq_ok_iff]
  refine and_congr_right fun _ => ⟨?_, ?_⟩
  · rintro ⟨items, hreads, rfl⟩
    obtain ⟨tree, rfl⟩ := hreads.exists_tree
    exact ⟨tree, rfl⟩
  · rintro ⟨tree, rfl⟩
    exact ⟨_, tree.reads field, rfl⟩

/-- A group with a name is the group for this field. -/
theorem readPrimary_fieldGroup (hf : IsName f) (field : String) (s : List Char) :
    outcome (readPrimary field (f.toList ++ ':' :: '(' :: s)) =
      outcome (readPrimary f ('(' :: s)) := by
  rw [readPrimary_name hf, outcome_readValue, outcome_readPrimary]
  rfl

theorem toList_fieldGroup (f q : String) :
    (f ++ ":(" ++ q ++ ")").toList = f.toList ++ ':' :: '(' :: (q.toList ++ [')']) := by
  simp only [String.toList_append, List.append_assoc]
  rfl

/-- A query is read in a group with a name as it is in the group for this field. -/
theorem parseWith_fieldGroup (hf : IsName f) {items : List Item}
    (h : outcome (readAlternatives true f (q.toList ++ [')'])) = .ok (items, [')'])) :
    Clause.parseWith field (f ++ ":(" ++ q ++ ")") =
      .ok ((alternatives? items).getD (.boolean [])) := by
  have hquery := toList_fieldGroup f q
  refine parseWith_primary (hquery ▸ opensPrimary_name hf _) ?_
  rw [hquery, readPrimary_fieldGroup hf]
  exact readPrimary_group h

/-- So is one at whose end a sign waits for its operand. -/
theorem parseWith_fieldGroup_of_dangles (hf : IsName f)
    (h : Dangles (Part.read (.alternatives true) f) f q.toList) :
    Clause.parseWith field (f ++ ":(" ++ q ++ ")") =
      .error ⟨.unexpected ')', utf8Length f.toList + utf8Length q.toList + 2⟩ := by
  have hquery := toList_fieldGroup f q
  have hread := h.read_eq _ _ touches_paren (outcome_readSigned_paren f [])
  have hlength : utf8Length (f ++ ":(" ++ q ++ ")").toList =
      utf8Length f.toList + utf8Length q.toList + 2 + 1 := by
    simp only [String.toList_append, utf8Length_append]
    have hopen : utf8Length ":(".toList = 2 := rfl
    have hclose : utf8Length ")".toList = 1 := rfl
    omega
  rw [parseWith_primary_error (hquery ▸ opensPrimary_name hf _) (e := ⟨.unexpected ')', [')']⟩) ?_,
    Failure.toError, hlength]
  · rfl
  · rw [hquery, readPrimary_fieldGroup hf]
    exact readPrimary_group_error hread

/-- **A field distributes over its group.** The clause of a query has the leaves of its syntax tree,
each in the field of the innermost name in front of it, or in the field that is looked at by default
if there is none. With a name in front of the query in parentheses the query has the clause that it
has for the field of this name, and so it has in parentheses alone where the field is the one that is
looked at by default. Or neither of the two is read, since the query ends with a plus or minus that
waits for its operand. -/
theorem parse_fieldGroup {f q : String} {c : Clause} (hf : IsName f) (h : Clause.parse q = .ok c) :
    ∃ tree : SyntaxTree (.alternatives true) q.toList [],
      (∀ field, Clause.parseWith field q = .ok (tree.clause field) ∧
        (tree.clause field).leaves =
          tree.leaves.flatMap (fun (name?, leaf) => leaf.leaves (name?.getD field)) ∧
        ∀ leaf : Leaf, ∀ l ∈ leaf.leaves field, l.field? = some field) ∧
      (Clause.parse (f ++ ":(" ++ q ++ ")") = .ok (tree.clause f) ∧
          Clause.parseWith f ("(" ++ q ++ ")") = .ok (tree.clause f) ∨
        (∃ b ∈ q.toList.getLast?, b = '+' ∨ b = '-') ∧
          Clause.parse (f ++ ":(" ++ q ++ ")") =
            .error ⟨.unexpected ')', utf8Length f.toList + utf8Length q.toList + 2⟩ ∧
          Clause.parseWith f ("(" ++ q ++ ")") =
            .error ⟨.unexpected ')', utf8Length q.toList + 1⟩) := by
  obtain ⟨hs, tree, -⟩ := parseWith_eq_ok_iff_exists_tree.mp h
  refine ⟨tree, fun field => ⟨parseWith_eq_ok_iff_exists_tree.mpr ⟨hs, tree, rfl⟩,
    tree.leaves_clause field, fun _ _ => Leaf.field?_of_mem_leaves⟩, ?_⟩
  obtain hread | ⟨-, hdangles⟩ :=
    (tree.reads f).alternatives_append_paren hs (t := [')']) (extends_of_isBreak rfl []) rfl
  · refine .inl ⟨parseWith_fieldGroup hf hread, parseWith_group ?_ hread⟩
    simp only [String.toList_append]
    rfl
  · obtain ⟨b, hb, hsign⟩ := hdangles.sign
    exact .inr ⟨⟨b, hb, isSome_attached?_iff.mp hsign⟩,
      parseWith_fieldGroup_of_dangles hf hdangles, parseWith_group_of_dangles hdangles⟩

set_option maxRecDepth 4000 in
/-- The name in front of the outer group is the field of the only word without a name. -/
theorem parse_fieldGroup_nested :
    Clause.parse ("name" ++ ":(" ++ "a b:(c d:e)" ++ ")") =
        .ok (.boolean [(.should, .term "name" "a"),
          (.should, .boolean [(.should, .term "b" "c"), (.should, .term "d" "e")])]) ∧
      Clause.parseWith "name" ("(" ++ "a b:(c d:e)" ++ ")") =
        .ok (.boolean [(.should, .term "name" "a"),
          (.should, .boolean [(.should, .term "b" "c"), (.should, .term "d" "e")])]) := by
  have hbody : Clause.parse "a b:(c d:e)" = .ok (.boolean [(.should, .term "body" "a"),
      (.should, .boolean [(.should, .term "b" "c"), (.should, .term "d" "e")])]) := by
    with_unfolding_all rfl
  have hname : Clause.parseWith "name" "a b:(c d:e)" = .ok (.boolean [(.should, .term "name" "a"),
      (.should, .boolean [(.should, .term "b" "c"), (.should, .term "d" "e")])]) := by
    with_unfolding_all rfl
  obtain ⟨tree, hfield, hgroups⟩ := parse_fieldGroup (f := "name") (by decide) hbody
  rw [← (hfield "name").1.symm.trans hname]
  refine hgroups.resolve_right ?_
  -- the query ends with a parenthesis
  rintro ⟨⟨b, hb, hsign⟩, -⟩
  cases hb
  exact absurd hsign (by decide)

end RegistrySearch.Query
