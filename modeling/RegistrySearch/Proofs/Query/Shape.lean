import RegistrySearch.Proofs.Query.FieldGroups
import RegistrySearch.Proofs.Text.Stability

/-!
# The shape of parsed clauses

Analysis may leave nothing of a word or a phrase, and what is combined around it closes up: no
combination without children is left in a clause, and none with a single child that is just
optional. Such clauses are well-formed (`Clause.IsWellFormed`). Only the query as a whole can be
empty, and it is exactly if analysis has dropped all its leaves.
-/

namespace RegistrySearch.Query

open Text (analyze)

/-! ### Well-formed clauses -/

/-- A text that analysis has cut off another one. -/
structure IsAnalyzed (t : String) : Prop where
  ne_empty : t ≠ ""
  exists_mem_analyze : ∃ text, t ∈ analyze text

theorem isAnalyzed_of_mem {t text : String} (h : t ∈ analyze text) : IsAnalyzed t where
  ne_empty := by
    obtain ⟨-, -, -, hne⟩ := Text.mem_analyze_iff.mp h
    exact fun ht => hne (String.toList_eq_nil_iff.mpr ht)
  exists_mem_analyze := ⟨text, h⟩

namespace Clause

/-- The clauses in which something is left everywhere: terms are those of texts, phrases have two of
them or more, patterns an operator, and a combination has children, of which one alone is required
or excluded. -/
inductive IsWellFormed : Clause → Prop
  | term {field text : String} (h : IsAnalyzed text) : IsWellFormed (.term field text)
  | phrase {field : String} {terms : List String} (hlength : 2 ≤ terms.length)
    (h : ∀ t ∈ terms, IsAnalyzed t) : IsWellFormed (.phrase field terms)
  | wildcard {field pattern : String} (h : '*' ∈ pattern.toList ∨ '?' ∈ pattern.toList) :
    IsWellFormed (.wildcard field pattern)
  | regexp {field pattern : String} : IsWellFormed (.regexp field pattern)
  | range {field : String} {lower upper : Bound} : IsWellFormed (.range field lower upper)
  | boolean {children : List (Occur × Clause)} (hne : children ≠ [])
    (hsingle : ∀ occur c, children = [(occur, c)] → occur = .must ∨ occur = .mustNot)
    (h : ∀ child ∈ children, IsWellFormed child.2) : IsWellFormed (.boolean children)

/-- A combination of two or more is well-formed if what it combines is. -/
theorem isWellFormed_boolean {children : List (Occur × Clause)} (hlength : 2 ≤ children.length)
    (h : ∀ child ∈ children, child.2.IsWellFormed) : (boolean children).IsWellFormed := by
  refine .boolean (List.ne_nil_of_length_pos (by omega)) ?_ h
  rintro occur c rfl
  exact absurd hlength (Nat.not_succ_le_self 1)

/-- A well-formed clause has leaves. -/
theorem IsWellFormed.leaves_ne_nil {c : Clause} (h : c.IsWellFormed) : c.leaves ≠ [] := by
  induction h with
  | term | phrase | wildcard | regexp | range => exact List.cons_ne_nil _ _
  | @boolean children hne hsingle h ih =>
    obtain ⟨child, hchild⟩ := List.exists_mem_of_ne_nil children hne
    rw [leaves_boolean_eq_flatMap]
    exact fun hnil => ih child hchild (List.flatMap_eq_nil_iff.mp hnil child hchild)

theorem IsWellFormed.isEmpty_eq_false {c : Clause} (h : c.IsWellFormed) : c.isEmpty = false := by
  cases h with
  | term | phrase | wildcard | regexp | range => rfl
  | @boolean children hne =>
    obtain ⟨child, others, rfl⟩ := List.exists_cons_of_ne_nil hne
    rfl

end Clause

/-! ### Leaves -/

/-- The operator of a pattern is still there when the pattern is in normal form. -/
theorem Word.isOperator_mem_pattern {w : Word} (h : w.isWildcard) :
    '*' ∈ (Text.normalize w.pattern).toList ∨ '?' ∈ (Text.normalize w.pattern).toList := by
  obtain ⟨c, hc, hoperator⟩ := List.any_eq_true.mp h
  have hnormal : (Text.normalize w.pattern).toList =
      Text.normalizeChars (w.flatMap TypedChar.typed) := by
    rw [Text.normalize, String.toList_ofList, pattern, String.toList_ofList]
  have hmem {d : Char} (hd : d ∈ c.typed) : d ∈ w.flatMap TypedChar.typed :=
    List.mem_flatMap.mpr ⟨c, hc, hd⟩
  cases c with
  | escaped d => cases hoperator
  | plain d =>
    have hd : d ∈ (TypedChar.plain d).typed := List.mem_singleton_self d
    rw [TypedChar.isOperator, Bool.or_eq_true, decide_eq_true_eq, decide_eq_true_eq] at hoperator
    rw [hnormal]
    refine hoperator.imp ?_ ?_
    all_goals
      rintro rfl
      exact Text.mem_normalizeChars_of_lt (hmem hd) (by decide) (by decide)

/-- Where there are terms and not only one, there are two or more. -/
private theorem two_le_length {terms : List String} (hnil : terms ≠ []) (hone : ∀ t, terms ≠ [t]) :
    2 ≤ terms.length := by
  match terms with
  | [] => exact absurd rfl hnil
  | [t] => exact absurd rfl (hone t)
  | t :: u :: terms => exact Nat.le_add_left 2 terms.length

namespace Leaf

variable {leaf : Leaf} {c : Clause}

/-- The clause of a leaf is well-formed. -/
theorem isWellFormed_of_clause? {field : String} (h : leaf.clause? field = some c) :
    c.IsWellFormed := by
  cases leaf with
  | word w =>
    rw [clause?, Word.clause?] at h
    split at h
    · next hwildcard =>
      cases h
      exact .wildcard (Word.isOperator_mem_pattern hwildcard)
    · split at h
      · cases h
      · next t ht =>
        cases h
        exact .term (isAnalyzed_of_mem (ht ▸ List.mem_singleton_self t))
      · next hnil hone =>
        cases h
        refine Clause.isWellFormed_boolean ?_ ?_
        · rw [List.length_map]
          exact two_le_length hnil hone
        · rintro _ hchild
          obtain ⟨t, ht, rfl⟩ := List.mem_map.mp hchild
          exact .term (isAnalyzed_of_mem ht)
  | phrase text =>
    rw [clause?, phrase?] at h
    split at h
    · cases h
    · next t ht =>
      cases h
      exact .term (isAnalyzed_of_mem (ht ▸ List.mem_singleton_self t))
    · next hnil hone =>
      cases h
      exact .phrase (two_le_length hnil hone) fun t => isAnalyzed_of_mem
  | regexp pattern =>
    cases h
    exact .regexp
  | range lower upper =>
    cases h
    exact .range

/-- A leaf has no clause exactly if analysis drops it. -/
theorem clause?_eq_none_iff (leaf : Leaf) (field : String) :
    leaf.clause? field = none ↔ leaf.IsDropped := by
  cases leaf with
  | word w =>
    rw [clause?, Word.clause?, IsDropped]
    cases hwildcard : w.isWildcard with
    | true => exact iff_of_false (Option.some_ne_none _) fun h => Bool.noConfusion h.1
    | false =>
      rw [if_neg Bool.false_ne_true]
      rcases analyze w.text with _ | ⟨t, _ | ⟨u, terms⟩⟩
      · exact iff_of_true rfl ⟨rfl, rfl⟩
      · exact iff_of_false (Option.some_ne_none _) fun h => List.cons_ne_nil _ _ h.2
      · exact iff_of_false (Option.some_ne_none _) fun h => List.cons_ne_nil _ _ h.2
  | phrase text =>
    rw [clause?, phrase?, IsDropped]
    rcases analyze (String.ofList text) with _ | ⟨t, _ | ⟨u, terms⟩⟩
    · exact iff_of_true rfl rfl
    · exact iff_of_false (Option.some_ne_none _) (List.cons_ne_nil _ _)
    · exact iff_of_false (Option.some_ne_none _) (List.cons_ne_nil _ _)
  | regexp pattern | range lower upper => exact iff_of_false (Option.some_ne_none _) id

theorem leaves_eq_nil_iff (leaf : Leaf) (field : String) :
    leaf.leaves field = [] ↔ leaf.IsDropped := by
  rw [← clause?_eq_none_iff leaf field, leaves]
  cases h : leaf.clause? field with
  | none => exact iff_of_true rfl rfl
  | some c =>
    rw [Option.toList_some, List.flatMap_singleton]
    exact iff_of_false (isWellFormed_of_clause? h).leaves_ne_nil (Option.some_ne_none c)

end Leaf

/-! ### Combinations -/

/-- A well-formed clause with a sign that requires or excludes it, if it has one. -/
structure Item.IsWellFormed (i : Item) : Prop where
  clause : i.clause.IsWellFormed
  occur_ne : i.occur ≠ some .should

theorem Item.IsWellFormed.toClause {i : Item} (h : i.IsWellFormed) : i.toClause.IsWellFormed := by
  obtain ⟨occur, c⟩ := i
  cases occur with
  | none => exact h.clause
  | some occur =>
    refine .boolean (List.cons_ne_nil _ _) ?_ fun child hchild => ?_
    · rintro _ _ ⟨⟩
      have hne := h.occur_ne
      cases occur with
      | must => exact .inl rfl
      | mustNot => exact .inr rfl
      | should => exact absurd rfl hne
    · rw [List.mem_singleton.mp hchild]
      exact h.clause

theorem isWellFormed_alternatives? {items : List Item} (h : ∀ i ∈ items, i.IsWellFormed)
    {c : Clause} (hc : alternatives? items = some c) : c.IsWellFormed := by
  match items with
  | [] => cases hc
  | [i] =>
    cases hc
    exact (h i (List.mem_singleton_self i)).toClause
  | i :: j :: items =>
    cases hc
    refine Clause.isWellFormed_boolean (Nat.le_add_left 2 _) fun child hchild => ?_
    obtain ⟨k, hk, rfl⟩ := List.mem_map.mp hchild
    exact (h k hk).clause

theorem isWellFormed_conjunction? {items : List Item} (h : ∀ i ∈ items, i.IsWellFormed)
    {i : Item} (hi : conjunction? items = some i) : i.IsWellFormed := by
  match items with
  | [] => cases hi
  | [j] =>
    cases hi
    exact h i (List.mem_singleton_self i)
  | j :: k :: items =>
    cases hi
    refine ⟨Clause.isWellFormed_boolean (Nat.le_add_left 2 _) fun child hchild => ?_, nofun⟩
    obtain ⟨l, hl, rfl⟩ := List.mem_map.mp hchild
    exact (h l hl).clause

/-- No sign makes a clause optional. -/
theorem dropSign?_ne_should {s t : List Char} {occur : Occur}
    (h : dropSign? s = some (occur, t)) : occur ≠ .should := by
  unfold dropSign? at h
  split at h
  · cases h
    exact nofun
  · split at h
    · split at h <;> cases h
      exact nofun
    · split at h <;> cases h
      exact nofun
    · cases h

/-- The text of a word that is read is not empty. -/
theorem Word.text_ne_empty {s rest : List Char} {w : Word} (h : readWord s = .ok (w, rest)) :
    w.text ≠ "" := by
  have hne := (readWord_eq_ok_iff.mp h).2
  rw [text, Ne, String.ofList_eq_empty_iff, List.map_eq_nil_iff]
  exact hne

/-! ### Trees -/

/-- Whatever a part is read as is well-formed. -/
def Part.IsWellFormed : (p : Part) → p.Result → Prop
  | alternatives _, items | operands, items => ∀ i ∈ items, i.IsWellFormed
  | conjunction, item | signed, item => ∀ i ∈ item, i.IsWellFormed
  | primary, clause | value, clause | enclosed, clause => ∀ c ∈ clause, c.IsWellFormed

namespace SyntaxTree

variable {p : Part} {s rest : List Char}

/-- What a tree is read as is well-formed. -/
theorem isWellFormed_result (t : SyntaxTree p s rest) (field : String) :
    p.IsWellFormed (t.result field) := by
  induction t generalizing field with
  | finished | closed | last => exact fun i hi => absurd hi List.not_mem_nil
  | alternative h hc item others ihitem ihothers | operand h item others ihitem ihothers =>
    intro i hi
    rcases List.mem_append.mp hi with hi | hi
    · exact ihitem field i (Option.mem_toList.mp hi)
    · exact ihothers field i hi
  | conjunction first others ihfirst ihothers =>
    intro i hi
    refine isWellFormed_conjunction? (fun j hj => ?_) hi
    rcases List.mem_append.mp hj with hj | hj
    · exact ihfirst field j (Option.mem_toList.mp hj)
    · exact ihothers field j hj
  | sign occur h item ih =>
    intro i hi
    obtain ⟨j, hj, rfl⟩ := Option.map_eq_some_iff.mp hi
    exact ⟨(ih field j hj).toClause, fun hshould =>
      dropSign?_ne_should h (Option.some.inj hshould)⟩
  | unsigned h clause ih =>
    intro i hi
    obtain ⟨c, hc, rfl⟩ := Option.map_eq_some_iff.mp hi
    exact ⟨ih field c hc, nofun⟩
  | delimited clause ih | delimitedValue clause ih => exact ih field
  | qualified w hs hstray hw clause ih => exact ih w.text
  | group items hclose ih => exact fun c hc => isWellFormed_alternatives? (ih field) hc
  | word | wordValue | phrase | regexp | range =>
    exact fun c hc => Leaf.isWellFormed_of_clause? hc

/-- The clause of a whole query is well-formed or empty. -/
theorem isWellFormed_clause (t : SyntaxTree (.alternatives true) s rest) (field : String) :
    t.clause field = .boolean [] ∨ (t.clause field).IsWellFormed := by
  rw [clause]
  cases h : alternatives? (t.result field) with
  | none => exact .inl rfl
  | some c => exact .inr (isWellFormed_alternatives? (t.isWellFormed_result field) h)

/-- A query is empty exactly if analysis drops all its leaves. -/
theorem isEmpty_clause_iff (t : SyntaxTree (.alternatives true) s rest) (field : String) :
    (t.clause field).isEmpty ↔ ∀ leaf ∈ t.leaves, leaf.2.IsDropped := by
  have hleaves : (t.clause field).leaves = [] ↔ ∀ leaf ∈ t.leaves, leaf.2.IsDropped := by
    rw [leaves_clause, List.flatMap_eq_nil_iff]
    exact forall₂_congr fun leaf _ => leaf.2.leaves_eq_nil_iff _
  rw [← hleaves]
  obtain hempty | hshape := t.isWellFormed_clause field
  · rw [hempty]
    exact iff_of_true rfl rfl
  · exact iff_of_false (by rw [hshape.isEmpty_eq_false]; decide) hshape.leaves_ne_nil

/-- The names in a tree are not empty. -/
theorem name_ne_empty (t : SyntaxTree p s rest) : ∀ leaf ∈ t.leaves, leaf.1 ≠ some "" := by
  induction t with
  | finished | closed | last => exact fun leaf h => absurd h List.not_mem_nil
  | alternative h hc item others ihitem ihothers | conjunction item others ihitem ihothers
  | operand h item others ihitem ihothers =>
    intro leaf hleaf
    exact (List.mem_append.mp hleaf).elim (ihitem leaf) (ihothers leaf)
  | sign occur h item ih => exact ih
  | unsigned h clause ih => exact ih
  | delimited clause ih | delimitedValue clause ih | group clause hclose ih => exact ih
  | qualified w hs hstray hw clause ih =>
    intro leaf hleaf
    obtain ⟨⟨name?, l⟩, hl, rfl⟩ := List.mem_map.mp hleaf
    cases name? with
    | none => exact fun hempty => Word.text_ne_empty hw (Option.some.inj hempty)
    | some name => exact ih _ hl
  | word | wordValue | phrase | regexp | range =>
    intro leaf hleaf
    rw [List.mem_singleton.mp hleaf]
    exact nofun

/-- No leaf of the clause of a query looks at the field without name. -/
theorem field?_of_mem_leaves_clause (t : SyntaxTree (.alternatives true) s rest) {field : String}
    (hfield : field ≠ "") {l : Clause} (hl : l ∈ (t.clause field).leaves) :
    ∃ f, l.field? = some f ∧ f ≠ "" := by
  rw [leaves_clause, List.mem_flatMap] at hl
  obtain ⟨⟨name?, leaf⟩, hleaf, hl⟩ := hl
  refine ⟨_, Leaf.field?_of_mem_leaves hl, ?_⟩
  have hname := t.name_ne_empty _ hleaf
  cases name? with
  | none => exact hfield
  | some name => exact fun hempty => hname (congrArg some hempty)

end SyntaxTree

/-- **Shape.** The clause of a query is empty or well-formed, where no leaf looks at a field without
name if the field that is looked at by default has one. It is empty exactly if analysis drops all
leaves of the query, whatever the syntax tree that has them. -/
theorem parse_shape {field query : String} {c : Clause} (hfield : field ≠ "")
    (h : Clause.parseWith field query = .ok c) :
    (c = .boolean [] ∨ c.IsWellFormed) ∧ (∀ l ∈ c.leaves, ∃ f, l.field? = some f ∧ f ≠ "") ∧
      Nonempty (SyntaxTree (.alternatives true) query.toList []) ∧
      ∀ tree : SyntaxTree (.alternatives true) query.toList [],
        tree.clause field = c ∧ (c.isEmpty ↔ ∀ leaf ∈ tree.leaves, leaf.2.IsDropped) := by
  obtain ⟨hs, tree, hclause⟩ := parseWith_eq_ok_iff_exists_tree.mp h
  have hall (t : SyntaxTree (.alternatives true) query.toList []) : t.clause field = c :=
    Except.ok.inj ((parseWith_eq_ok_iff_exists_tree.mpr ⟨hs, t, rfl⟩).symm.trans h)
  refine ⟨hclause ▸ tree.isWellFormed_clause field, ?_, ⟨tree⟩, fun t => ⟨hall t, ?_⟩⟩
  · rw [← hclause]
    exact fun l => tree.field?_of_mem_leaves_clause hfield
  · rw [← hall t]
    exact t.isEmpty_clause_iff field

set_option maxRecDepth 4000 in
/-- A query of which analysis leaves nothing: a sign in front of a mark, and a group of marks. -/
theorem parse_shape_dropped : Clause.parseWith "body" "-- (\"...\")" = .ok (.boolean []) ∧
    ∃ tree : SyntaxTree (.alternatives true) "-- (\"...\")".toList [],
      ∀ leaf ∈ tree.leaves, leaf.2.IsDropped := by
  have hparse : Clause.parseWith "body" "-- (\"...\")" = .ok (.boolean []) := by
    with_unfolding_all rfl
  obtain ⟨-, -, ⟨tree⟩, hdropped⟩ := parse_shape (by decide) hparse
  exact ⟨hparse, tree, (hdropped tree).2.mp rfl⟩

end RegistrySearch.Query
