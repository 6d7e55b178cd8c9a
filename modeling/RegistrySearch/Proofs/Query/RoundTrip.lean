import RegistrySearch.Proofs.Query.Delimited
import RegistrySearch.Proofs.Query.Grammar
import RegistrySearch.Query.Printer

/-!
# Clauses are read as they are written

A clause whose names and texts need no escapes (`Clause.IsPrintable`) is written to a query that is
read back as the clause itself. The induction follows how the clause is built: a leaf is a name with
a value, a combination has its children as alternatives in parentheses, with a blank between each
two of them.
-/

namespace RegistrySearch.Query

open Text (IsTerm normalize)
open Unicode (isAlphanumeric ne_of_isAlphanumeric)

namespace Clause

/-- The names and texts of a clause need no escapes and are not changed by analysis, and every
combination has children that are not taken for something else: a child that stands alone has a
sign. -/
inductive IsPrintable : Clause → Prop where
  | term {field text : String} (hname : IsName field) (htext : IsTerm text) :
    IsPrintable (term field text)
  | phrase {field : String} {terms : List String} (hname : IsName field)
    (hterms : ∀ t ∈ terms, IsTerm t) (hseveral : 2 ≤ terms.length) :
    IsPrintable (phrase field terms)
  | wildcard {field pattern : String} (hname : IsName field)
    (hchars : ∀ c ∈ pattern.toList, isAlphanumeric c ∨ c = '*' ∨ c = '?')
    (hoperator : '*' ∈ pattern.toList ∨ '?' ∈ pattern.toList)
    (hnormal : normalize pattern = pattern) : IsPrintable (wildcard field pattern)
  | regexp {field pattern : String} (hname : IsName field) (hslash : '/' ∉ pattern.toList)
    (hclosed : isClosed pattern.toList) : IsPrintable (regexp field pattern)
  | range {field : String} {lower upper : Bound} (hname : IsName field) (hlower : lower.IsPlain)
    (hupper : upper.IsPlain) : IsPrintable (range field lower upper)
  | boolean {children : List (Occur × Clause)} (hne : children ≠ [])
    (hsigned : ∀ c, children ≠ [(.should, c)]) (hchildren : ∀ c ∈ children, IsPrintable c.2) :
    IsPrintable (boolean children)

/-! ### Leaves -/

theorem readsPrimary_phrase {field : String} {terms : List String} (hname : IsName field)
    (hterms : ∀ t ∈ terms, IsTerm t) (hseveral : 2 ≤ terms.length) :
    ReadsPrimary (phrase field terms).renderChars (phrase field terms) := by
  have hrender : (phrase field terms).renderChars = field.toList ++ ':' :: '"' ::
      ([' '].intercalate (terms.map String.toList) ++ ['"']) := by
    rw [renderChars]
    simp
  rw [hrender]
  refine readsPrimary_of_value hname fun rest _ => ?_
  have hquoted : readQuoted? ([' '].intercalate (terms.map String.toList) ++ '"' :: rest) =
      some ([' '].intercalate (terms.map String.toList), rest) := by
    refine readQuoted?_append fun c hc => ?_
    obtain rfl | ⟨w, hw, hc⟩ := Text.mem_intercalate hc
    · decide
    · obtain ⟨t, ht, rfl⟩ := List.mem_map.mp hw
      have halnum := (hterms t ht).alphanumeric c hc
      exact ⟨ne_of_isAlphanumeric halnum (by decide) (by decide),
        ne_of_isAlphanumeric halnum (by decide) (by decide)⟩
  rw [List.cons_append, List.append_assoc, List.singleton_append, readValue_phrase hquoted, phrase?,
    Text.analyze_intercalate hterms]
  match terms, hseveral with
  | t :: u :: terms, _ => rfl

theorem readsPrimary_wildcard {field pattern : String} (hname : IsName field)
    (hchars : ∀ c ∈ pattern.toList, isAlphanumeric c ∨ c = '*' ∨ c = '?')
    (hoperator : '*' ∈ pattern.toList ∨ '?' ∈ pattern.toList)
    (hnormal : normalize pattern = pattern) :
    ReadsPrimary (wildcard field pattern).renderChars (wildcard field pattern) := by
  rw [renderChars]
  refine readsPrimary_of_value hname fun rest hrest => ?_
  have hne : pattern.toList ≠ [] := by
    intro hnil
    rw [hnil] at hoperator
    exact hoperator.elim (List.not_mem_nil ·) (List.not_mem_nil ·)
  have hbare : ∀ c ∈ pattern.toList, isBare c := by
    intro c hc
    obtain halnum | rfl | rfl := hchars c hc
    · exact isBare_of_isAlphanumeric halnum
    · simp only [isBare, decide_true, Bool.or_true, Bool.true_or]
    · simp only [isBare, decide_true, Bool.or_true]
  have hwild : pattern.toList.any fun c => c = '*' || c = '?' := by
    rw [List.any_eq_true]
    obtain hstar | hmark := hoperator
    · exact ⟨'*', hstar, rfl⟩
    · exact ⟨'?', hmark, rfl⟩
  rw [readValue_word hne hbare hrest, clause?_wildcard hwild hnormal]

theorem readsPrimary_regexp {field pattern : String} (hname : IsName field)
    (hslash : '/' ∉ pattern.toList) (hclosed : isClosed pattern.toList) :
    ReadsPrimary (regexp field pattern).renderChars (regexp field pattern) := by
  have hrender : (regexp field pattern).renderChars =
      field.toList ++ ':' :: '/' :: (pattern.toList ++ ['/']) := by
    rw [renderChars]
    simp
  rw [hrender]
  refine readsPrimary_of_value hname fun rest _ => ?_
  rw [List.cons_append, List.append_assoc, List.singleton_append,
    readValue_regexp (readRegexp?_append hclosed hslash), String.ofList_toList]

theorem readsPrimary_range {field : String} {lower upper : Bound} (hname : IsName field)
    (hlower : lower.IsPlain) (hupper : upper.IsPlain) :
    ReadsPrimary (range field lower upper).renderChars (range field lower upper) := by
  have hrender : (range field lower upper).renderChars = field.toList ++ ':' ::
      (lower.renderLower ++ [' ', 'T', 'O', ' '] ++ upper.renderUpper) := by
    rw [renderChars]
    simp
  rw [hrender]
  refine readsPrimary_of_value hname fun rest _ => ?_
  have htext : lower.renderLower ++ [' ', 'T', 'O', ' '] ++ upper.renderUpper ++ rest =
      (if lower.isInclusive then '[' else '{') :: (lower.text ++ ' ' :: 'T' :: 'O' :: ' ' ::
        (upper.text ++ (if upper.isInclusive then ']' else '}') :: rest)) := by
    rw [Bound.renderLower_eq, Bound.renderUpper_eq]
    simp only [List.cons_append, List.append_assoc, List.nil_append]
  rw [htext, readValue_range fun s => readRange_text hlower hupper field s rest]

/-! ### Combinations -/

/-- A child as an operand. -/
def toItem (child : Occur × Clause) : Item :=
  ⟨if child.1 = .should then none else some child.1, child.2⟩

/-- The text of a child. -/
def renderChild (child : Occur × Clause) : List Char := child.1.sign ++ child.2.renderChars

/-- The texts of the children stand between parentheses, with blanks between them. -/
theorem renderChild_append_renderRest (child : Occur × Clause) (others : List (Occur × Clause)) :
    renderChild child ++ renderRest others =
      [' '].intercalate ((child :: others).map renderChild) ++ [')'] := by
  induction others generalizing child with
  | nil => rw [renderRest, List.map_singleton, List.intercalate_singleton]
  | cons other others ih =>
    have hrest : renderRest (other :: others) =
        ' ' :: (renderChild other ++ renderRest others) := by
      rw [renderRest, renderChild]
      rfl
    simp only [hrest, ih, List.map_cons, List.intercalate_cons_cons, List.append_assoc,
      List.cons_append, List.nil_append]

theorem readsOperand_child {child : Occur × Clause}
    (h : ReadsPrimary child.2.renderChars child.2) :
    ReadsOperand (renderChild child) (toItem child) := by
  obtain ⟨occur, c⟩ := child
  refine h.operand ?_
  cases occur <;> simp [signs, Occur.sign]

/-- Children are read as alternatives, since a blank joins two of them. -/
theorem readsAlternatives_children {children : List (Occur × Clause)} (hne : children ≠ [])
    (h : ∀ c ∈ children, ReadsPrimary c.2.renderChars c.2) :
    ReadsAlternatives ([' '].intercalate (children.map renderChild)) (children.map toItem) := by
  induction children with
  | nil => exact absurd rfl hne
  | cons child children ih =>
    have hchild := (readsOperand_child (h child List.mem_cons_self)).operands
    cases children with
    | nil =>
      rw [List.map_singleton, List.map_singleton, List.intercalate_singleton]
      exact hchild.alternatives rfl
    | cons other children =>
      have hothers := ih (List.cons_ne_nil _ _) fun c hc => h c (List.mem_cons_of_mem child hc)
      rw [List.map_cons, List.map_cons, List.intercalate_cons_cons, List.append_assoc]
      exact .cons hchild rfl (by decide) hothers

/-- Children that need no parentheses of their own are put together as they were. -/
theorem alternatives?_map_toItem {children : List (Occur × Clause)} (hne : children ≠ [])
    (hsigned : ∀ c, children ≠ [(.should, c)]) :
    alternatives? (children.map toItem) = some (.boolean children) := by
  have hmap : (children.map toItem).map Item.toAlternative = children := by
    rw [List.map_map]
    refine (List.map_congr_left fun child _ => ?_).trans (List.map_id' children)
    obtain ⟨occur, c⟩ := child
    cases occur <;> rfl
  match children, hne with
  | [(occur, c)], _ =>
    -- a single child is kept as a combination by its sign alone
    cases occur with
    | should => exact absurd rfl (hsigned c)
    | must => rfl
    | mustNot => rfl
  | c :: d :: children, _ => exact congrArg (fun l => some (Clause.boolean l)) hmap

theorem readsPrimary_boolean {children : List (Occur × Clause)} (hne : children ≠ [])
    (hsigned : ∀ c, children ≠ [(.should, c)])
    (h : ∀ c ∈ children, ReadsPrimary c.2.renderChars c.2) :
    ReadsPrimary (boolean children).renderChars (boolean children) := by
  have hrender : (boolean children).renderChars =
      '(' :: ([' '].intercalate (children.map renderChild) ++ [')']) := by
    obtain ⟨child, others, rfl⟩ := List.exists_cons_of_ne_nil hne
    rw [← renderChild_append_renderRest, renderChars, renderChild]
    rfl
  rw [hrender]
  exact (readsAlternatives_children hne h).group (alternatives?_map_toItem hne hsigned)

/-! ### Clauses -/

/-- The text of a printable clause is read as the clause. -/
theorem readsPrimary {c : Clause} (h : c.IsPrintable) : ReadsPrimary c.renderChars c := by
  induction h with
  | term hname htext =>
    rw [renderChars]
    exact readsPrimary_term hname htext
  | phrase hname hterms hseveral => exact readsPrimary_phrase hname hterms hseveral
  | wildcard hname hchars hoperator hnormal =>
    exact readsPrimary_wildcard hname hchars hoperator hnormal
  | regexp hname hslash hclosed => exact readsPrimary_regexp hname hslash hclosed
  | range hname hlower hupper => exact readsPrimary_range hname hlower hupper
  | boolean hne hsigned _ ih => exact readsPrimary_boolean hne hsigned ih

/-- **Round trip.** The text of a printable clause is parsed as the clause, and so is that of the
combination of nothing. -/
theorem parse_render (c : Clause) (h : c.IsPrintable ∨ c = .boolean []) :
    Clause.parse c.render = .ok c := by
  obtain h | rfl := h
  · have hsign : [] ∈ signs none := List.mem_cons_self
    have hoperand : ReadsOperand c.renderChars ⟨none, c⟩ := (readsPrimary h).operand hsign
    have hread : ReadsAlternatives c.render.toList [⟨none, c⟩] := by
      rw [render, String.toList_ofList]
      exact hoperand.operands.alternatives rfl
    exact hread.parse_eq rfl
  · with_unfolding_all rfl

/-- A combination with leaves of every kind. -/
private abbrev nested : Clause :=
  .boolean [(.must, .phrase "name" ["cas", "client"]),
    (.mustNot, .range "eval_order" .unbounded (.exclusive "-5")),
    (.should, .boolean [(.mustNot, .regexp "id" "\\d+ (x)")]),
    (.should, .wildcard "a.b" "c?s*"), (.should, .term "AND" "or")]

private theorem isPrintable_nested : nested.IsPrintable := by
  have hterms : ∀ t ∈ ["cas", "client"], IsTerm t := by decide +kernel
  have hbound : IsBoundText "-5" :=
    ⟨⟨['5'], by decide, List.all_eq_true.mp (by decide +kernel), .inr rfl⟩, by decide +kernel⟩
  have hchars : ∀ c ∈ "c?s*".toList, isAlphanumeric c ∨ c = '*' ∨ c = '?' := by
    change ∀ c ∈ ['c', '?', 's', '*'], _
    simp only [List.forall_mem_cons]
    exact ⟨.inl (by decide +kernel), .inr (.inr trivial), .inl (by decide +kernel),
      .inr (.inl trivial), List.forall_mem_nil _⟩
  refine .boolean (List.cons_ne_nil _ _) (fun c h => by cases h) ?_
  simp only [List.forall_mem_cons, List.not_mem_nil, false_implies, implies_true, and_true]
  refine ⟨.phrase (by decide) hterms (by decide), .range (by decide) trivial hbound,
    .boolean (List.cons_ne_nil _ _) (fun c h => by cases h) ?_,
    .wildcard (by decide) hchars (by decide) (by decide +kernel),
    .term (by decide) (by decide +kernel)⟩
  simp only [List.forall_mem_cons, List.not_mem_nil, false_implies, implies_true, and_true]
  exact .regexp (by decide) (by decide) rfl

theorem parse_render_nested : nested.IsPrintable ∧ Clause.parse nested.render = .ok nested :=
  ⟨isPrintable_nested, parse_render nested (.inl isPrintable_nested)⟩

end Clause

end RegistrySearch.Query
