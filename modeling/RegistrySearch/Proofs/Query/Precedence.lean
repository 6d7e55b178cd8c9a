import RegistrySearch.Proofs.Query.Grammar

/-!
# Precedence of the operators

An `Expression` is built from clauses with a field by negation, conjunction, alternatives and
parentheses. However its operators are spelled (`Expression.IsWritten`), the query for it has one
clause: a conjunction binds tighter than alternatives, a negation goes with the clause right behind
it, and what stands side by side on one level ends up in one combination.
-/

namespace RegistrySearch.Query

open Text (IsTerm)

/-! ### Expressions -/

/-- The name of a field and a word that is its only term. -/
structure Atom where
  field : String
  word : String
  isName : IsName field
  isTerm : IsTerm word

mutual

/-- Alternatives, one or more. -/
inductive Expression where
  | chain (c : Chain)
  | or (c : Chain) (e : Expression)

/-- A conjunction of operands, one or more, each negated or not. -/
inductive Chain where
  | operand (isNegated : Bool) (p : Primary)
  | and (isNegated : Bool) (p : Primary) (c : Chain)

/-- What a negation can stand in front of. -/
inductive Primary where
  | atom (a : Atom)
  | group (e : Expression)

end

/-- The sign of an operand: a negated one is excluded. -/
def negation (isNegated : Bool) : Option Occur := if isNegated then some .mustNot else none

mutual

/-- The texts of an expression: every operator in any of its spellings. -/
inductive Expression.IsWritten : Expression → List Char → Prop
  | chain {c : Chain} {s : List Char} (hc : Chain.IsWritten c s) :
    Expression.IsWritten (.chain c) s
  | or {c : Chain} {e : Expression} {s operator t : List Char} (hc : Chain.IsWritten c s)
    (hoperator : operator ∈ ors) (he : Expression.IsWritten e t) :
    Expression.IsWritten (.or c e) (s ++ (operator ++ t))

/-- The texts of a conjunction. -/
inductive Chain.IsWritten : Chain → List Char → Prop
  | operand {isNegated : Bool} {p : Primary} {sign s : List Char}
    (hsign : sign ∈ signs (negation isNegated)) (hp : Primary.IsWritten p s) :
    Chain.IsWritten (.operand isNegated p) (sign ++ s)
  | and {isNegated : Bool} {p : Primary} {c : Chain} {sign s operator t : List Char}
    (hsign : sign ∈ signs (negation isNegated)) (hp : Primary.IsWritten p s)
    (hoperator : operator ∈ ands) (hc : Chain.IsWritten c t) :
    Chain.IsWritten (.and isNegated p c) (sign ++ s ++ (operator ++ t))

/-- The texts of an atom and of a group. -/
inductive Primary.IsWritten : Primary → List Char → Prop
  | atom (a : Atom) : Primary.IsWritten (.atom a) (a.field.toList ++ ':' :: a.word.toList)
  | group {e : Expression} {s : List Char} (he : Expression.IsWritten e s) :
    Primary.IsWritten (.group e) ('(' :: (s ++ [')']))

end

/-! ### Clauses of expressions -/

/-- A clause and whether it is negated. -/
structure Signed where
  isNegated : Bool
  clause : Clause

namespace Signed

/-- A child of a combination: excluded if it is negated. -/
def toChild (occur : Occur) (signed : Signed) : Occur × Clause :=
  (if signed.isNegated then .mustNot else occur, signed.clause)

/-- An item of the reader. -/
def toItem (signed : Signed) : Item := ⟨negation signed.isNegated, signed.clause⟩

end Signed

/-- One operand alone stays as it is. Several are combined, and each is required. -/
def conjoin : List Signed → Signed
  | [operand] => operand
  | operands => ⟨false, .boolean (operands.map (Signed.toChild .must))⟩

/-- One alternative alone is its clause, below a combination if it is negated. Several are combined,
and each is one of the choices. -/
def disjoin : List Signed → Clause
  | [⟨isNegated, c⟩] => if isNegated then .boolean [(.mustNot, c)] else c
  | alternatives => .boolean (alternatives.map (Signed.toChild .should))

mutual

/-- The chains of an expression. -/
def Expression.alternatives : Expression → List Signed
  | .chain c => [conjoin c.operands]
  | .or c e => conjoin c.operands :: e.alternatives

/-- The operands of a chain. -/
def Chain.operands : Chain → List Signed
  | .operand isNegated p => [⟨isNegated, p.clause⟩]
  | .and isNegated p c => ⟨isNegated, p.clause⟩ :: c.operands

/-- The clause of an atom is its term, that of a group the clause of the expression. -/
def Primary.clause : Primary → Clause
  | .atom a => .term a.field a.word
  | .group e => disjoin e.alternatives

end

/-- The clause of an expression. -/
def Expression.clause (e : Expression) : Clause := disjoin e.alternatives

theorem Chain.operands_ne_nil (c : Chain) : c.operands ≠ [] := by
  cases c <;> rw [operands] <;> exact List.cons_ne_nil _ _

theorem Expression.alternatives_ne_nil (e : Expression) : e.alternatives ≠ [] := by
  cases e <;> rw [alternatives] <;> exact List.cons_ne_nil _ _

/-! ### Items -/

/-- The reader makes children of items as combinations do. -/
theorem map_toItem {child : Item → Occur × Clause} {occur : Occur}
    (h : ∀ isNegated c, child ⟨negation isNegated, c⟩ = Signed.toChild occur ⟨isNegated, c⟩)
    (l : List Signed) : (l.map Signed.toItem).map child = l.map (Signed.toChild occur) := by
  rw [List.map_map]
  exact List.map_congr_left fun signed _ => h signed.isNegated signed.clause

theorem conjunction?_map_toItem {operands : List Signed} (h : operands ≠ []) :
    conjunction? (operands.map Signed.toItem) = some (conjoin operands).toItem := by
  have hmap : (operands.map Signed.toItem).map Item.toOperand =
      operands.map (Signed.toChild .must) :=
    map_toItem (fun isNegated c => by cases isNegated <;> rfl) operands
  match operands, h with
  | [operand], _ => rfl
  | first :: second :: operands, _ =>
    exact congrArg (fun l => some (⟨none, .boolean l⟩ : Item)) hmap

theorem alternatives?_map_toItem {alternatives : List Signed} (h : alternatives ≠ []) :
    alternatives? (alternatives.map Signed.toItem) = some (disjoin alternatives) := by
  have hmap : (alternatives.map Signed.toItem).map Item.toAlternative =
      alternatives.map (Signed.toChild .should) :=
    map_toItem (fun isNegated c => by cases isNegated <;> rfl) alternatives
  match alternatives, h with
  | [⟨isNegated, c⟩], _ => cases isNegated <;> rfl
  | first :: second :: alternatives, _ => exact congrArg (fun l => some (Clause.boolean l)) hmap

/-! ### Reading -/

-- The induction is on how a text is written. A chain hands over its operands and no clause, since
-- the reader combines them only when all of them are there.
mutual

/-- A text of an expression is read as the items of its chains. -/
theorem Expression.readsAlternatives {e : Expression} {s : List Char} (h : e.IsWritten s) :
    ReadsAlternatives s (e.alternatives.map Signed.toItem) := by
  cases h with
  | @chain c _ hc =>
    rw [Expression.alternatives, List.map_singleton]
    exact (Chain.readsOperands hc).alternatives (conjunction?_map_toItem c.operands_ne_nil)
  | @or c e _ _ _ hc hoperator he =>
    rw [Expression.alternatives, List.map_cons]
    exact .cons (Chain.readsOperands hc) (conjunction?_map_toItem c.operands_ne_nil) hoperator
      (Expression.readsAlternatives he)

/-- A text of a chain is read as the items of its operands. -/
theorem Chain.readsOperands {c : Chain} {s : List Char} (h : c.IsWritten s) :
    ReadsOperands s (c.operands.map Signed.toItem) := by
  cases h with
  | operand hsign hp =>
    rw [Chain.operands, List.map_singleton]
    exact ((Primary.readsPrimary hp).operand hsign).operands
  | and hsign hp hoperator hc =>
    rw [Chain.operands, List.map_cons]
    exact .cons ((Primary.readsPrimary hp).operand hsign) hoperator (Chain.readsOperands hc)

/-- A text of a primary is read as its clause. -/
theorem Primary.readsPrimary {p : Primary} {s : List Char} (h : p.IsWritten s) :
    ReadsPrimary s p.clause := by
  cases h with
  | atom a =>
    rw [Primary.clause]
    exact readsPrimary_term a.isName a.isTerm
  | @group e _ he =>
    rw [Primary.clause]
    exact (Expression.readsAlternatives he).group
      (alternatives?_map_toItem e.alternatives_ne_nil)

end

/-- **Precedence.** Whatever spellings are chosen for the operators of an expression, the query is
parsed as the clause of the expression. -/
theorem Expression.parse_of_isWritten (e : Expression) (query : String)
    (h : e.IsWritten query.toList) : Clause.parse query = .ok e.clause :=
  (Expression.readsAlternatives h).parse_eq (alternatives?_map_toItem e.alternatives_ne_nil)

section mixed

private abbrev cas : Atom := ⟨"name", "cas", by decide, by decide +kernel⟩

private abbrev client : Atom := ⟨"name", "client", by decide, by decide +kernel⟩

private abbrev core : Atom := ⟨"tier", "core", by decide, by decide +kernel⟩

/-- Three levels, and every negation spelled in its own way. -/
private abbrev mixed : Expression :=
  .or (.and false (.atom cas) (.operand true (.atom client)))
    (.chain (.operand true (.group
      (.or (.operand false (.atom core)) (.chain (.operand true (.atom cas)))))))

private theorem isWritten_mixed :
    mixed.IsWritten "name:cas && NOT name:client OR -(tier:core !name:cas)".toList := by
  have hnone : [] ∈ signs (negation false) := by decide
  have hnot : ['N', 'O', 'T', ' '] ∈ signs (negation true) := by decide
  have hmark : ['!'] ∈ signs (negation true) := by decide
  have hminus : ['-'] ∈ signs (negation true) := by decide
  have hand : [' ', '&', '&', ' '] ∈ ands := by decide
  have hor : [' ', 'O', 'R', ' '] ∈ ors := by decide
  have hblank : [' '] ∈ ors := by decide
  have hfirst : Chain.IsWritten (.and false (.atom cas) (.operand true (.atom client)))
      "name:cas && NOT name:client".toList :=
    .and hnone (.atom cas) hand (.operand hnot (.atom client))
  have hgroup : Expression.IsWritten
      (.or (.operand false (.atom core)) (.chain (.operand true (.atom cas))))
      "tier:core !name:cas".toList :=
    .or (.operand hnone (.atom core)) hblank (.chain (.operand hmark (.atom cas)))
  exact .or hfirst hor (.chain (.operand hminus (.group hgroup)))

theorem Expression.parse_of_isWritten_mixed :
    mixed.IsWritten "name:cas && NOT name:client OR -(tier:core !name:cas)".toList ∧
      Clause.parse "name:cas && NOT name:client OR -(tier:core !name:cas)" = .ok (.boolean
        [(.should, .boolean [(.must, .term "name" "cas"), (.mustNot, .term "name" "client")]),
          (.mustNot, .boolean [(.should, .term "tier" "core"), (.mustNot, .term "name" "cas")])]) :=
  ⟨isWritten_mixed, Expression.parse_of_isWritten mixed _ isWritten_mixed⟩

end mixed

end RegistrySearch.Query
