import RegistrySearch.Proofs.Query.Continuation
import RegistrySearch.Proofs.Query.Truth

/-!
# Syntax trees

A syntax tree tells how a text is read: which signs, names and delimiters are where, and which words
and texts in delimiters are left at the leaves. It is the same whatever field is looked at by
default, and analysis has not yet taken anything away. `SyntaxTree p s rest` are the trees of a part
that the text `s` spells, up to the rest.

The clause of a text comes from the tree (`reads_iff_exists_tree`), where a name holds for all
leaves behind it that have no name of their own.
-/

namespace RegistrySearch.Query

open Text (analyze)

/-! ### Leaves -/

theorem Clause.leaves_boolean_eq_flatMap (children : List (Occur × Clause)) :
    (Clause.boolean children).leaves = children.flatMap fun c => c.2.leaves := by
  rw [Clause.leaves_boolean]
  induction children with
  | nil => rfl
  | cons c children ih => rw [Clause.leavesOf, ih, List.flatMap_cons]

/-- A word or a text in delimiters. -/
inductive Leaf where
  | word (w : Word)
  | phrase (text : List Char)
  | regexp (pattern : List Char)
  | range (lower upper : Bound)

namespace Leaf

/-- The clause of a leaf for a field, if analysis leaves any. -/
def clause? (field : String) : Leaf → Option Clause
  | word w => w.clause? field
  | phrase text => phrase? field text
  | regexp pattern => some (.regexp field (String.ofList pattern))
  | range lower upper => some (.range field lower upper)

/-- The leaves of the clause of a leaf: one for each term of a word. -/
def leaves (field : String) (leaf : Leaf) : List Clause :=
  (leaf.clause? field).toList.flatMap Clause.leaves

/-- Analysis leaves nothing of a leaf: it has no terms and is no pattern or range. -/
def IsDropped : Leaf → Prop
  | word w => w.isWildcard = false ∧ analyze w.text = []
  | phrase text => analyze (String.ofList text) = []
  | regexp _ | range _ _ => False

/-- The clause of a leaf looks at the field, and so does each term of a word. -/
theorem field?_of_mem_leaves {field : String} {leaf : Leaf} {c : Clause}
    (h : c ∈ leaf.leaves field) : c.field? = some field := by
  obtain ⟨clause, hclause, hc⟩ := List.mem_flatMap.mp h
  rw [Option.mem_toList] at hclause
  cases leaf with
  | word w =>
    rw [clause?, Word.clause?] at hclause
    split at hclause
    · cases hclause
      cases List.mem_singleton.mp hc
      rfl
    · split at hclause
      · cases hclause
      · cases hclause
        cases List.mem_singleton.mp hc
        rfl
      · cases hclause
        rw [Clause.leaves_boolean_eq_flatMap, List.flatMap_map, List.mem_flatMap] at hc
        obtain ⟨t, -, ht⟩ := hc
        cases List.mem_singleton.mp ht
        rfl
  | phrase text =>
    rw [clause?, phrase?] at hclause
    split at hclause
    · cases hclause
    all_goals
      cases hclause
      cases List.mem_singleton.mp hc
      rfl
  | regexp pattern | range lower upper =>
    cases hclause
    cases List.mem_singleton.mp hc
    rfl

end Leaf

/-! ### Trees -/

/-- The trees of a part of a query that a text spells up to the rest. -/
inductive SyntaxTree : Part → List Char → List Char → Type
  | finished {isFirst : Bool} {s : List Char} (h : skipBlanks s = []) :
    SyntaxTree (.alternatives isFirst) s []
  | closed {isFirst : Bool} {s rest : List Char} (h : skipBlanks s = ')' :: rest) :
    SyntaxTree (.alternatives isFirst) s (')' :: rest)
  | alternative {isFirst : Bool} {s t middle rest : List Char} {c : Char}
    (h : skipBlanks s = c :: t) (hc : c ≠ ')')
    (item : SyntaxTree .conjunction (alternative isFirst (c :: t)) middle)
    (others : SyntaxTree (.alternatives false) middle rest) :
    SyntaxTree (.alternatives isFirst) s rest
  | conjunction {s middle rest : List Char} (first : SyntaxTree .signed s middle)
    (others : SyntaxTree .operands middle rest) : SyntaxTree .conjunction s rest
  | last {s : List Char} (h : dropAnd? (skipBlanks s) = none) : SyntaxTree .operands s s
  | operand {s t middle rest : List Char} (h : dropAnd? (skipBlanks s) = some t)
    (first : SyntaxTree .signed t middle) (others : SyntaxTree .operands middle rest) :
    SyntaxTree .operands s rest
  | sign {s t rest : List Char} (occur : Occur) (h : dropSign? (skipBlanks s) = some (occur, t))
    (item : SyntaxTree .signed t rest) : SyntaxTree .signed s rest
  | unsigned {s rest : List Char} (h : dropSign? (skipBlanks s) = none)
    (clause : SyntaxTree .primary (skipBlanks s) rest) : SyntaxTree .signed s rest
  | delimited {s rest : List Char} (clause : SyntaxTree .enclosed s rest) :
    SyntaxTree .primary s rest
  | qualified {s t rest : List Char} (w : Word) (hs : BeginsWord s)
    (hstray : strayOperator? s = none) (hw : readWord s = .ok (w, ':' :: t))
    (clause : SyntaxTree .value t rest) : SyntaxTree .primary s rest
  | word {s rest : List Char} (w : Word) (hs : BeginsWord s) (hstray : strayOperator? s = none)
    (hw : readWord s = .ok (w, rest)) (hrest : rest.head? ≠ some ':') : SyntaxTree .primary s rest
  | delimitedValue {s rest : List Char} (clause : SyntaxTree .enclosed (skipBlanks s) rest) :
    SyntaxTree .value s rest
  | wordValue {s rest : List Char} (w : Word) (hs : BeginsWord (skipBlanks s))
    (hw : readWord (skipBlanks s) = .ok (w, rest)) : SyntaxTree .value s rest
  | group {s middle rest : List Char} (items : SyntaxTree (.alternatives true) s middle)
    (hclose : skipBlanks middle = ')' :: rest) : SyntaxTree .enclosed ('(' :: s) rest
  | phrase {s rest : List Char} (text : List Char) (h : readQuoted? s = some (text, rest)) :
    SyntaxTree .enclosed ('"' :: s) rest
  | regexp {s rest : List Char} (pattern : List Char) (h : readRegexp? s = some (pattern, rest)) :
    SyntaxTree .enclosed ('/' :: s) rest
  | range {s rest : List Char} {isInclusive : Bool} (lower upper : Bound)
    (h : ∀ field t, readRange field t isInclusive s = .ok (.range field lower upper, rest)) :
    SyntaxTree .enclosed ((if isInclusive then '[' else '{') :: s) rest

namespace SyntaxTree

variable {p : Part} {field : String} {s rest : List Char}

/-- What a tree is read as, for the field that is looked at by default. -/
def result (field : String) {p : Part} {s rest : List Char} : SyntaxTree p s rest → p.Result
  | finished _ | closed _ => []
  | alternative _ _ item others => (item.result field).toList ++ others.result field
  | conjunction first others => conjunction? ((first.result field).toList ++ others.result field)
  | last _ => []
  | operand _ first others => (first.result field).toList ++ others.result field
  | sign occur _ item => (item.result field).map fun i => ⟨some occur, i.toClause⟩
  | unsigned _ clause => (clause.result field).map fun c => ⟨none, c⟩
  | delimited clause => clause.result field
  | qualified w _ _ _ clause => clause.result w.text
  | word w _ _ _ _ => (Leaf.word w).clause? field
  | delimitedValue clause => clause.result field
  | wordValue w _ _ => (Leaf.word w).clause? field
  | group items _ => alternatives? (items.result field)
  | phrase text _ => (Leaf.phrase text).clause? field
  | regexp pattern _ => (Leaf.regexp pattern).clause? field
  | range lower upper _ => (Leaf.range lower upper).clause? field

/-- The clause of a whole query, for the field that is looked at by default. -/
def clause (field : String) (t : SyntaxTree (.alternatives true) s rest) : Clause :=
  (alternatives? (t.result field)).getD (.boolean [])

/-- The leaves of a tree, each with the innermost name in front of it. -/
def leaves {p : Part} {s rest : List Char} : SyntaxTree p s rest → List (Option String × Leaf)
  | finished _ | closed _ | last _ => []
  | alternative _ _ item others => item.leaves ++ others.leaves
  | conjunction first others | operand _ first others => first.leaves ++ others.leaves
  | sign _ _ item => item.leaves
  | unsigned _ clause | delimited clause | delimitedValue clause => clause.leaves
  | qualified w _ _ _ clause =>
    clause.leaves.map fun (name?, leaf) => (some (name?.getD w.text), leaf)
  | word w _ _ _ _ | wordValue w _ _ => [(none, .word w)]
  | group items _ => items.leaves
  | phrase text _ => [(none, .phrase text)]
  | regexp pattern _ => [(none, .regexp pattern)]
  | range lower upper _ => [(none, .range lower upper)]

/-- A tree is read as what it says, for any field. -/
theorem reads (t : SyntaxTree p s rest) (field : String) : Reads p field s (t.result field) rest := by
  induction t generalizing field with
  | finished h => exact .finished h
  | closed h => exact .closed h
  | alternative h hc item others ihitem ihothers =>
    exact .alternative h hc (ihitem field) (ihothers field)
  | conjunction first others ihfirst ihothers => exact .conjunction (ihfirst field) (ihothers field)
  | last h => exact .last h
  | operand h first others ihfirst ihothers => exact .operand h (ihfirst field) (ihothers field)
  | sign occur h item ih => exact .sign h (ih field)
  | unsigned h clause ih => exact .unsigned h (ih field)
  | delimited clause ih => exact .delimited (ih field)
  | qualified w hs hstray hw clause ih => exact .qualified hs hstray hw (ih w.text)
  | word w hs hstray hw hrest => exact .word hs hstray hw hrest
  | delimitedValue clause ih => exact .delimitedValue (ih field)
  | wordValue w hs hw => exact .wordValue hs hw
  | group items hclose ih => exact .group (ih field) hclose
  | phrase text h => exact .phrase h
  | regexp pattern h => exact .regexp h
  | range lower upper h => exact .range (t := []) (h field [])

end SyntaxTree

/-- What is read is what a syntax tree gives. -/
theorem Reads.exists_tree {p : Part} {field : String} {s rest : List Char} {x : p.Result}
    (h : Reads p field s x rest) : ∃ t : SyntaxTree p s rest, t.result field = x := by
  induction h with
  | finished h => exact ⟨.finished h, rfl⟩
  | closed h => exact ⟨.closed h, rfl⟩
  | alternative h hc hitem hitems ihitem ihitems =>
    obtain ⟨item, rfl⟩ := ihitem
    obtain ⟨others, rfl⟩ := ihitems
    exact ⟨.alternative h hc item others, rfl⟩
  | conjunction hfirst hothers ihfirst ihothers =>
    obtain ⟨first, rfl⟩ := ihfirst
    obtain ⟨others, rfl⟩ := ihothers
    exact ⟨.conjunction first others, rfl⟩
  | last h => exact ⟨.last h, rfl⟩
  | operand h hoperand hothers ihoperand ihothers =>
    obtain ⟨first, rfl⟩ := ihoperand
    obtain ⟨others, rfl⟩ := ihothers
    exact ⟨.operand h first others, rfl⟩
  | sign h hitem ih =>
    obtain ⟨item, rfl⟩ := ih
    exact ⟨.sign _ h item, rfl⟩
  | unsigned h hclause ih =>
    obtain ⟨clause, rfl⟩ := ih
    exact ⟨.unsigned h clause, rfl⟩
  | delimited h ih =>
    obtain ⟨clause, rfl⟩ := ih
    exact ⟨.delimited clause, rfl⟩
  | qualified hs hstray hw h ih =>
    obtain ⟨clause, rfl⟩ := ih
    exact ⟨.qualified _ hs hstray hw clause, rfl⟩
  | word hs hstray hw hrest => exact ⟨.word _ hs hstray hw hrest, rfl⟩
  | delimitedValue h ih =>
    obtain ⟨clause, rfl⟩ := ih
    exact ⟨.delimitedValue clause, rfl⟩
  | wordValue hs hw => exact ⟨.wordValue _ hs hw, rfl⟩
  | group h hclose ih =>
    obtain ⟨items, rfl⟩ := ih
    exact ⟨.group items hclose, rfl⟩
  | phrase h => exact ⟨.phrase _ h, rfl⟩
  | regexp h => exact ⟨.regexp _ h, rfl⟩
  | range h =>
    obtain ⟨lower, upper, closes, t, u, v, hlower, hto, hupper, hclose, rfl⟩ :=
      readRange_eq_ok_iff.mp h
    exact ⟨.range _ _ fun field t => readRange_eq_ok_iff.mpr
      ⟨lower, upper, closes, _, _, _, hlower, hto, hupper, hclose, rfl⟩, rfl⟩

/-- What is read of a part for one field is what its tree says, and so for every other field. -/
theorem reads_iff_exists_tree {p : Part} {field : String} {s rest : List Char} {x : p.Result} :
    Reads p field s x rest ↔ ∃ t : SyntaxTree p s rest, t.result field = x :=
  ⟨Reads.exists_tree, fun ⟨t, ht⟩ => ht ▸ t.reads field⟩

/-! ### The leaves of what is read -/

theorem Item.leaves_toClause (i : Item) : i.toClause.leaves = i.clause.leaves := by
  rw [Item.toClause]
  cases i.occur with
  | none => rfl
  | some occur => rw [Clause.leaves_boolean_eq_flatMap, List.flatMap_singleton]

theorem leaves_alternatives? (items : List Item) :
    (alternatives? items).toList.flatMap Clause.leaves = items.flatMap fun i => i.clause.leaves := by
  match items with
  | [] => rfl
  | [i] =>
    rw [alternatives?, Option.toList_some, List.flatMap_singleton, List.flatMap_singleton,
      Item.leaves_toClause]
  | i :: j :: items =>
    have hseveral : alternatives? (i :: j :: items) =
        some (.boolean ((i :: j :: items).map Item.toAlternative)) := rfl
    rw [hseveral, Option.toList_some, List.flatMap_singleton, Clause.leaves_boolean_eq_flatMap,
      List.flatMap_map]
    rfl

theorem leaves_conjunction? (items : List Item) :
    ((conjunction? items).toList.flatMap fun i => i.clause.leaves) =
      items.flatMap fun i => i.clause.leaves := by
  match items with
  | [] => rfl
  | [i] => rfl
  | i :: j :: items =>
    have hseveral : conjunction? (i :: j :: items) =
        some ⟨none, .boolean ((i :: j :: items).map Item.toOperand)⟩ := rfl
    rw [hseveral, Option.toList_some, List.flatMap_singleton, Clause.leaves_boolean_eq_flatMap,
      List.flatMap_map]
    rfl

/-- The leaves of what a part is read as. -/
def Part.leaves : (p : Part) → p.Result → List Clause
  | alternatives _, items | operands, items => items.flatMap fun i => i.clause.leaves
  | conjunction, item | signed, item => item.toList.flatMap fun i => i.clause.leaves
  | primary, clause | value, clause | enclosed, clause => clause.toList.flatMap Clause.leaves

namespace SyntaxTree

variable {p : Part} {s rest : List Char}

/-- The leaves of what a tree is read as are those of the tree, each in the field of its name. -/
theorem leaves_result (t : SyntaxTree p s rest) (field : String) :
    p.leaves (t.result field) =
      t.leaves.flatMap fun (name?, leaf) => leaf.leaves (name?.getD field) := by
  induction t generalizing field with
  | finished h | closed h | last h => rfl
  | alternative h hc item others ihitem ihothers =>
    rw [leaves, List.flatMap_append, ← ihitem, ← ihothers]
    exact List.flatMap_append
  | conjunction first others ihfirst ihothers =>
    rw [leaves, List.flatMap_append, ← ihfirst, ← ihothers]
    exact (leaves_conjunction? _).trans List.flatMap_append
  | operand h first others ihfirst ihothers =>
    rw [leaves, List.flatMap_append, ← ihfirst, ← ihothers]
    exact List.flatMap_append
  | sign occur h item ih =>
    rw [leaves, ← ih, result]
    cases item.result field with
    | none => rfl
    | some i => exact congrArg (· ++ []) (Item.leaves_toClause i)
  | unsigned h clause ih =>
    rw [leaves, ← ih, result]
    cases clause.result field <;> rfl
  | delimited clause ih => exact ih field
  | qualified w hs hstray hw clause ih =>
    rw [leaves, List.flatMap_map]
    exact ih w.text
  | word w hs hstray hw hrest => exact (List.append_nil _).symm
  | delimitedValue clause ih => exact ih field
  | wordValue w hs hw => exact (List.append_nil _).symm
  | group items hclose ih => exact (leaves_alternatives? _).trans (ih field)
  | phrase text h => exact (List.append_nil _).symm
  | regexp pattern h => exact (List.append_nil _).symm
  | range lower upper h => exact (List.append_nil _).symm

/-- So are the leaves of the clause of a whole query. -/
theorem leaves_clause (t : SyntaxTree (.alternatives true) s rest) (field : String) :
    (t.clause field).leaves =
      t.leaves.flatMap fun (name?, leaf) => leaf.leaves (name?.getD field) := by
  rw [← leaves_result, clause, Part.leaves, ← leaves_alternatives?]
  cases alternatives? (t.result field) with
  | none => rfl
  | some c => exact (List.append_nil _).symm

end SyntaxTree

end RegistrySearch.Query
