import Mathlib.Logic.Basic
import RegistrySearch.Pattern.Basic
import RegistrySearch.Query.Paths

/-!
# Truth of clauses

Whether a clause holds follows from which of its leaves hold (`Clause.Holds`). A boolean clause
holds when all its required children do and no excluded one does; where no child is required, one of
the optional ones has to hold. Children are lists of clauses, so induction on clauses goes through
`Clause.induct`, which has all children at once.
-/

namespace RegistrySearch.Query

/-- What a boolean clause makes of the truth of its children: all required ones hold, no excluded
one does, and there is a required child or an optional one that holds. -/
def Decides (children : List (Occur × Prop)) : Prop :=
  (∀ c ∈ children, c.1 = .must → c.2) ∧ (∀ c ∈ children, c.1 = .mustNot → ¬c.2) ∧
    ((∃ c ∈ children, c.1 = .must) ∨ ∃ c ∈ children, c.1 = .should ∧ c.2)

namespace Clause

mutual

/-- The leaves of a clause, from left to right. -/
def leaves : Clause → List Clause
  | boolean children => leavesOf children
  | leaf => [leaf]

/-- The leaves of children, from left to right. -/
def leavesOf : List (Occur × Clause) → List Clause
  | [] => []
  | (_, child) :: rest => leaves child ++ leavesOf rest

end

/-- Whether the pattern of a leaf is one. Other leaves have none. -/
def compiles : Clause → Bool
  | wildcard _ pattern => (Pattern.wildcard? pattern).isSome
  | regexp _ pattern => (Pattern.regexp? pattern).isSome
  | _ => true

/-- Every pattern of a clause is one, whatever part its leaf has in the clause. -/
def PatternsCompile (c : Clause) : Prop := ∀ leaf ∈ c.leaves, leaf.compiles

mutual

/-- The truth of a clause, from that of its leaves. -/
def Holds (holds : Clause → Prop) : Clause → Prop
  | boolean children => Decides (verdicts holds children)
  | leaf => holds leaf

/-- The truth of children, from that of their leaves. -/
def verdicts (holds : Clause → Prop) : List (Occur × Clause) → List (Occur × Prop)
  | [] => []
  | (occur, child) :: rest => (occur, Holds holds child) :: verdicts holds rest

end

/-! ### Induction -/

/-- **Induction on clauses.** A property of the leaves that passes from all children to a boolean
clause is one of all clauses. -/
theorem induct {motive : Clause → Prop} (leaf : ∀ c field, c.field? = some field → motive c)
    (boolean : ∀ children, (∀ c ∈ children, motive c.2) → motive (.boolean children))
    (c : Clause) : motive c := by
  refine @Clause.rec motive (fun children => ∀ c ∈ children, motive c.2)
    (fun child => motive child.2) ?term ?phrase ?wildcard ?regexp ?range boolean ?nil ?cons ?mk c
  case term | phrase | wildcard | regexp | range => intros; exact leaf _ _ rfl
  case nil => exact List.forall_mem_nil _
  case cons => exact fun _ _ ihc ihr => List.forall_mem_cons.mpr ⟨ihc, ihr⟩
  case mk => exact fun _ _ ih => ih

theorem leaves_leaf {c : Clause} {field : String} (h : c.field? = some field) :
    c.leaves = [c] := by
  cases c with
  | boolean => cases h
  | term | phrase | wildcard | regexp | range => rfl

theorem leaves_boolean {children : List (Occur × Clause)} :
    (boolean children).leaves = leavesOf children := rfl

theorem mem_leavesOf {children : List (Occur × Clause)} {leaf : Clause} :
    leaf ∈ leavesOf children ↔ ∃ c ∈ children, leaf ∈ c.2.leaves := by
  induction children with
  | nil => simp [leavesOf]
  | cons c rest ih => simp [leavesOf, ih]

/-- A leaf of a clause has a field. -/
theorem field?_of_mem_leaves {c leaf : Clause} (h : leaf ∈ c.leaves) :
    ∃ field, leaf.field? = some field := by
  induction c using induct with
  | leaf c field hf =>
    rw [leaves_leaf hf, List.mem_singleton] at h
    exact ⟨field, h ▸ hf⟩
  | boolean children ih =>
    obtain ⟨c, hc, hl⟩ := mem_leavesOf.mp h
    exact ih c hc hl

theorem forall_mem_leaves_leaf {P : Clause → Prop} {c : Clause} {field : String}
    (h : c.field? = some field) : (∀ leaf ∈ c.leaves, P leaf) ↔ P c := by
  rw [leaves_leaf h, List.forall_mem_singleton]

theorem forall_mem_leaves_boolean {P : Clause → Prop} {children : List (Occur × Clause)} :
    (∀ leaf ∈ (boolean children).leaves, P leaf) ↔ ∀ c ∈ children, ∀ leaf ∈ c.2.leaves, P leaf := by
  simp only [leaves_boolean, mem_leavesOf]
  exact ⟨fun h c hc leaf hl => h leaf ⟨c, hc, hl⟩, fun h leaf ⟨c, hc, hl⟩ => h c hc leaf hl⟩

theorem patternsCompile_leaf {c : Clause} {field : String} (h : c.field? = some field) :
    c.PatternsCompile ↔ c.compiles :=
  forall_mem_leaves_leaf h

theorem patternsCompile_boolean {children : List (Occur × Clause)} :
    (boolean children).PatternsCompile ↔ ∀ c ∈ children, c.2.PatternsCompile :=
  forall_mem_leaves_boolean

/-! ### Truth -/

variable {holds holds' : Clause → Prop}

theorem holds_leaf {c : Clause} {field : String} (h : c.field? = some field) :
    c.Holds holds = holds c := by
  cases c with
  | boolean => cases h
  | term | phrase | wildcard | regexp | range => rfl

theorem verdicts_eq_map (children : List (Occur × Clause)) :
    verdicts holds children = children.map fun c => (c.1, c.2.Holds holds) := by
  induction children with
  | nil => rfl
  | cons c rest ih => rw [verdicts, ih, List.map_cons]

theorem holds_boolean {children : List (Occur × Clause)} :
    (boolean children).Holds holds ↔
      (∀ c ∈ children, c.1 = .must → c.2.Holds holds) ∧
      (∀ c ∈ children, c.1 = .mustNot → ¬c.2.Holds holds) ∧
      ((∃ c ∈ children, c.1 = .must) ∨ ∃ c ∈ children, c.1 = .should ∧ c.2.Holds holds) := by
  simp only [Holds, verdicts_eq_map, Decides, List.mem_map, forall_exists_index, and_imp,
    forall_apply_eq_imp_iff₂, exists_exists_and_eq_and]

/-- The truth of a clause depends on that of its leaves alone. -/
theorem holds_congr {c : Clause} (h : ∀ leaf ∈ c.leaves, holds leaf ↔ holds' leaf) :
    c.Holds holds ↔ c.Holds holds' := by
  induction c using induct with
  | leaf c field hf =>
    rw [holds_leaf hf, holds_leaf hf]
    exact (forall_mem_leaves_leaf hf).mp h
  | boolean children ih =>
    have hc : ∀ c ∈ children, (c.2.Holds holds ↔ c.2.Holds holds') := fun c hc =>
      ih c hc (forall_mem_leaves_boolean.mp h c hc)
    rw [holds_boolean, holds_boolean]
    refine and_congr (forall₂_congr fun c hm => ?_) (and_congr (forall₂_congr fun c hm => ?_)
      (or_congr_right (exists_congr fun c => and_congr_right fun hm => ?_)))
    all_goals rw [hc c hm]

/-- A clause that holds has a leaf that holds: exclusions alone make nothing true. -/
theorem exists_leaf_of_holds {c : Clause} (h : c.Holds holds) : ∃ leaf ∈ c.leaves, holds leaf := by
  induction c using induct with
  | leaf c field hf =>
    rw [holds_leaf hf] at h
    exact ⟨c, by rw [leaves_leaf hf]; exact List.mem_singleton_self c, h⟩
  | boolean children ih =>
    have hchild : ∃ c ∈ children, c.2.Holds holds := by
      obtain ⟨hmust, -, ⟨c, hc, ho⟩ | ⟨c, hc, -, hs⟩⟩ := holds_boolean.mp h
      · exact ⟨c, hc, hmust c hc ho⟩
      · exact ⟨c, hc, hs⟩
    obtain ⟨c, hc, hs⟩ := hchild
    obtain ⟨leaf, hl, hh⟩ := ih c hc hs
    exact ⟨leaf, mem_leavesOf.mpr ⟨c, hc, hl⟩, hh⟩

end Clause

end RegistrySearch.Query
