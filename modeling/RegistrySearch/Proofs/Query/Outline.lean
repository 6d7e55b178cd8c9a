import Mathlib.Data.List.Basic
import RegistrySearch.Proofs.Query.Truth
import RegistrySearch.Proofs.Text.Runs
import RegistrySearch.Query.Tree
import RegistrySearch.Text.Split

/-!
# The outline of a drawn clause

A clause is drawn with one line for every clause in it, in the order in which one meets them on the
way down and from left to right. A clause inside another one has an **address**, the places of the
children on the way to it; the order of the lines is that of the addresses. In front of the entry of
a line stands one unit of four columns for every step on the way: a branch for the last step and an
indentation for each of the others. So the lines tell how deep their clauses lie, and the depths
tell the addresses (`Clause.addresses_eq_of_depths`).

Lines can be told from each other only if the texts of a clause have no line breaks, which is a part
of `Clause.IsDrawable`.
-/

namespace RegistrySearch.Query

/-- A step from a combination to one of its children. -/
structure Step where
  /-- Whether the child is the last one. -/
  isLast : Bool
  /-- How the child takes part in the combination. -/
  occur : Occur

/-- What stands in front of the entry of a line, for the steps that lead to its clause. -/
def rules (steps : List Step) : List Char :=
  steps.dropLast.flatMap (fun step => indentation step.isLast) ++
    steps.getLast?.elim [] fun step => branch step.isLast

namespace Clause

/-! ### Addresses -/

/-- The clause at an address, with the steps that lead to it. An address has the places of the
children on the way. -/
def follow? : Clause → List Nat → Option (List Step × Clause)
  | c, [] => some ([], c)
  | boolean children, i :: address =>
    children[i]?.bind fun child => (follow? child.2 address).map fun found =>
      (⟨i + 1 = children.length, child.1⟩ :: found.1, found.2)
  | _, _ :: _ => none

mutual

/-- The addresses of a clause and of the clauses in it, in the order of the lines. -/
def addresses : Clause → List (List Nat)
  | boolean children => [] :: addressesOf 0 children
  | _ => [[]]

/-- The addresses of children and of the clauses in them, where `i` is the place of the first child.
-/
def addressesOf (i : Nat) : List (Occur × Clause) → List (List Nat)
  | [] => []
  | (_, child) :: rest => (addresses child).map (i :: ·) ++ addressesOf (i + 1) rest

end

/-- The children of a clause. -/
def children : Clause → List (Occur × Clause)
  | boolean children => children
  | _ => []

/-- The line of a clause behind the steps that lead to it. -/
def line (steps : List Step) (c : Clause) : List Char :=
  rules steps ++ steps.getLast?.elim (c.label false) fun step =>
    step.occur.label false ++ ' ' :: c.label false

/-- The line of the clause at an address. -/
def line? (c : Clause) (address : List Nat) : Option (List Char) :=
  (c.follow? address).map fun found => line found.1 found.2

variable {c d : Clause} {children : List (Occur × Clause)} {address : List Nat} {i : Nat}

theorem follow?_nil (c : Clause) : c.follow? [] = some ([], c) := by
  cases c <;> rfl

theorem follow?_boolean_cons : (boolean children).follow? (i :: address) =
    children[i]?.bind fun child => (child.2.follow? address).map fun found =>
      (⟨i + 1 = children.length, child.1⟩ :: found.1, found.2) := rfl

theorem follow?_leaf_cons {field : String} (h : c.field? = some field) :
    c.follow? (i :: address) = none := by
  cases c with
  | boolean => cases h
  | term | phrase | wildcard | regexp | range => rfl

/-- Only a boolean has something at an address of one step or more. -/
theorem exists_of_follow?_cons {steps : List Step}
    (h : c.follow? (i :: address) = some (steps, d)) :
    ∃ children child rest, c = boolean children ∧ children[i]? = some child ∧
      child.2.follow? address = some (rest, d) ∧
      steps = ⟨i + 1 = children.length, child.1⟩ :: rest := by
  cases c with
  | boolean children =>
    rw [follow?_boolean_cons, Option.bind_eq_some_iff] at h
    obtain ⟨child, hi, h⟩ := h
    obtain ⟨⟨rest, d'⟩, hfound, h⟩ := Option.map_eq_some_iff.mp h
    cases h
    exact ⟨children, child, rest, rfl, hi, hfound, rfl⟩
  | term | phrase | wildcard | regexp | range => cases h

theorem addresses_leaf {field : String} (h : c.field? = some field) : c.addresses = [[]] := by
  cases c with
  | boolean => cases h
  | term | phrase | wildcard | regexp | range => rfl

theorem addresses_boolean : (boolean children).addresses = [] :: addressesOf 0 children := rfl

/-- The first address is that of the clause itself. -/
theorem addresses_eq_cons (c : Clause) : c.addresses = [] :: c.addresses.tail := by
  cases c <;> rfl

theorem mem_addressesOf {k : Nat} : address ∈ addressesOf k children ↔
    ∃ i child rest, children[i]? = some child ∧ rest ∈ child.2.addresses ∧
      address = (k + i) :: rest := by
  induction children generalizing k with
  | nil => simp [addressesOf]
  | cons child children ih =>
    rw [addressesOf, List.mem_append, List.mem_map, ih]
    constructor
    · rintro (⟨rest, hrest, rfl⟩ | ⟨i, child', rest, hi, hrest, rfl⟩)
      · exact ⟨0, child, rest, rfl, hrest, rfl⟩
      · refine ⟨i + 1, child', rest, hi, hrest, ?_⟩
        rw [Nat.add_right_comm, Nat.add_assoc]
    · rintro ⟨i, child', rest, hi, hrest, rfl⟩
      cases i with
      | zero =>
        cases hi
        exact .inl ⟨rest, hrest, rfl⟩
      | succ i =>
        refine .inr ⟨i, child', rest, hi, hrest, ?_⟩
        rw [Nat.add_right_comm, Nat.add_assoc]

/-- **Addresses.** The addresses are those at which there are clauses. -/
theorem mem_addresses (c : Clause) (address : List Nat) :
    address ∈ c.addresses ↔ (c.follow? address).isSome := by
  induction c using induct generalizing address with
  | leaf c field h =>
    rw [addresses_leaf h, List.mem_singleton]
    cases address with
    | nil => simp [follow?_nil]
    | cons i address => simp [follow?_leaf_cons h]
  | boolean children ih =>
    rw [addresses_boolean, List.mem_cons, mem_addressesOf]
    cases address with
    | nil => simp [follow?_nil]
    | cons i address =>
      rw [follow?_boolean_cons]
      constructor
      · rintro (h | ⟨j, child, rest, hj, hrest, h⟩)
        · cases h
        · rw [Nat.zero_add] at h
          cases h
          rw [hj, Option.bind_some, Option.isSome_map]
          exact (ih child (List.mem_of_getElem? hj) _).mp hrest
      · intro h
        cases hi : children[i]? with
        | none =>
          rw [hi] at h
          cases h
        | some child =>
          rw [hi, Option.bind_some, Option.isSome_map] at h
          refine .inr ⟨i, child, address, hi, ?_, by rw [Nat.zero_add]⟩
          exact (ih child (List.mem_of_getElem? hi) _).mpr h

/-- The addresses of children are in order if those of each child are. -/
private theorem pairwise_addressesOf (h : ∀ c ∈ children, c.2.addresses.Pairwise (· < ·))
    (k : Nat) : (addressesOf k children).Pairwise (· < ·) := by
  induction children generalizing k with
  | nil => exact .nil
  | cons child children ih =>
    obtain ⟨hchild, hchildren⟩ := List.forall_mem_cons.mp h
    rw [addressesOf, List.pairwise_append]
    refine ⟨?_, ih hchildren (k + 1), fun a ha b hb => ?_⟩
    · rw [List.pairwise_map]
      exact hchild.imp fun hlt => List.cons_lt_cons_iff.mpr (.inr ⟨rfl, hlt⟩)
    · obtain ⟨a, -, rfl⟩ := List.mem_map.mp ha
      obtain ⟨j, _, b, -, -, rfl⟩ := mem_addressesOf.mp hb
      exact List.cons_lt_cons_iff.mpr (.inl (by omega))

/-- **Order.** The addresses stand in their order, that of a clause in front of those of its
children and those of a child in front of those of the next one. -/
theorem pairwise_addresses (c : Clause) : c.addresses.Pairwise (· < ·) := by
  induction c using induct with
  | leaf c field h =>
    rw [addresses_leaf h]
    exact List.pairwise_singleton _ _
  | boolean children ih =>
    rw [addresses_boolean, List.pairwise_cons]
    refine ⟨fun a ha => ?_, pairwise_addressesOf ih 0⟩
    obtain ⟨_, _, _, -, -, rfl⟩ := mem_addressesOf.mp ha
    exact List.nil_lt_cons _ _

/-! ### Lines -/

theorem length_of_follow? {steps : List Step} (h : c.follow? address = some (steps, d)) :
    steps.length = address.length := by
  induction address generalizing c steps with
  | nil =>
    rw [follow?_nil] at h
    cases h
    rfl
  | cons i address ih =>
    obtain ⟨_, _, _, rfl, -, hfound, rfl⟩ := exists_of_follow?_cons h
    rw [List.length_cons, List.length_cons, ih hfound]

/-- A step in front of others brings an indentation. -/
theorem line_cons {steps : List Step} (h : steps ≠ []) (step : Step) (c : Clause) :
    line (step :: steps) c = indentation step.isLast ++ line steps c := by
  rw [line, rules, List.dropLast_cons_of_ne_nil h, List.getLast?_cons_of_ne_nil h,
    List.flatMap_cons, line, rules, List.append_assoc, List.append_assoc, List.append_assoc]

/-- The line of a child. -/
theorem line_singleton (step : Step) (c : Clause) :
    line [step] c = branch step.isLast ++ step.occur.label false ++ ' ' :: c.label false := by
  have hline : line [step] c =
      branch step.isLast ++ (step.occur.label false ++ ' ' :: c.label false) := rfl
  rw [hline, List.append_assoc]

/-- The lines of a clause, with some margin. -/
def linesAt (margin : List Char) (c : Clause) (addresses : List (List Nat)) : List Char :=
  (addresses.filterMap c.line?).flatMap fun l => margin ++ l ++ ['\n']

variable {margin : List Char}

theorem linesAt_append {as bs : List (List Nat)} :
    linesAt margin c (as ++ bs) = linesAt margin c as ++ linesAt margin c bs := by
  rw [linesAt, List.filterMap_append, List.flatMap_append, linesAt, linesAt]

/-- Behind the first address stand those of the clauses below. -/
theorem ne_nil_of_mem_tail (h : address ∈ c.addresses.tail) : address ≠ [] := by
  have hpairwise := c.pairwise_addresses
  rw [addresses_eq_cons, List.pairwise_cons] at hpairwise
  rintro rfl
  exact List.lt_irrefl _ (hpairwise.1 [] h)

/-- The line of a clause below a child has the indentation of the child in front. -/
private theorem line?_boolean_cons {child : Occur × Clause} (hi : children[i]? = some child)
    (h : address ≠ []) : (boolean children).line? (i :: address) =
      (child.2.line? address).map (indentation (i + 1 = children.length) ++ ·) := by
  rw [line?, follow?_boolean_cons, hi, Option.bind_some, Option.map_map, line?, Option.map_map]
  refine Option.map_congr fun found hfound => ?_
  have hsteps : found.1 ≠ [] := by
    rw [← List.length_pos_iff, length_of_follow? hfound, List.length_pos_iff]
    exact h
  exact line_cons hsteps _ _

/-- The lines of a child and below it, among those of all children. -/
private theorem linesAt_map_cons {child : Occur × Clause} (hi : children[i]? = some child) :
    linesAt margin (boolean children) (child.2.addresses.map (i :: ·)) =
      margin ++ branch (i + 1 = children.length) ++ child.1.label false ++
        ' ' :: child.2.label false ++ '\n' ::
          linesAt (margin ++ indentation (i + 1 = children.length)) child.2
            child.2.addresses.tail := by
  have hfirst : (boolean children).line? [i] =
      some (line [⟨i + 1 = children.length, child.1⟩] child.2) := by
    rw [line?, follow?_boolean_cons, hi, Option.bind_some, follow?_nil]
    rfl
  have hbelow : child.2.addresses.tail.filterMap ((boolean children).line? ∘ (i :: ·)) =
      (child.2.addresses.tail.filterMap child.2.line?).map
        (indentation (i + 1 = children.length) ++ ·) := by
    rw [List.map_filterMap]
    exact List.filterMap_congr fun a ha => line?_boolean_cons hi (ne_nil_of_mem_tail ha)
  rw [addresses_eq_cons, List.map_cons, linesAt, List.filterMap_cons_some hfirst, List.flatMap_cons,
    List.filterMap_map, hbelow, List.flatMap_map, line_singleton, List.tail_cons, linesAt]
  simp only [List.append_assoc, List.cons_append, List.nil_append]

/-- Children are drawn with one line for every address among them. -/
private theorem treeChildren_eq (ih : ∀ c ∈ children, ∀ margin,
      treeBelow false margin c.2 = linesAt margin c.2 c.2.addresses.tail)
    (front : List (Occur × Clause)) (margin : List Char) :
    treeChildren false margin children =
      linesAt margin (boolean (front ++ children)) (addressesOf front.length children) := by
  induction children generalizing front with
  | nil => rfl
  | cons child children ihc =>
    obtain ⟨hchild, hchildren⟩ := List.forall_mem_cons.mp ih
    have hget : (front ++ child :: children)[front.length]? = some child := by
      rw [List.getElem?_append_right (Nat.le_refl _), Nat.sub_self]
      rfl
    have hlast : decide (front.length + 1 = (front ++ child :: children).length) =
        children.isEmpty := by
      rw [List.length_append, List.length_cons]
      cases children <;> simp
    have hrest := ihc hchildren (front ++ [child])
    rw [List.append_assoc, List.singleton_append, List.length_append, List.length_singleton]
      at hrest
    obtain ⟨occur, child⟩ := child
    rw [addressesOf, linesAt_append, linesAt_map_cons hget, hlast, ← hrest, ← hchild]
    rfl

/-- What stands below a clause is drawn with one line for every address but its own. -/
theorem treeBelow_eq (c : Clause) (margin : List Char) :
    treeBelow false margin c = linesAt margin c c.addresses.tail := by
  induction c using induct generalizing margin with
  | leaf c field h =>
    rw [addresses_leaf h]
    cases c with
    | boolean => cases h
    | term | phrase | wildcard | regexp | range => rfl
  | boolean children ih => exact treeChildren_eq ih [] margin

/-- **Lines.** A clause is drawn with one line for every address. -/
theorem treeChars_eq (c : Clause) :
    c.treeChars false = (c.addresses.filterMap c.line?).flatMap fun l => l ++ ['\n'] := by
  have hfirst : c.line? [] = some (c.label false) := by
    rw [line?, follow?_nil]
    rfl
  rw [addresses_eq_cons, List.filterMap_cons_some hfirst, List.flatMap_cons, treeChars,
    treeBelow_eq, List.append_assoc]
  rfl

/-! ### Depths -/

theorem addresses_eq (c : Clause) : c.addresses = [] :: addressesOf 0 c.children := by
  cases c <;> rfl

/-- The depths of some addresses, below a clause that lies at some depth itself. -/
def depths (n : Nat) (addresses : List (List Nat)) : List Nat := addresses.map fun a => a.length + n

theorem depths_append {as bs : List (List Nat)} (n : Nat) :
    depths n (as ++ bs) = depths n as ++ depths n bs := List.map_append

/-- Behind the depth of a child come those below it, and then those of the other children. -/
theorem depths_addressesOf_cons (n k : Nat) (child : Occur × Clause) :
    depths n (addressesOf k (child :: children)) =
      (n + 1) :: (depths (n + 1) (addressesOf 0 child.2.children) ++
        depths n (addressesOf (k + 1) children)) := by
  have hfirst : depths n (child.2.addresses.map (k :: ·)) =
      (n + 1) :: depths (n + 1) (addressesOf 0 child.2.children) := by
    rw [addresses_eq, depths, List.map_map, List.map_cons, depths]
    refine List.cons_eq_cons.mpr ⟨Nat.add_comm 1 n, List.map_congr_left fun a _ => ?_⟩
    rw [Function.comp_apply, List.length_cons, Nat.add_assoc, Nat.add_comm 1 n]
  rw [addressesOf, depths_append, hfirst, List.cons_append]

/-- The first of some children lies right below their parent. -/
theorem eq_of_mem_head?_depths {n k m : Nat} (h : m ∈ (depths n (addressesOf k children)).head?) :
    m = n + 1 := by
  cases children with
  | nil => cases h
  | cons child children =>
    rw [depths_addressesOf_cons] at h
    exact (Option.some.inj h).symm

/-- The depths of children, in front of others that do not lie below their parent, tell their
addresses. -/
def ToldByDepths (children : List (Occur × Clause)) : Prop :=
  ∀ (n k : Nat) (others : List (Occur × Clause)) (r r' : List Nat), (∀ m ∈ r.head?, m ≤ n) →
    (∀ m ∈ r'.head?, m ≤ n) →
    depths n (addressesOf k children) ++ r = depths n (addressesOf k others) ++ r' →
    addressesOf k children = addressesOf k others ∧ r = r'

private theorem toldByDepths_of_forall (ih : ∀ child ∈ children, ToldByDepths child.2.children) :
    ToldByDepths children := by
  induction children with
  | nil =>
    intro n k others r r' hr hr' h
    cases others with
    | nil => exact ⟨rfl, h⟩
    | cons child others =>
      -- the first of the others lies below their parent
      rw [depths_addressesOf_cons, List.cons_append] at h
      have hhead : n + 1 ∈ r.head? := by
        have hr : r = [] ++ r := rfl
        rw [hr]
        exact h ▸ rfl
      exact absurd (hr _ hhead) (Nat.not_succ_le_self n)
  | cons child children ihc =>
    intro n k others r r' hr hr' h
    cases others with
    | nil =>
      rw [depths_addressesOf_cons, List.cons_append] at h
      have hhead : n + 1 ∈ r'.head? := by
        have hr' : r' = [] ++ r' := rfl
        rw [hr']
        exact h ▸ rfl
      exact absurd (hr' _ hhead) (Nat.not_succ_le_self n)
    | cons other others =>
      obtain ⟨hchild, hchildren⟩ := List.forall_mem_cons.mp ih
      -- what stands behind the clauses below the first child does not lie below that child
      have hbehind : ∀ (others : List (Occur × Clause)) (r : List Nat), (∀ m ∈ r.head?, m ≤ n) →
          ∀ m ∈ (depths n (addressesOf (k + 1) others) ++ r).head?, m ≤ n + 1 := by
        intro others r hr m hm
        rw [List.head?_append, Option.mem_def, Option.or_eq_some_iff] at hm
        obtain hm | ⟨-, hm⟩ := hm
        · exact Nat.le_of_eq (eq_of_mem_head?_depths hm)
        · exact Nat.le_succ_of_le (hr m hm)
      rw [depths_addressesOf_cons, depths_addressesOf_cons, List.cons_append, List.cons_append,
        List.append_assoc, List.append_assoc, List.cons.injEq] at h
      obtain ⟨hbelow, hrest⟩ := hchild (n + 1) 0 other.2.children _ _ (hbehind children r hr)
        (hbehind others r' hr') h.2
      obtain ⟨hothers, hr⟩ := ihc hchildren n (k + 1) others r r' hr hr' hrest
      refine ⟨?_, hr⟩
      rw [addressesOf, addressesOf, addresses_eq child.2, addresses_eq other.2, hbelow, hothers]

theorem toldByDepths (c : Clause) : ToldByDepths c.children := by
  induction c using induct with
  | leaf c field h =>
    cases c with
    | boolean => cases h
    | term | phrase | wildcard | regexp | range =>
      exact toldByDepths_of_forall (List.forall_mem_nil _)
  | boolean children ih => exact toldByDepths_of_forall ih

/-- **Depths.** The depths of the clauses inside a clause, in the order of the lines, tell their
addresses. -/
theorem addresses_eq_of_depths (h : c.addresses.map List.length = d.addresses.map List.length) :
    c.addresses = d.addresses := by
  rw [addresses_eq, addresses_eq d, List.map_cons, List.map_cons, List.cons.injEq] at h
  have hnone : ∀ m ∈ ([] : List Nat).head?, m ≤ 0 := fun m hm => by cases hm
  have hdepths : depths 0 (addressesOf 0 c.children) ++ [] =
      depths 0 (addressesOf 0 d.children) ++ [] := by
    rw [List.append_nil, List.append_nil]
    exact h.2
  obtain ⟨hchildren, -⟩ := c.toldByDepths 0 0 d.children [] [] hnone hnone hdepths
  rw [addresses_eq, addresses_eq d, hchildren]

end Clause

/-! ### Columns -/

/-- Whether a character neither breaks a line nor begins an escape sequence. -/
def isInLine (c : Char) : Bool := c ≠ '\n' && c ≠ '\x1b'

/-- Whether a character is one of those that units are drawn with. -/
def isRule (c : Char) : Bool := c = ' ' || c = '│' || c = '├' || c = '└' || c = '─'

theorem rules_concat (steps : List Step) (step : Step) : rules (steps ++ [step]) =
    steps.flatMap (fun step => indentation step.isLast) ++ branch step.isLast := by
  rw [rules, List.dropLast_concat, List.getLast?_concat]
  rfl

/-- A unit has four columns, and no letter in them. -/
theorem unit_spec (b : Bool) : ((indentation b).length = 4 ∧ ∀ c ∈ indentation b, isRule c) ∧
    (branch b).length = 4 ∧ ∀ c ∈ branch b, isRule c := by
  simp only [← List.all_eq_true]
  cases b <;> decide

/-- Every step brings a unit of four columns. -/
theorem length_rules (steps : List Step) : (rules steps).length = 4 * steps.length := by
  obtain rfl | ⟨steps, step, rfl⟩ := List.eq_nil_or_concat steps
  · rfl
  · rw [List.concat_eq_append, rules_concat, List.length_append, List.length_append,
      (unit_spec step.isLast).2.1, List.length_singleton, Nat.mul_add_one, Nat.add_left_inj]
    induction steps with
    | nil => rfl
    | cons step steps ih =>
      rw [List.flatMap_cons, List.length_append, ih, (unit_spec step.isLast).1.1, List.length_cons]
      omega

theorem isRule_of_mem_rules {steps : List Step} {c : Char} (h : c ∈ rules steps) : isRule c := by
  rw [rules, List.mem_append, List.mem_flatMap] at h
  obtain ⟨step, -, hc⟩ | hc := h
  · exact (unit_spec step.isLast).1.2 c hc
  · cases hlast : steps.getLast? with
    | none =>
      rw [hlast] at hc
      cases hc
    | some step =>
      rw [hlast] at hc
      exact (unit_spec step.isLast).2.2 c hc

namespace Clause

variable {c d : Clause} {address : List Nat}

theorem paint_false (style : Style) (text : List Char) : paint false style text = text := rfl

theorem kindName_eq_cons (c : Clause) :
    ∃ l s, c.kindName.toList = l :: s ∧ isRule l = false := by
  cases c with
  | term | phrase | wildcard | regexp | boolean =>
    rw [kindName]
    exact ⟨_, _, rfl, by decide⟩
  | range field lower upper =>
    rw [kindName]
    split <;> exact ⟨_, _, rfl, by decide⟩

theorem label_leaf {field : String} (h : c.field? = some field) (color : Bool) :
    c.label color = paint color .dim c.kindName.toList ++ ' ' :: c.renderChars := by
  cases c with
  | boolean => cases h
  | term | phrase | wildcard | regexp | range => rfl

/-- A label begins with a letter. -/
theorem label_eq_cons (c : Clause) : ∃ l s, c.label false = l :: s ∧ isRule l = false := by
  cases hfield : c.field? with
  | some field =>
    obtain ⟨l, s, hls, hl⟩ := c.kindName_eq_cons
    refine ⟨l, s ++ ' ' :: c.renderChars, ?_, hl⟩
    rw [label_leaf hfield, paint_false, hls, List.cons_append]
  | none =>
    cases c with
    | boolean children => cases children <;> exact ⟨_, _, rfl, by decide⟩
    | term | phrase | wildcard | regexp | range => cases hfield

/-- In front of its first letter a line has the units of its steps. -/
theorem takeWhile_line (steps : List Step) (c : Clause) :
    (line steps c).takeWhile isRule = rules steps := by
  have hentry : ∃ l s, (steps.getLast?.elim (c.label false) fun step =>
      step.occur.label false ++ ' ' :: c.label false) = l :: s ∧ isRule l = false := by
    cases steps.getLast? with
    | none => exact c.label_eq_cons
    | some step =>
      obtain ⟨isLast, occur⟩ := step
      cases occur <;> exact ⟨_, _, rfl, by decide⟩
  obtain ⟨l, s, hls, hl⟩ := hentry
  rw [line, hls, List.takeWhile_append_of_pos fun d hd => isRule_of_mem_rules hd,
    List.takeWhile_cons_of_neg (by rw [hl]; decide), List.append_nil]

/-- Every address has a line, with the units of as many steps. -/
theorem exists_line? (h : address ∈ c.addresses) :
    ∃ l, c.line? address = some l ∧ (l.takeWhile isRule).length = 4 * address.length := by
  obtain ⟨found, hfound⟩ := Option.isSome_iff_exists.mp ((c.mem_addresses address).mp h)
  refine ⟨line found.1 found.2, by rw [line?, hfound]; rfl, ?_⟩
  rw [takeWhile_line, length_rules, length_of_follow? hfound]

theorem map_width_lines (c : Clause) :
    (c.addresses.filterMap c.line?).map (fun l => (l.takeWhile isRule).length) =
      c.addresses.map fun a => 4 * a.length := by
  rw [List.map_filterMap, ← List.filterMap_eq_map]
  refine List.filterMap_congr fun a ha => ?_
  obtain ⟨l, hl, hwidth⟩ := exists_line? ha
  rw [hl, Option.map_some, hwidth, Function.comp_apply]

theorem map_some_lines (c : Clause) :
    (c.addresses.filterMap c.line?).map some = c.addresses.map c.line? := by
  rw [List.map_filterMap, ← List.filterMap_eq_map]
  refine List.filterMap_congr fun a ha => ?_
  obtain ⟨l, hl, -⟩ := exists_line? ha
  rw [hl, Option.map_some, Function.comp_apply, hl]

/-! ### Texts -/

/-- The texts of a leaf. -/
def texts : Clause → List String
  | term field text => [field, text]
  | phrase field terms => field :: terms
  | wildcard field pattern => [field, pattern]
  | regexp field pattern => [field, pattern]
  | range field lower upper => field :: (lower.value?.toList ++ upper.value?.toList)
  | boolean _ => []

/-- The texts of a clause have neither line breaks nor escape characters. -/
def IsDrawable (c : Clause) : Prop :=
  ∀ leaf ∈ c.leaves, ∀ text ∈ leaf.texts, ∀ ch ∈ text.toList, isInLine ch

theorem isDrawable_boolean {children : List (Occur × Clause)} :
    (boolean children).IsDrawable ↔ ∀ child ∈ children, child.2.IsDrawable :=
  forall_mem_leaves_boolean

/-- What stands inside a clause that can be drawn can be drawn. -/
theorem IsDrawable.of_follow? {steps : List Step} (hc : c.IsDrawable)
    (h : c.follow? address = some (steps, d)) : d.IsDrawable := by
  induction address generalizing c steps with
  | nil =>
    rw [follow?_nil] at h
    cases h
    exact hc
  | cons i address ih =>
    obtain ⟨_, child, _, rfl, hi, hfound, -⟩ := exists_of_follow?_cons h
    exact ih (isDrawable_boolean.mp hc child (List.mem_of_getElem? hi)) hfound

/-- The text of a bound has the characters of its value, and others that do not break lines. -/
private theorem isInLine_bound {b : Bound}
    (h : ∀ text ∈ b.value?.toList, ∀ ch ∈ text.toList, isInLine ch) :
    (∀ ch ∈ b.renderLower, isInLine ch) ∧ ∀ ch ∈ b.renderUpper, isInLine ch := by
  cases b with
  | unbounded => exact ⟨List.all_eq_true.mp (by decide), List.all_eq_true.mp (by decide)⟩
  | inclusive v | exclusive v =>
    have hv : ∀ ch ∈ v.toList, isInLine ch := h v (List.mem_singleton_self v)
    rw [Bound.renderLower, Bound.renderUpper]
    refine ⟨List.forall_mem_cons.mpr ⟨by decide, hv⟩, List.forall_mem_append.mpr ⟨hv, ?_⟩⟩
    exact List.forall_mem_singleton.mpr (by decide)

/-- The text of a leaf has the characters of its texts, and others that do not break lines. -/
theorem isInLine_of_mem_renderChars {field : String} (hleaf : c.field? = some field)
    (h : ∀ text ∈ c.texts, ∀ ch ∈ text.toList, isInLine ch) :
    ∀ ch ∈ c.renderChars, isInLine ch := by
  cases c with
  | boolean => cases hleaf
  | term field text | wildcard field text =>
    simp only [texts, List.forall_mem_cons] at h
    rw [renderChars, List.forall_mem_append, List.forall_mem_cons]
    exact ⟨h.1, by decide, h.2.1⟩
  | regexp field pattern =>
    simp only [texts, List.forall_mem_cons] at h
    rw [renderChars]
    simp only [List.forall_mem_append]
    exact ⟨⟨⟨h.1, List.all_eq_true.mp (by decide)⟩, h.2.1⟩, List.all_eq_true.mp (by decide)⟩
  | phrase field terms =>
    obtain ⟨hfield, hterms⟩ := List.forall_mem_cons.mp h
    rw [renderChars]
    simp only [List.forall_mem_append]
    refine ⟨⟨⟨hfield, List.all_eq_true.mp (by decide)⟩, fun ch hch => ?_⟩,
      List.all_eq_true.mp (by decide)⟩
    obtain rfl | ⟨w, hw, hch⟩ := Text.mem_intercalate hch
    · decide
    · obtain ⟨term, hterm, rfl⟩ := List.mem_map.mp hw
      exact hterms term hterm ch hch
  | range field lower upper =>
    obtain ⟨hfield, hbounds⟩ := List.forall_mem_cons.mp h
    obtain ⟨hlower, hupper⟩ := List.forall_mem_append.mp hbounds
    rw [renderChars, List.forall_mem_append, List.forall_mem_append, List.forall_mem_append,
      List.forall_mem_cons]
    exact ⟨⟨⟨hfield, by decide, (isInLine_bound hlower).1⟩, List.all_eq_true.mp (by decide)⟩,
      (isInLine_bound hupper).2⟩

theorem isInLine_of_mem_kindName (c : Clause) : ∀ ch ∈ c.kindName.toList, isInLine ch := by
  rw [← List.all_eq_true]
  cases c with
  | term | phrase | wildcard | regexp | boolean =>
    rw [kindName]
    decide
  | range field lower upper =>
    rw [kindName]
    split <;> decide

/-- A label breaks no line. -/
theorem IsDrawable.isInLine_of_mem_label (h : c.IsDrawable) :
    ∀ ch ∈ c.label false, isInLine ch := by
  cases hfield : c.field? with
  | some field =>
    have htexts : ∀ text ∈ c.texts, ∀ ch ∈ text.toList, isInLine ch :=
      (forall_mem_leaves_leaf hfield).mp h
    rw [label_leaf hfield, paint_false, List.forall_mem_append, List.forall_mem_cons]
    exact ⟨c.isInLine_of_mem_kindName, by decide, isInLine_of_mem_renderChars hfield htexts⟩
  | none =>
    cases c with
    | boolean children =>
      have hname : ∀ ch ∈ "Boolean".toList, isInLine ch :=
        List.all_eq_true.mp (by decide)
      have hremark : ∀ ch ∈ " (matches nothing)".toList, isInLine ch :=
        List.all_eq_true.mp (by decide)
      cases children with
      | nil => exact List.forall_mem_append.mpr ⟨hname, hremark⟩
      | cons child children => exact hname
    | term | phrase | wildcard | regexp | range => cases hfield

/-- What is drawn with units breaks no line. -/
theorem isInLine_of_isRule {ch : Char} (h : isRule ch) : isInLine ch := by
  simp only [isRule, Bool.or_eq_true, decide_eq_true_eq] at h
  obtain (((rfl | rfl) | rfl) | rfl) | rfl := h <;> decide

/-- A line has no line break in it. -/
theorem IsDrawable.notMem_line? {l : List Char} (h : c.IsDrawable) (hl : c.line? address = some l) :
    '\n' ∉ l := by
  obtain ⟨⟨steps, d⟩, hfound, rfl⟩ := Option.map_eq_some_iff.mp hl
  have hlabel := (h.of_follow? hfound).isInLine_of_mem_label
  have hall : ∀ ch ∈ line steps d, isInLine ch := by
    rw [line, List.forall_mem_append]
    refine ⟨fun ch hch => isInLine_of_isRule (isRule_of_mem_rules hch), ?_⟩
    cases steps.getLast? with
    | none => exact hlabel
    | some step =>
      obtain ⟨isLast, occur⟩ := step
      rw [Option.elim_some, List.forall_mem_append, List.forall_mem_cons]
      refine ⟨?_, by decide, hlabel⟩
      rw [← List.all_eq_true]
      cases occur <;> (rw [Occur.label]; decide)
  exact fun hmem => absurd (hall _ hmem) (by decide)

/-- **Lines.** Between its line breaks a drawn clause has one line for every address. -/
theorem IsDrawable.splitAt_tree (h : c.IsDrawable) :
    Text.splitAt '\n' (c.tree false).toList = c.addresses.filterMap c.line? ++ [[]] := by
  have hlines : ∀ l ∈ c.addresses.filterMap c.line?, '\n' ∉ l := by
    intro l hl
    obtain ⟨a, -, hline⟩ := List.mem_filterMap.mp hl
    exact h.notMem_line? hline
  rw [tree, String.toList_ofList, treeChars_eq]
  exact Text.splitAt_flatMap hlines

/-- **Shape.** Clauses that are drawn alike have the same addresses. -/
theorem addresses_eq_of_tree_eq (hc : c.IsDrawable) (hd : d.IsDrawable)
    (h : c.tree false = d.tree false) : c.addresses = d.addresses := by
  have hlines : c.addresses.filterMap c.line? = d.addresses.filterMap d.line? := by
    rw [← List.append_left_inj [[]], ← hc.splitAt_tree, ← hd.splitAt_tree, h]
  have hwidths : c.addresses.map (fun a => 4 * a.length) =
      d.addresses.map fun a => 4 * a.length := by
    rw [← map_width_lines, ← map_width_lines, hlines]
  refine addresses_eq_of_depths ?_
  have hdepths := congrArg (List.map (· / 4)) hwidths
  rw [List.map_map, List.map_map] at hdepths
  have hcancel : ∀ addresses : List (List Nat),
      addresses.map ((· / 4) ∘ fun a => 4 * a.length) = addresses.map List.length := by
    refine fun addresses => List.map_congr_left fun a _ => ?_
    exact Nat.mul_div_cancel_left a.length (by decide)
  rwa [hcancel, hcancel] at hdepths

end Clause

end RegistrySearch.Query
