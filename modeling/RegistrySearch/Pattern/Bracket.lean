import RegistrySearch.Pattern.Escape
import RegistrySearch.Text.Rest

/-!
# Sets in brackets

A set in brackets is a union of characters, ranges, named sets and further sets in brackets. `&&`,
`--` and `~~` intersect, subtract, and take the symmetric difference of the unions around them, from
left to right, none of them binding tighter than another. `readSet` reads a set behind its opening
bracket; as sets are nested, it recurses on what is left of the text.
-/

namespace RegistrySearch.Pattern

open Unicode (Ranges)
open Text (Rest)

/-- A set and the depth of brackets and operators in it. -/
structure NestedSet where
  set : Ranges
  depth : Nat

/-- A union as far as it is read: its members, their number, and the depth of the deepest. -/
structure Union where
  set : Ranges
  size : Nat
  depth : Nat

namespace Union

/-- A union without members. -/
def empty : Union := ⟨⟨[]⟩, 0, 0⟩

/-- The union with one more member. -/
def add (u : Union) (set : Ranges) (depth : Nat) : Union :=
  ⟨u.set.union set, u.size + 1, max u.depth depth⟩

/-- The set of a union. A union of more than one member is a level of its own. -/
def close (u : Union) : NestedSet := ⟨u.set, u.depth + if u.size < 2 then 0 else 1⟩

end Union

/-- An operator between unions. -/
inductive SetOperator where
  | intersection
  | difference
  | symmetricDifference

namespace SetOperator

/-- The set that an operator makes of two. -/
def combine (o : SetOperator) (r s : Ranges) : Ranges :=
  match o with
  | intersection => r.inter s
  | difference => r.diff s
  | symmetricDifference => r.symmDiff s

/-- The operator that a text begins with, and the text behind it. -/
def read? : List Char → Option (SetOperator × List Char)
  | '&' :: '&' :: rest => some (intersection, rest)
  | '-' :: '-' :: rest => some (difference, rest)
  | '~' :: '~' :: rest => some (symmetricDifference, rest)
  | _ => none

end SetOperator

/-- What stands to the left of an operator, and the operator. -/
abbrev LeftSide := Option (NestedSet × SetOperator)

/-- A union, combined with what stands to the left of it. -/
def LeftSide.close (f : Flags) (left : LeftSide) (u : Union) : NestedSet :=
  let right := u.close
  match left with
  | none => right
  | some (left, operator) =>
    ⟨operator.combine (f.folded left.set) (f.folded right.set), 1 + max left.depth right.depth⟩

/-! ### Members -/

/-- Takes a caret off the front of a text, and tells whether there was one. -/
def dropCaret : List Char → Bool × List Char
  | '^' :: rest => (true, rest)
  | s => (false, s)

/-- Reads a class in brackets and colons behind its opening bracket. -/
def readAsciiClass (f : Flags) (s : List Char) : Option (Option Ranges × List Char) :=
  match s with
  | ':' :: rest =>
    let (isNegated, rest) := dropCaret rest
    match splitOnce [':'] rest with
    | some (name, ']' :: rest) =>
      (asciiClasses.lookup (String.ofList name)).map fun set => (f.named? isNegated set, rest)
    | _ => none
  | _ => none

/-- The atom that a text in brackets begins with. -/
def readSetAtom (f : Flags) : List Char → Option (Atom × List Char)
  | [] => none
  | '\\' :: rest => readEscape f rest
  | c :: rest => some (.char c, rest)

/-- Whether a character can be listed in a set. Without Unicode it must be ASCII. -/
def Flags.canList (f : Flags) (c : Char) : Bool := f.unicode || c.toNat ≤ 0x7F

/-- The character behind the next one, as far as it decides whether a hyphen makes a range: blanks
do not count where they do not count elsewhere, and the first hash is passed over. -/
def peekBehind (f : Flags) (rest : List Char) : Option Char :=
  if f.verbose then
    match rest.filter fun c => !Unicode.isBlank c with
    | ['#'] => rest.head?
    | '#' :: c :: _ => some c
    | c :: _ => some c
    | [] => rest.head?
  else rest.head?

/-- The text behind the hyphen of a range, if a range follows. -/
def dropHyphen? (f : Flags) : List Char → Option (List Char)
  | '-' :: rest =>
    if peekBehind f rest = some ']' || peekBehind f rest = some '-' then none
    else some (f.skip rest)
  | _ => none

/-- Reads a character, a range, or the set of an escape. -/
def readMember (f : Flags) (s : List Char) : Option (Ranges × List Char) := do
  let (atom, rest) ← readSetAtom f s
  let rest := f.skip rest
  match atom, dropHyphen? f rest with
  | .char c, none => if f.canList c then some (.single c.toNat c.toNat, rest) else none
  | .set set, none => some (set, rest)
  | .char c, some behind => do
    match ← readSetAtom f behind with
    | (.char d, rest) =>
      if f.canList c && f.canList d && c ≤ d then some (.single c.toNat d.toNat, rest) else none
    | _ => none
  | _, _ => none

/-- Reads the hyphens that a set begins with, which are characters of it. -/
def readHyphens (f : Flags) (u : Union) : List Char → Union × List Char
  | '-' :: rest => readHyphens f (u.add (.single 0x2D 0x2D) 0) (f.skip rest)
  | s => (u, s)
termination_by s => s.length
decreasing_by exact Nat.lt_succ_of_le (f.length_skip_le _)

/-- Reads a closing bracket that is the first character of a set, which has no end yet. -/
def readFirstBracket (f : Flags) (u : Union) (s : List Char) : Union × List Char :=
  match s with
  | ']' :: rest => if u.size = 0 then (u.add (.single 0x5D 0x5D) 0, f.skip rest) else (u, s)
  | _ => (u, s)

/-- Reads what a set can begin with, behind its opening bracket: a caret that negates it, hyphens,
and a closing bracket in the first place. -/
def readSetStart (f : Flags) (s : List Char) : Bool × Union × List Char :=
  let (isNegated, behind) := dropCaret (f.skip s)
  let (u, rest) := readHyphens f .empty (f.skip behind)
  (isNegated, readFirstBracket f u rest)

/-! ### Nothing is taken for free -/

theorem length_le_of_splitOnce {separator s head tail : List Char}
    (h : splitOnce separator s = some (head, tail)) : tail.length ≤ s.length := by
  fun_induction splitOnce separator s generalizing head tail with
  | case1 => cases h
  | case2 c rest _ => cases h; simp only [List.length_drop]; omega
  | case3 c rest _ ih =>
    obtain ⟨⟨a, b⟩, hr, he⟩ := Option.map_eq_some_iff.1 h
    cases he
    exact Nat.le_succ_of_le (ih hr)

theorem length_dropCaret_le (s : List Char) : (dropCaret s).2.length ≤ s.length := by
  unfold dropCaret
  split
  · exact Nat.le_succ _
  · exact Nat.le_refl _

theorem length_lt_of_readAsciiClass {f : Flags} {s rest : List Char} {set : Option Ranges}
    (h : readAsciiClass f s = some (set, rest)) : rest.length < s.length := by
  unfold readAsciiClass at h
  split at h
  · next r =>
    simp only at h
    split at h
    · next name r' hsplit =>
      obtain ⟨_, _, he⟩ := Option.map_eq_some_iff.1 h
      cases he
      have h₁ := length_le_of_splitOnce hsplit
      have h₂ := length_dropCaret_le r
      simp only [List.length_cons] at *; omega
    · cases h
  · cases h

theorem length_lt_of_readSetAtom {f : Flags} {s rest : List Char} {atom : Atom}
    (h : readSetAtom f s = some (atom, rest)) : rest.length < s.length := by
  unfold readSetAtom at h
  split at h
  · cases h
  · exact Nat.lt_succ_of_lt (length_lt_of_readEscape h)
  · cases h; simp

theorem length_le_of_dropHyphen? {f : Flags} {s rest : List Char}
    (h : dropHyphen? f s = some rest) : rest.length ≤ s.length := by
  unfold dropHyphen? at h
  split at h
  · split at h
    · cases h
    · cases h; exact Nat.le_succ_of_le (f.length_skip_le _)
  · cases h

theorem length_lt_of_readMember {f : Flags} {s rest : List Char} {set : Ranges}
    (h : readMember f s = some (set, rest)) : rest.length < s.length := by
  unfold readMember at h
  obtain ⟨⟨atom, r⟩, ha, h⟩ := Option.bind_eq_some_iff.1 h
  have h₁ := length_lt_of_readSetAtom ha
  have h₂ := f.length_skip_le r
  simp only at h
  split at h
  · split at h
    · cases h; omega
    · cases h
  · cases h; omega
  · next hd =>
    have h₃ := length_le_of_dropHyphen? hd
    obtain ⟨⟨atom', r'⟩, hb, h⟩ := Option.bind_eq_some_iff.1 h
    have h₄ := length_lt_of_readSetAtom hb
    split at h
    · next he =>
      cases he
      split at h
      · cases h; omega
      · cases h
    · cases h
  · cases h

theorem length_readHyphens_le (f : Flags) (u : Union) (s : List Char) :
    (readHyphens f u s).2.length ≤ s.length := by
  fun_induction readHyphens f u s with
  | case1 u rest ih => exact Nat.le_succ_of_le (Nat.le_trans ih (f.length_skip_le rest))
  | case2 => exact Nat.le_refl _

theorem length_readFirstBracket_le (f : Flags) (u : Union) (s : List Char) :
    (readFirstBracket f u s).2.length ≤ s.length := by
  unfold readFirstBracket
  split
  · split
    · exact Nat.le_succ_of_le (f.length_skip_le _)
    · exact Nat.le_refl _
  · exact Nat.le_refl _

theorem length_readSetStart_le (f : Flags) (s : List Char) :
    (readSetStart f s).2.2.length ≤ s.length :=
  Nat.le_trans (length_readFirstBracket_le f _ _)
    (Nat.le_trans (length_readHyphens_le f .empty _)
      (Nat.le_trans (f.length_skip_le _)
        (Nat.le_trans (length_dropCaret_le _) (f.length_skip_le s))))

theorem length_lt_of_readOperator {o : SetOperator} {s rest : List Char}
    (h : SetOperator.read? s = some (o, rest)) : rest.length < s.length := by
  unfold SetOperator.read? at h
  split at h <;> cases h <;> simp only [List.length_cons] <;> omega

/-! ### Sets -/

mutual

/-- Reads a set behind its opening bracket, up to the closing one. -/
def readSet (f : Flags) (s : List Char) : Option (NestedSet × Rest s) :=
  match h : readSetStart f s with
  | (isNegated, u, behind) => do
    have le : behind.length ≤ s.length := by
      have := length_readSetStart_le f s
      rw [h] at this
      exact this
    let (content, ⟨rest, lt⟩) ← readMembers f none u behind
    some (⟨← f.named? isNegated content.set, content.depth + 1⟩, ⟨rest, Nat.lt_of_lt_of_le lt le⟩)
termination_by 2 * s.length + 1

/-- Reads members and operators up to the closing bracket. -/
def readMembers (f : Flags) (left : LeftSide) (u : Union) (s : List Char) :
    Option (NestedSet × Rest s) :=
  have le := f.length_skip_le s
  match f.skip s, le with
  | [], _ => none
  | ']' :: rest, le => some (left.close f u, ⟨rest, le⟩)
  | '[' :: rest, le =>
    match h : readAsciiClass f rest with
    | some (none, _) => none
    | some (some set, rest') => do
      have lt := length_lt_of_readAsciiClass h
      have le' : rest.length < s.length := le
      let (content, ⟨rest'', lt'⟩) ← readMembers f left (u.add set 0) rest'
      some (content, ⟨rest'', by omega⟩)
    | none => do
      have le' : rest.length < s.length := le
      let (nested, ⟨rest', lt⟩) ← readSet f rest
      let (content, ⟨rest'', lt'⟩) ← readMembers f left (u.add nested.set nested.depth) rest'
      some (content, ⟨rest'', by omega⟩)
  | c :: t, le =>
    match h : SetOperator.read? (c :: t) with
    | some (operator, rest) => do
      have lt := length_lt_of_readOperator h
      let (content, ⟨rest', lt'⟩) ← readMembers f (some (left.close f u, operator)) .empty rest
      some (content, ⟨rest', by omega⟩)
    | none =>
      match h : readMember f (c :: t) with
      | none => none
      | some (set, rest) => do
        have lt := length_lt_of_readMember h
        let (content, ⟨rest', lt'⟩) ← readMembers f left (u.add set 0) rest
        some (content, ⟨rest', by omega⟩)
termination_by 2 * s.length

end

end RegistrySearch.Pattern
