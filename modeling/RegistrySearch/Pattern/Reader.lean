import RegistrySearch.Numeral.Integer
import RegistrySearch.Pattern.Bracket
import RegistrySearch.Unicode.Alphanumeric

/-!
# Reading regular expressions

The text of an expression is read from left to right into **pieces**, each with the depth of what is
nested in it. A group of letters switches flags for the rest of the group around it, across the bars
between alternatives. What is beyond regular expressions is refused: looking ahead or behind, and
references to groups.

Alternatives and groups contain each other, so `readBody` recurses on the text that is left, which
is shorter behind every parenthesis; `Regex.ofText?` wants all of it to be read.
-/

namespace RegistrySearch.Pattern

open Text (Rest Remainder)

/-! ### Pieces -/

/-- A part of an expression and the depth of what is nested in it. -/
structure Piece where
  regex : Regex
  depth : Nat

namespace Piece

/-- A part in which nothing is nested. -/
def flat (r : Regex) : Piece := ⟨r, 0⟩

/-- The parts of one alternative. More than one part are a level of their own. -/
def concat (parts : List Piece) : Piece :=
  ⟨.concat (parts.map (·.regex)),
    (parts.map (·.depth)).foldr max 0 + if parts.length < 2 then 0 else 1⟩

/-- A part several times. -/
def times (p : Piece) (least : Nat) (most : Option Nat) : Piece :=
  ⟨.times p.regex least most, p.depth + 1⟩

end Piece

/-- The alternatives between two parentheses, each as its parts, and the names of groups in them. -/
structure Body where
  first : List Piece
  others : List (List Piece)
  names : List String

namespace Body

/-- One alternative without parts. -/
def empty : Body := ⟨[], [], []⟩

/-- Puts a part in front of the first alternative, with the names of groups in it. -/
def push (b : Body) (p : Piece) (names : List String) : Body :=
  ⟨p :: b.first, b.others, names ++ b.names⟩

/-- Puts an alternative without parts in front. -/
def openAlternative (b : Body) : Body := ⟨[], b.first :: b.others, b.names⟩

/-- The alternatives as one part. More than one alternative are a level of their own. -/
def toPiece (b : Body) : Piece :=
  let first := Piece.concat b.first
  let others := b.others.map Piece.concat
  ⟨.choice first.regex (others.map (·.regex)),
    (others.map (·.depth)).foldr max first.depth + if others.isEmpty then 0 else 1⟩

end Body

/-! ### Repetitions -/

/-- Takes the question mark off the front that makes a repetition prefer few rounds. -/
def dropLazy : List Char → List Char
  | '?' :: rest => rest
  | s => s

/-- Splits digits off the front, with the blanks and remarks behind each of them. -/
def readDigits (f : Flags) (s : List Char) : List Nat × List Char :=
  match s with
  | [] => ([], [])
  | c :: rest =>
    match Numeral.digit? c with
    | none => ([], c :: rest)
    | some d =>
      let (ds, rest) := readDigits f (f.skip rest)
      (d :: ds, rest)
termination_by s.length
decreasing_by exact Nat.lt_succ_of_le (f.length_skip_le rest)

/-- Reads a number of rounds, between blanks. -/
def readRounds (f : Flags) (s : List Char) : Option (Nat × List Char) :=
  let (digits, rest) := readDigits f (s.dropWhile Unicode.isBlank)
  let n := Numeral.ofDigits digits
  if digits.isEmpty || 2 ^ 32 ≤ n then none
  else some (n, f.skip (rest.dropWhile Unicode.isBlank))

/-- Reads the bounds of a repetition behind the opening brace. -/
def readBounds (f : Flags) (s : List Char) : Option (Nat × Option Nat × List Char) := do
  let (least, rest) ← readRounds f (f.skip s)
  match rest with
  | '}' :: rest => some (least, some least, dropLazy (f.skip rest))
  | ',' :: rest =>
    match f.skip rest with
    | '}' :: rest => some (least, none, dropLazy (f.skip rest))
    | rest => do
      let (most, rest) ← readRounds f rest
      match rest with
      | '}' :: rest =>
        if least ≤ most then some (least, some most, dropLazy (f.skip rest)) else none
      | _ => none
  | _ => none

/-- The repetition that a text begins with: its bounds and the text behind it. There is none where
no operator stands in front, and a failure where braces hold no bounds. -/
def readRepetition (f : Flags) : List Char → Option (Option (Nat × Option Nat × List Char))
  | '*' :: rest => some (some (0, none, dropLazy rest))
  | '+' :: rest => some (some (1, none, dropLazy rest))
  | '?' :: rest => some (some (0, some 1, dropLazy rest))
  | '{' :: rest => (readBounds f rest).map some
  | _ => some none

theorem length_dropLazy_le (s : List Char) : (dropLazy s).length ≤ s.length := by
  unfold dropLazy
  split
  · exact Nat.le_succ _
  · exact Nat.le_refl _

theorem length_readDigits_le (f : Flags) (s : List Char) :
    (readDigits f s).2.length ≤ s.length := by
  fun_induction readDigits f s with
  | case1 => exact Nat.le_refl _
  | case2 => exact Nat.le_refl _
  | case3 c rest d hd ds r hr ih =>
    rw [hr] at ih
    exact Nat.le_succ_of_le (Nat.le_trans ih (f.length_skip_le rest))

theorem length_le_of_readRounds {f : Flags} {s rest : List Char} {n : Nat}
    (h : readRounds f s = some (n, rest)) : rest.length ≤ s.length := by
  unfold readRounds at h
  simp only at h
  split at h
  · cases h
  · cases h
    refine Nat.le_trans (f.length_skip_le _) (Nat.le_trans (Text.length_dropWhile_le _ _) ?_)
    exact Nat.le_trans (length_readDigits_le f _) (Text.length_dropWhile_le _ _)

theorem length_lt_of_readBounds {f : Flags} {s rest : List Char} {least : Nat} {most : Option Nat}
    (h : readBounds f s = some (least, most, rest)) : rest.length < s.length := by
  unfold readBounds at h
  obtain ⟨⟨n, r⟩, hn, h⟩ := Option.bind_eq_some_iff.1 h
  have h₁ := length_le_of_readRounds hn
  have h₂ := f.length_skip_le s
  simp only at h
  split at h
  · next r' =>
    cases h
    have := length_dropLazy_le (f.skip r')
    have := f.length_skip_le r'
    simp only [List.length_cons] at *; omega
  · next r' =>
    have h₃ := f.length_skip_le r'
    split at h
    · next r'' hr =>
      cases h
      rw [hr] at h₃
      have := length_dropLazy_le (f.skip r'')
      have := f.length_skip_le r''
      simp only [List.length_cons] at *; omega
    · obtain ⟨⟨m, q⟩, hm, h⟩ := Option.bind_eq_some_iff.1 h
      have h₄ := length_le_of_readRounds hm
      simp only at h
      split at h
      · next q' =>
        split at h
        · cases h
          have := length_dropLazy_le (f.skip q')
          have := f.length_skip_le q'
          simp only [List.length_cons] at *; omega
        · cases h
      · cases h
  · cases h

theorem length_lt_of_readRepetition {f : Flags} {s rest : List Char} {least : Nat}
    {most : Option Nat} (h : readRepetition f s = some (some (least, most, rest))) :
    rest.length < s.length := by
  unfold readRepetition at h
  split at h
  · cases h; exact Nat.lt_succ_of_le (length_dropLazy_le _)
  · cases h; exact Nat.lt_succ_of_le (length_dropLazy_le _)
  · cases h; exact Nat.lt_succ_of_le (length_dropLazy_le _)
  · obtain ⟨_, hb, he⟩ := Option.map_eq_some_iff.1 h
    cases he
    exact Nat.lt_succ_of_lt (length_lt_of_readBounds hb)
  · cases h

/-- Reads the repetitions behind a piece. -/
def readRepetitions (f : Flags) (p : Piece) (s : List Char) : Option (Piece × Remainder s) :=
  have le := f.length_skip_le s
  match h : readRepetition f (f.skip s) with
  | none => none
  | some none => some (p, ⟨f.skip s, le⟩)
  | some (some (least, most, rest)) => do
    have lt := Nat.lt_of_lt_of_le (length_lt_of_readRepetition h) le
    let (q, ⟨rest', le'⟩) ← readRepetitions f (p.times least most) rest
    some (q, ⟨rest', by omega⟩)
termination_by s.length

/-! ### Groups -/

/-- What opens a group. -/
inductive Opening where
  /-- A group that keeps what it takes, perhaps under a name. -/
  | capturing (name : Option String)
  /-- A group with its own flags. -/
  | plain (flags : Flags)
  /-- Flags for the rest of the group around. -/
  | switch (flags : Flags)

/-- Whether a character can be part of the name of a group. -/
def isNameChar (isFirst : Bool) (c : Char) : Bool :=
  if isFirst then c = '_' || Unicode.Property.alphabetic.contains c.toNat
  else c = '_' || c = '.' || c = '[' || c = ']' || Unicode.isAlphanumeric c

/-- Whether a text can be the name of a group. -/
def isGroupName : List Char → Bool
  | [] => false
  | c :: rest => isNameChar true c && rest.all (isNameChar false)

/-- Splits a text at the first character that satisfies `stops`. -/
def splitWhere (stops : Char → Bool) : List Char → Option (List Char × Char × List Char)
  | [] => none
  | c :: rest =>
    if stops c then some ([], c, rest)
    else (splitWhere stops rest).map fun (taken, stop, rest) => (c :: taken, stop, rest)

/-- Reads the name of a group up to the closing angle bracket. -/
def readGroupName (s : List Char) : Option (Opening × List Char) :=
  match splitWhere (· = '>') s with
  | some (name, _, rest) =>
    if isGroupName name then some (.capturing (some (String.ofList name)), rest) else none
  | none => none

/-- Reads letters of flags up to the colon of a group or to a closing parenthesis. -/
def readSwitches (f : Flags) (s : List Char) : Option (Opening × List Char) :=
  match splitWhere (fun c => c = ':' || c = ')') s with
  | some (letters, stop, rest) =>
    if stop = ':' then (f.read? letters).map fun g => (.plain g, rest)
    else if letters.isEmpty then none
    else (f.read? letters).map fun g => (.switch g, rest)
  | none => none

/-- Reads what opens a group, behind its parenthesis. -/
def readOpening (f : Flags) (s : List Char) : Option (Opening × List Char) :=
  match f.skip s with
  | '?' :: 'P' :: '<' :: rest => readGroupName rest
  | '?' :: '<' :: rest => readGroupName rest
  | '?' :: rest => readSwitches f rest
  | rest => some (.capturing none, rest)

namespace Opening

/-- The flags inside a group. -/
def flags (f : Flags) : Opening → Flags
  | plain g => g
  | _ => f

/-- The names that a group brings in. -/
def names : Opening → List String
  | capturing (some name) => [name]
  | _ => []

/-- The part that a group makes of what is inside. -/
def close (p : Piece) : Opening → Piece
  | capturing _ => ⟨.capture p.regex, p.depth + 1⟩
  | _ => ⟨p.regex, p.depth + 1⟩

end Opening

theorem length_lt_of_splitWhere {stops : Char → Bool} {s taken rest : List Char} {stop : Char}
    (h : splitWhere stops s = some (taken, stop, rest)) : rest.length < s.length := by
  fun_induction splitWhere stops s generalizing taken rest with
  | case1 => cases h
  | case2 => cases h; simp
  | case3 c r _ ih =>
    obtain ⟨⟨t, stop', r'⟩, hr, he⟩ := Option.map_eq_some_iff.1 h
    cases he
    exact Nat.lt_succ_of_lt (ih hr)

theorem length_lt_of_readGroupName {s rest : List Char} {o : Opening}
    (h : readGroupName s = some (o, rest)) : rest.length < s.length := by
  unfold readGroupName at h
  split at h
  · next hs =>
    split at h
    · cases h; exact length_lt_of_splitWhere hs
    · cases h
  · cases h

theorem length_lt_of_readSwitches {f : Flags} {s rest : List Char} {o : Opening}
    (h : readSwitches f s = some (o, rest)) : rest.length < s.length := by
  unfold readSwitches at h
  split at h
  · next hs =>
    have lt := length_lt_of_splitWhere hs
    split at h
    · obtain ⟨_, _, he⟩ := Option.map_eq_some_iff.1 h
      cases he; exact lt
    · split at h
      · cases h
      · obtain ⟨_, _, he⟩ := Option.map_eq_some_iff.1 h
        cases he; exact lt
  · cases h

theorem length_le_of_readOpening {f : Flags} {s rest : List Char} {o : Opening}
    (h : readOpening f s = some (o, rest)) : rest.length ≤ s.length := by
  have le := f.length_skip_le s
  unfold readOpening at h
  split at h
  · next ht =>
    rw [ht] at le
    have := length_lt_of_readGroupName h
    simp only [List.length_cons] at le; omega
  · next ht =>
    rw [ht] at le
    have := length_lt_of_readGroupName h
    simp only [List.length_cons] at le; omega
  · next ht =>
    rw [ht] at le
    have := length_lt_of_readSwitches h
    simp only [List.length_cons] at le; omega
  · cases h; exact le

/-! ### Alternatives -/

/-- The part that an atom makes. -/
def Atom.toPiece (f : Flags) : Atom → Piece
  | char c => .flat (f.char c)
  | set s => .flat (.chars s)
  | look a => .flat (.look a)

/-- Reads a set, an escape or a single character, which is no operator of repetition. -/
def readAtom (f : Flags) (s : List Char) : Option (Piece × Rest s) :=
  match s with
  | [] => none
  | c :: rest =>
    match c with
    | '[' => (readSet f rest).map fun (set, ⟨rest', lt⟩) =>
        (⟨.chars set.set, set.depth⟩, ⟨rest', Nat.lt_add_one_of_lt lt⟩)
    | '\\' =>
      match h : readEscape f rest with
      | some (atom, rest') =>
        some (atom.toPiece f, ⟨rest', Nat.lt_succ_of_lt (length_lt_of_readEscape h)⟩)
      | none => none
    | '.' => f.dot?.map fun r => (.flat r, ⟨rest, Nat.lt_succ_self _⟩)
    | '^' => some (.flat (.look f.caret), ⟨rest, Nat.lt_succ_self _⟩)
    | '$' => some (.flat (.look f.dollar), ⟨rest, Nat.lt_succ_self _⟩)
    | c =>
      if c = '*' || c = '+' || c = '?' || c = '{' then none
      else some (.flat (f.char c), ⟨rest, Nat.lt_succ_self _⟩)

/-- Reads alternatives up to the end of the text or a closing parenthesis. -/
def readBody (f : Flags) (s : List Char) : Option (Body × Remainder s) :=
  have le := f.length_skip_le s
  match f.skip s, le with
  | [], le => some (.empty, ⟨[], le⟩)
  | ')' :: rest, le => some (.empty, ⟨')' :: rest, le⟩)
  | '|' :: rest, le => do
    have lt : rest.length < s.length := le
    let (body, ⟨rest', le'⟩) ← readBody f rest
    some (body.openAlternative, ⟨rest', by omega⟩)
  | '(' :: rest, le => do
    have lt : rest.length < s.length := le
    match h : readOpening f rest with
    | none => none
    | some (.switch g, rest₁) =>
      have le₁ := length_le_of_readOpening h
      let (body, ⟨rest₂, le₂⟩) ← readBody g rest₁
      some (body.push (.flat .empty) [], ⟨rest₂, by omega⟩)
    | some (opening, rest₁) =>
      have le₁ := length_le_of_readOpening h
      let (inner, ⟨rest₂, le₂⟩) ← readBody (opening.flags f) rest₁
      match rest₂, le₂ with
      | ')' :: rest₃, le₂ =>
        have lt₃ : rest₃.length < rest₁.length := le₂
        let (p, ⟨rest₄, le₄⟩) ← readRepetitions f (opening.close inner.toPiece) rest₃
        let (body, ⟨rest₅, le₅⟩) ← readBody f rest₄
        some (body.push p (opening.names ++ inner.names), ⟨rest₅, by omega⟩)
      | [], _ => none
      | _ :: _, _ => none
  | c :: rest, le => do
    let (p, ⟨rest₁, lt₁⟩) ← readAtom f (c :: rest)
    let (p, ⟨rest₂, le₂⟩) ← readRepetitions f p rest₁
    let (body, ⟨rest₃, le₃⟩) ← readBody f rest₂
    some (body.push p [], ⟨rest₃, by omega⟩)
termination_by s.length

/-- The number of levels that may be nested in an expression. -/
def depthLimit : Nat := 250

/-- The expression of a text, if the text is one: no parenthesis is left over, groups have different
names, and not too much is nested. -/
def Regex.ofText? (text : String) : Option Regex :=
  match readBody .initial text.toList with
  | some (body, ⟨[], _⟩) =>
    let whole := body.toPiece
    if body.names.Nodup ∧ whole.depth ≤ depthLimit then some whole.regex else none
  | _ => none

end RegistrySearch.Pattern
