import RegistrySearch.Pattern.Reader

/-!
# What the readers of expressions give

A reader gives the rest of its text with the fact that it is shorter, which is why reading ends. For
what is read the fact does not matter: `given` drops it, and without it the readers satisfy plain
equations. `Reads` has the steps in which alternatives are read as the cases of an induction.
-/

namespace RegistrySearch.Pattern

variable {α β : Type} {p q : List Char → Prop}

/-- What a reader gives, without the fact that the rest is shorter. -/
def given (r : Option (α × { rest : List Char // p rest })) : Option (α × List Char) :=
  r.map fun x => (x.1, x.2.val)

theorem given_some (a : α) (rest : List Char) (h : p rest) :
    given (some (a, ⟨rest, h⟩) : Option (α × { rest : List Char // p rest })) =
      some (a, rest) := rfl

theorem given_eq_some_iff {r : Option (α × { rest : List Char // p rest })} {a : α}
    {rest : List Char} : given r = some (a, rest) ↔ ∃ h, r = some (a, ⟨rest, h⟩) := by
  constructor
  · intro h
    cases r with
    | none => cases h
    | some x =>
      cases h
      exact ⟨x.2.property, rfl⟩
  · rintro ⟨h, rfl⟩
    rfl

/-- What is given by reading on depends on the rest alone. -/
theorem given_bind {r : Option (α × { rest : List Char // p rest })}
    {k : α × { rest : List Char // p rest } → Option (β × { rest : List Char // q rest })}
    {k' : α × List Char → Option (β × List Char)}
    (h : ∀ a rest hp, given (k (a, ⟨rest, hp⟩)) = k' (a, rest)) :
    given (r >>= k) = (given r).bind k' := by
  cases r with
  | none => rfl
  | some x => exact h x.1 x.2.val x.2.property

/-! ### Repetitions -/

/-- Reads the brace behind the bounds of a repetition. -/
def readBrace (f : Flags) (bounds : Nat × Option Nat) :
    List Char → Option ((Nat × Option Nat) × List Char)
  | '}' :: rest => some (bounds, dropLazy (f.skip rest))
  | _ => none

/-- The number of rounds that a repetition has at most, read behind the least number and a comma. -/
def readMost (f : Flags) (least : Nat) : List Char → Option ((Nat × Option Nat) × List Char)
  | '}' :: rest => some ((least, none), dropLazy (f.skip rest))
  | s => (readRounds f s).bind fun x =>
    if least ≤ x.1 then readBrace f (least, some x.1) x.2 else none

/-- The bounds of a repetition, read behind the least number of rounds. -/
def readBoundsBehind (f : Flags) (least : Nat) :
    List Char → Option ((Nat × Option Nat) × List Char)
  | '}' :: rest => some ((least, some least), dropLazy (f.skip rest))
  | ',' :: rest => readMost f least (f.skip rest)
  | _ => none

private theorem readMost_eq (f : Flags) (least : Nat) (s : List Char) :
    readMost f least s =
      Option.map (fun x => ((x.1, x.2.1), x.2.2))
        (match s with
        | '}' :: rest => some (least, none, dropLazy (f.skip rest))
        | rest => do
          let (most, rest) ← readRounds f rest
          match rest with
          | '}' :: rest =>
            if least ≤ most then some (least, some most, dropLazy (f.skip rest)) else none
          | _ => none) := by
  rw [readMost.eq_def]
  split
  · rfl
  · simp only [Option.bind_eq_bind, Option.map_bind]
    refine Option.bind_congr fun x _ => ?_
    dsimp only [Function.comp_apply]
    rw [readBrace.eq_def]
    split
    · split <;> rfl
    · split <;> rfl

private theorem readBoundsBehind_eq (f : Flags) (least : Nat) (s : List Char) :
    readBoundsBehind f least s =
      Option.map (fun x => ((x.1, x.2.1), x.2.2))
        (match s with
        | '}' :: rest => some (least, some least, dropLazy (f.skip rest))
        | ',' :: rest =>
          match f.skip rest with
          | '}' :: rest => some (least, none, dropLazy (f.skip rest))
          | rest => do
            let (most, rest) ← readRounds f rest
            match rest with
            | '}' :: rest =>
              if least ≤ most then some (least, some most, dropLazy (f.skip rest)) else none
            | _ => none
        | _ => none) := by
  rw [readBoundsBehind.eq_def]
  split
  · rfl
  · exact readMost_eq f least _
  · rfl

/-- The bounds of a repetition, as one value. -/
theorem map_readBounds (f : Flags) (s : List Char) :
    (readBounds f s).map (fun x => ((x.1, x.2.1), x.2.2)) =
      (readRounds f (f.skip s)).bind fun x => readBoundsBehind f x.1 x.2 := by
  unfold readBounds
  rw [Option.bind_eq_bind, Option.map_bind]
  refine Option.bind_congr fun x _ => ?_
  exact (readBoundsBehind_eq f x.1 x.2).symm

/-- The bounds of the repetition that a text begins with, if there is one, and the text behind. -/
def readRounds? (f : Flags) (s : List Char) : Option (Option (Nat × Option Nat) × List Char) :=
  (readRepetition f s).map fun
    | none => (none, s)
    | some (least, most, rest) => (some (least, most), rest)

theorem length_lt_of_readRounds? {f : Flags} {s rest : List Char} {bounds : Nat × Option Nat}
    (h : readRounds? f s = some (some bounds, rest)) : rest.length < s.length := by
  obtain ⟨x, hx, he⟩ := Option.map_eq_some_iff.mp h
  cases x with
  | none => cases he
  | some x =>
    cases he
    exact length_lt_of_readRepetition hx

/-- What a repetition makes of a piece, and the repetitions behind it. -/
def readFurther (f : Flags) (p : Piece) :
    Option (Nat × Option Nat) → List Char → Option (Piece × List Char)
  | none, s => some (p, s)
  | some bounds, s => given (readRepetitions f (p.times bounds.1 bounds.2) s)

theorem given_readRepetitions (f : Flags) (p : Piece) (s : List Char) :
    given (readRepetitions f p s) =
      (readRounds? f (f.skip s)).bind fun x => readFurther f p x.1 x.2 := by
  rw [readRepetitions, readRounds?]
  split
  · next h => rw [h]; rfl
  · next h => rw [h]; rfl
  · next least most rest h =>
    simp only [h, Option.map_some, Option.bind_some, readFurther]
    cases readRepetitions f (p.times least most) rest <;> rfl

/-! ### Sets -/

/-- Reads the content of a set behind what it begins with. -/
def readContent (f : Flags) (start : Bool × Union) (s : List Char) :
    Option (NestedSet × List Char) :=
  (given (readMembers f none start.2 s)).bind fun x =>
    (f.named? start.1 x.1.set).map fun set => (⟨set, x.1.depth + 1⟩, x.2)

theorem given_readSet (f : Flags) (s : List Char) :
    given (readSet f s) = readContent f ((readSetStart f s).1, (readSetStart f s).2.1)
      (readSetStart f s).2.2 := by
  rw [readSet]
  split
  next isNegated u behind h =>
  simp only [h]
  refine given_bind fun content rest lt => ?_
  dsimp only
  cases f.named? isNegated content.set <;> rfl

/-- Reads an operator between unions, or else a member, and what follows it. -/
def readOperand (f : Flags) (left : LeftSide) (u : Union) (s : List Char) :
    Option (NestedSet × List Char) :=
  match SetOperator.read? s with
  | some (operator, rest) => given (readMembers f (some (left.close f u, operator)) .empty rest)
  | none => (readMember f s).bind fun x => given (readMembers f left (u.add x.1 0) x.2)

/-- Reads members and operators of a set, where no blanks and remarks stand in front. -/
def readMembersFrom (f : Flags) (left : LeftSide) (u : Union) :
    List Char → Option (NestedSet × List Char)
  | [] => none
  | ']' :: rest => some (left.close f u, rest)
  | '[' :: rest =>
    match readAsciiClass f rest with
    | some (set, rest) => set.bind fun set => given (readMembers f left (u.add set 0) rest)
    | none => (given (readSet f rest)).bind fun x =>
        given (readMembers f left (u.add x.1.set x.1.depth) x.2)
  | c :: t => readOperand f left u (c :: t)

theorem given_readMembers (f : Flags) (left : LeftSide) (u : Union) (s : List Char) :
    given (readMembers f left u s) = readMembersFrom f left u (f.skip s) := by
  rw [readMembers]
  split
  · next h _ => rw [h]; rfl
  · next h _ => rw [h]; rfl
  · next rest _ h _ =>
    rw [h, readMembersFrom]
    split
    · next h => simp only [h]; rfl
    · next set rest' h =>
      simp only [h, Option.bind_some]
      cases readMembers f left (u.add set 0) rest' <;> rfl
    · next h =>
      simp only [h]
      refine given_bind fun nested rest' lt => ?_
      dsimp only
      cases readMembers f left (u.add nested.set nested.depth) rest' <;> rfl
  · next c t _ hclose hopen h _ =>
    rw [h, readMembersFrom, readOperand]
    · split
      · next operator rest h =>
        simp only [h]
        cases readMembers f (some (left.close f u, operator)) .empty rest <;> rfl
      · next h =>
        simp only [h]
        split
        · next h => simp only [h]; rfl
        · next set rest h =>
          simp only [h, Option.bind_some]
          cases readMembers f left (u.add set 0) rest <;> rfl
    · exact hclose
    · exact hopen

/-! ### Alternatives -/

/-- Reads an atom behind its first character. -/
def readAtomFrom (f : Flags) (c : Char) (s : List Char) : Option (Piece × List Char) :=
  match c with
  | '[' => (given (readSet f s)).map fun x => (⟨.chars x.1.set, x.1.depth⟩, x.2)
  | '\\' => (readEscape f s).map fun x => (x.1.toPiece f, x.2)
  | '.' => f.dot?.map fun r => (.flat r, s)
  | '^' => some (.flat (.look f.caret), s)
  | '$' => some (.flat (.look f.dollar), s)
  | c =>
    if c = '*' || c = '+' || c = '?' || c = '{' then none else some (.flat (f.char c), s)

theorem given_readAtom (f : Flags) (c : Char) (s : List Char) :
    given (readAtom f (c :: s)) = readAtomFrom f c s := by
  rw [readAtom.eq_def]
  dsimp only
  split
  · rw [readAtomFrom]
    cases readSet f s <;> rfl
  · rw [readAtomFrom]
    split
    · next h => simp only [h]; rfl
    · next h => simp only [h]; rfl
  · rw [readAtomFrom]
    cases f.dot? <;> rfl
  · rfl
  · rfl
  · next hset hescape hdot hcaret hdollar =>
    rw [readAtomFrom]
    · split <;> rfl
    · exact hset
    · exact hescape
    · exact hdot
    · exact hcaret
    · exact hdollar

/-- Reads what follows a piece behind its repetitions. -/
def readAfter (f : Flags) (p : Piece) (names : List String) (s : List Char) :
    Option (Body × List Char) :=
  (given (readBody f s)).map fun x => (x.1.push p names, x.2)

/-- Reads the repetitions of a piece and what follows them. -/
def readFollowing (f : Flags) (p : Piece) (names : List String) (s : List Char) :
    Option (Body × List Char) :=
  (given (readRepetitions f p s)).bind fun x => readAfter f x.1 names x.2

/-- Reads on behind what a group holds. -/
def readBehind (f : Flags) (opening : Opening) (inner : Body) :
    List Char → Option (Body × List Char)
  | ')' :: rest =>
    readFollowing f (opening.close inner.toPiece) (opening.names ++ inner.names) rest
  | _ => none

/-- Reads on behind what opens a group. -/
def readGroup (f : Flags) (opening : Opening) (s : List Char) : Option (Body × List Char) :=
  match opening with
  | .switch g => (given (readBody g s)).map fun x => (x.1.push (.flat .empty) [], x.2)
  | opening => (given (readBody (opening.flags f) s)).bind fun x => readBehind f opening x.1 x.2

/-- Reads alternatives, where no blanks and remarks stand in front. -/
def readBodyFrom (f : Flags) : List Char → Option (Body × List Char)
  | [] => some (.empty, [])
  | ')' :: rest => some (.empty, ')' :: rest)
  | '|' :: rest => (given (readBody f rest)).map fun x => (x.1.openAlternative, x.2)
  | '(' :: rest => (readOpening f rest).bind fun x => readGroup f x.1 x.2
  | c :: rest => (given (readAtom f (c :: rest))).bind fun x => readFollowing f x.1 [] x.2

theorem given_readBody (f : Flags) (s : List Char) :
    given (readBody f s) = readBodyFrom f (f.skip s) := by
  rw [readBody]
  split
  · next h _ => rw [h]; rfl
  · next h _ => rw [h]; rfl
  · next rest _ h _ =>
    rw [h, readBodyFrom]
    cases readBody f rest <;> rfl
  · next rest _ h _ =>
    rw [h, readBodyFrom]
    split
    · next h => rw [h]; rfl
    · next g rest₁ h =>
      simp only [h, Option.bind_some, readGroup]
      cases readBody g rest₁ <;> rfl
    · next opening rest₁ hswitch h =>
      simp only [h, Option.bind_some]
      refine Eq.trans (b := (given (readBody (opening.flags f) rest₁)).bind fun y =>
        readBehind f opening y.1 y.2) (given_bind fun inner rest₂ le₂ => ?_) ?_
      · dsimp only [readBehind, readFollowing]
        split
        · refine given_bind fun p rest₄ le₄ => ?_
          dsimp only [readAfter]
          cases readBody f rest₄ <;> rfl
        · rfl
        · next c t _ hclose =>
          split
          · next h => cases h; exact (hclose rfl).elim
          · rfl
      · cases opening with
        | switch g => exact (hswitch g rfl).elim
        | capturing name => rfl
        | plain g => rfl
  · next c rest _ hclose hbar hopen h _ =>
    rw [h, readBodyFrom]
    · refine given_bind fun p rest₁ lt₁ => ?_
      refine given_bind fun q rest₂ le₂ => ?_
      dsimp only [readAfter]
      cases readBody f rest₂ <;> rfl
    · exact hclose
    · exact hbar
    · exact hopen

/-- A piece stands where no alternative and no group ends or begins. -/
theorem readBodyFrom_eq {f : Flags} {c : Char} {s : List Char} (hclose : c ≠ ')') (hbar : c ≠ '|')
    (hopen : c ≠ '(') :
    readBodyFrom f (c :: s) =
      (given (readAtom f (c :: s))).bind fun x => readFollowing f x.1 [] x.2 := by
  rw [readBodyFrom]
  · exact hclose
  · exact hbar
  · exact hopen

theorem readGroup_eq {f : Flags} {opening : Opening} {s : List Char}
    (h : ∀ g, opening ≠ .switch g) :
    readGroup f opening s =
      (given (readBody (opening.flags f) s)).bind fun x => readBehind f opening x.1 x.2 := by
  cases opening with
  | switch g => exact absurd rfl (h g)
  | capturing name => rfl
  | plain g => rfl

/-! ### The steps of reading -/

/-- The alternatives that a text begins with and the text behind them, by the steps of reading. -/
inductive Reads : Flags → List Char → Body → List Char → Prop where
  | stop {f : Flags} {s : List Char} : Reads f s .empty (f.skip s)
  | alternative {f : Flags} {s t rest : List Char} {body : Body} (hs : f.skip s = '|' :: t)
      (h : Reads f t body rest) : Reads f s body.openAlternative rest
  | switch {f g : Flags} {s t u rest : List Char} {body : Body} (hs : f.skip s = '(' :: t)
      (ho : readOpening f t = some (.switch g, u)) (h : Reads g u body rest) :
      Reads f s (body.push (.flat .empty) []) rest
  | group {f : Flags} {s t u v w rest : List Char} {opening : Opening} {inner body : Body}
      {p : Piece}
      (hs : f.skip s = '(' :: t) (ho : readOpening f t = some (opening, u))
      (hinner : Reads (opening.flags f) u inner (')' :: v))
      (hp : given (readRepetitions f (opening.close inner.toPiece) v) = some (p, w))
      (h : Reads f w body rest) : Reads f s (body.push p (opening.names ++ inner.names)) rest
  | piece {f : Flags} {s t u rest : List Char} {body : Body} {p q : Piece}
      (hp : given (readAtom f (f.skip s)) = some (p, t))
      (hq : given (readRepetitions f p t) = some (q, u)) (h : Reads f u body rest) :
      Reads f s (body.push q []) rest

theorem reads_of_readBody {f : Flags} {s rest : List Char} {body : Body}
    (h : given (readBody f s) = some (body, rest)) : Reads f s body rest := by
  rw [given_readBody] at h
  cases hs : f.skip s with
  | nil =>
    rw [hs] at h
    cases h
    rw [← hs]
    exact .stop
  | cons c t =>
    have hle : (c :: t).length ≤ s.length := hs ▸ f.length_skip_le s
    have hlt : t.length < s.length := hle
    rw [hs] at h
    by_cases hclose : c = ')'
    · subst hclose
      cases h
      rw [← hs]
      exact .stop
    by_cases hbar : c = '|'
    · subst hbar
      obtain ⟨x, hx, he⟩ := Option.map_eq_some_iff.mp h
      cases he
      exact .alternative hs (reads_of_readBody hx)
    by_cases hopen : c = '('
    · subst hopen
      obtain ⟨x, hx, h⟩ := Option.bind_eq_some_iff.mp h
      obtain ⟨opening, u⟩ := x
      have hu := length_le_of_readOpening hx
      by_cases hswitch : ∃ g, opening = .switch g
      · obtain ⟨g, rfl⟩ := hswitch
        obtain ⟨y, hy, he⟩ := Option.map_eq_some_iff.mp h
        cases he
        exact .switch hs hx (reads_of_readBody hy)
      · rw [readGroup_eq fun g hg => hswitch ⟨g, hg⟩] at h
        obtain ⟨⟨inner, v⟩, hinner, h⟩ := Option.bind_eq_some_iff.mp h
        have hv : v.length ≤ u.length := (given_eq_some_iff.mp hinner).1
        cases v with
        | nil => cases h
        | cons d v =>
          by_cases hd : d = ')'
          · subst hd
            obtain ⟨y, hy, h⟩ := Option.bind_eq_some_iff.mp h
            obtain ⟨z, hz, he⟩ := Option.map_eq_some_iff.mp h
            cases he
            have hw := (given_eq_some_iff.mp hy).1
            have hv : v.length < u.length := hv
            exact .group hs hx (reads_of_readBody hinner) hy (reads_of_readBody hz)
          · simp [readBehind, hd] at h
    · rw [readBodyFrom_eq hclose hbar hopen] at h
      obtain ⟨x, hx, h⟩ := Option.bind_eq_some_iff.mp h
      obtain ⟨y, hy, h⟩ := Option.bind_eq_some_iff.mp h
      obtain ⟨z, hz, he⟩ := Option.map_eq_some_iff.mp h
      cases he
      have hxlt := (given_eq_some_iff.mp hx).1
      have hyle := (given_eq_some_iff.mp hy).1
      exact .piece (hs ▸ hx) hy (reads_of_readBody hz)
termination_by s.length
decreasing_by all_goals omega

end RegistrySearch.Pattern
