import RegistrySearch.Query.Parser

/-!
# What the readers of queries give

A reader gives the rest of its text with the fact that it is shorter, which is why reading ends. For
what is read the fact does not matter: `outcome` drops it, and without it the readers satisfy plain
equations.
-/

namespace RegistrySearch.Query

/-- What a reader gives, without the fact that the rest is shorter. -/
def outcome {α : Type} {p : List Char → Prop}
    (r : Except Failure (α × { rest : List Char // p rest })) :
    Except Failure (α × List Char) :=
  r.map fun x => (x.1, x.2.val)

section outcomes

variable {α β : Type} {p q : List Char → Prop}

theorem outcome_ok (a : α) (rest : List Char) (h : p rest) :
    outcome (.ok (a, ⟨rest, h⟩) : Except Failure (α × { rest : List Char // p rest })) =
      .ok (a, rest) := rfl

theorem outcome_eq_ok_iff {r : Except Failure (α × { rest : List Char // p rest })} {a : α}
    {rest : List Char} : outcome r = .ok (a, rest) ↔ ∃ h, r = .ok (a, ⟨rest, h⟩) := by
  constructor
  · intro h
    cases r with
    | error e => cases h
    | ok x =>
      cases h
      exact ⟨x.2.property, rfl⟩
  · rintro ⟨h, rfl⟩
    rfl

/-- The outcome of reading on depends on the rest alone. -/
theorem outcome_bind {r : Except Failure (α × { rest : List Char // p rest })}
    {k : α × { rest : List Char // p rest } → Except Failure (β × { rest : List Char // q rest })}
    {k' : α × List Char → Except Failure (β × List Char)}
    (h : ∀ a rest hp, outcome (k (a, ⟨rest, hp⟩)) = k' (a, rest)) :
    outcome (r >>= k) = outcome r >>= k' := by
  cases r with
  | error e => rfl
  | ok x => exact h x.1 x.2.val x.2.property

theorem ok_bind (a : α) (k : α → Except Failure β) : (Except.ok a >>= k) = k a := rfl

theorem error_bind (e : Failure) (k : α → Except Failure β) :
    (Except.error e >>= k) = .error e := rfl

theorem bind_eq_ok_iff {r : Except Failure α} {k : α → Except Failure β} {b : β} :
    r >>= k = .ok b ↔ ∃ a, r = .ok a ∧ k a = .ok b := by
  constructor
  · intro h
    cases r with
    | error e => cases h
    | ok a => exact ⟨a, rfl, h⟩
  · rintro ⟨a, rfl, h⟩
    exact h

end outcomes

/-! ### Equations -/

theorem outcome_readAlternatives (isFirst : Bool) (field : String) (s : List Char) :
    outcome (readAlternatives isFirst field s) =
      match skipBlanks s with
      | [] => .ok ([], [])
      | ')' :: rest => .ok ([], ')' :: rest)
      | c :: t => (do
        let (item, rest) ← outcome (readConjunction field (alternative isFirst (c :: t)))
        let (items, rest) ← outcome (readAlternatives false field rest)
        .ok (item.toList ++ items, rest)) := by
  rw [readAlternatives]
  split
  · next h _ => simp only [h, outcome_ok]
  · next h _ => simp only [h, outcome_ok]
  · next c t le hparen h _ =>
    simp only [h]
    refine outcome_bind fun item rest lt => ?_
    refine outcome_bind fun items rest' le => ?_
    rfl

theorem outcome_readConjunction (field : String) (s : List Char) :
    outcome (readConjunction field s) = (do
      let (first, rest) ← outcome (readSigned field s)
      let (others, rest) ← outcome (readOperands field rest)
      .ok (conjunction? (first.toList ++ others), rest)) := by
  rw [readConjunction]
  refine outcome_bind fun first rest lt => ?_
  refine outcome_bind fun others rest' le => ?_
  rfl

theorem outcome_readOperands (field : String) (s : List Char) :
    outcome (readOperands field s) =
      match dropAnd? (skipBlanks s) with
      | none => .ok ([], s)
      | some rest => (do
        let (operand, rest) ← outcome (readSigned field rest)
        let (others, rest) ← outcome (readOperands field rest)
        .ok (operand.toList ++ others, rest)) := by
  rw [readOperands]
  split
  · next h => simp only [h, outcome_ok]
  · next rest h =>
    simp only [h]
    refine outcome_bind fun operand rest' lt => ?_
    refine outcome_bind fun others rest'' le => ?_
    rfl

theorem outcome_readSigned (field : String) (s : List Char) :
    outcome (readSigned field s) =
      match dropSign? (skipBlanks s) with
      | some (occur, rest) => (do
        let (item, rest) ← outcome (readSigned field rest)
        .ok (item.map fun i => ⟨some occur, i.toClause⟩, rest))
      | none => (do
        let (clause, rest) ← outcome (readPrimary field (skipBlanks s))
        .ok (clause.map fun c => ⟨none, c⟩, rest)) := by
  rw [readSigned]
  split
  · next occur rest h =>
    simp only [h]
    refine outcome_bind fun item rest' lt => ?_
    rfl
  · next h =>
    simp only [h]
    refine outcome_bind fun clause rest lt => ?_
    rfl

theorem outcome_readPrimary (field : String) (s : List Char) :
    outcome (readPrimary field s) =
      match s with
      | [] => .error ⟨.missingTerm, []⟩
      | c :: body =>
        match Opener.of? c with
        | some opener => outcome (readEnclosed field opener (c :: body) body)
        | none =>
          if c = '^' ∨ c = '~' then .error ⟨.unsupportedOperator, c :: body⟩
          else if isSpecial c then .error ⟨.unexpected c, c :: body⟩
          else
            match strayOperator? (c :: body) with
            | some operator => .error ⟨.missingOperand operator, c :: body⟩
            | none =>
              match readWord (c :: body) with
              | .error e => .error e
              | .ok (w, ':' :: rest) => outcome (readValue w.text rest)
              | .ok (w, rest) => .ok (w.clause? field, rest) := by
  rw [readPrimary.eq_def]
  cases s with
  | nil => rfl
  | cons c body =>
    dsimp only
    cases Opener.of? c with
    | some opener =>
      dsimp only
      cases readEnclosed field opener (c :: body) body <;> rfl
    | none =>
      dsimp only
      split
      · rfl
      · split
        · rfl
        · cases strayOperator? (c :: body) with
          | some operator => rfl
          | none =>
            dsimp only
            split
            · next h => simp only [h]; rfl
            · next w rest h =>
              simp only [h]
              cases readValue w.text rest <;> rfl
            · next w rest hcolon h =>
              simp only [h, outcome_ok]

theorem outcome_readValue (field : String) (s : List Char) :
    outcome (readValue field s) =
      match skipBlanks s with
      | [] => .error ⟨.missingValue field, []⟩
      | c :: body =>
        match Opener.of? c with
        | some opener => outcome (readEnclosed field opener (c :: body) body)
        | none =>
          if isSpecial c then .error ⟨.unexpected c, c :: body⟩
          else
            match readWord (c :: body) with
            | .error e => .error e
            | .ok (w, rest) => .ok (w.clause? field, rest) := by
  rw [readValue]
  split
  · next h _ => simp only [h]; rfl
  · next c body le h _ =>
    simp only [h]
    cases Opener.of? c with
    | some opener =>
      dsimp only
      cases readEnclosed field opener (c :: body) body <;> rfl
    | none =>
      dsimp only
      split
      · rfl
      · split
        · next h => simp only [h]; rfl
        · next h => simp only [h, outcome_ok]

theorem outcome_readEnclosed (field : String) (opener : Opener) (s body : List Char) :
    outcome (readEnclosed field opener s body) =
      match opener with
      | .group => (do
        let (items, rest) ← outcome (readAlternatives true field body)
        match skipBlanks rest with
        | ')' :: rest => .ok (alternatives? items, rest)
        | _ => .error ⟨.unclosedGroup, s⟩)
      | .phrase =>
        match readQuoted? body with
        | some (text, rest) => .ok (phrase? field text, rest)
        | none => .error ⟨.unterminatedPhrase, s⟩
      | .regexp =>
        match readRegexp? body with
        | some (pattern, rest) => .ok (some (.regexp field (String.ofList pattern)), rest)
        | none => .error ⟨.unterminatedRegexp, s⟩
      | .range isInclusive =>
        (readRange field s isInclusive body).map fun (clause, rest) => (some clause, rest) := by
  rw [readEnclosed.eq_def]
  split
  · refine outcome_bind fun items rest le => ?_
    dsimp only
    split
    · next h => simp only [h, outcome_ok]
    · next h =>
      split
      · next h' => exact (h _ h').elim
      · rfl
  · split
    · next h => simp only [h, outcome_ok]
    · next h => simp only [h]; rfl
  · split
    · next h => simp only [h, outcome_ok]
    · next h => simp only [h]; rfl
  · split
    · next h => simp only [h]; rfl
    · next h => simp only [h]; rfl

end RegistrySearch.Query
