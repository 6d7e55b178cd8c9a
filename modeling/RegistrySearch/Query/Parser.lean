import RegistrySearch.Query.Token

/-!
# Reading queries

The syntax, from the loosest to the tightest binding:

* alternatives, side by side or joined by `OR` or `||`;
* conjunctions, joined by `AND` or `&&`;
* signs in front: `NOT`, `!` and `-` exclude, `+` requires;
* a group in parentheses, a phrase in quotes, a regular expression in slashes, a range in brackets,
  or a bare word, each with a field in front or not.

Analysis may leave nothing of a word or a phrase. Such a clause is dropped from the combinations
around it, and a query of which nothing is left is the boolean clause without children.
`Clause.parse` gives the clause of a query, or its first syntax error.
-/

namespace RegistrySearch.Query

open Text (Rest Remainder utf8Length)

/-- A clause and the sign in front of it. -/
structure Item where
  occur : Option Occur
  clause : Clause

namespace Item

/-- An item that stands alone; a sign becomes a boolean clause of one child. -/
def toClause (i : Item) : Clause :=
  match i.occur with
  | some occur => .boolean [(occur, i.clause)]
  | none => i.clause

/-- An item among alternatives. -/
def toAlternative (i : Item) : Occur × Clause := (i.occur.getD .should, i.clause)

/-- An item in a conjunction, where all that is not excluded is required. -/
def toOperand (i : Item) : Occur × Clause :=
  (if i.occur = some .mustNot then .mustNot else .must, i.clause)

end Item

/-- The clause of alternatives. -/
def alternatives? : List Item → Option Clause
  | [] => none
  | [item] => some item.toClause
  | items => some (.boolean (items.map Item.toAlternative))

/-- The item of a conjunction. One operand alone keeps its sign. -/
def conjunction? : List Item → Option Item
  | [] => none
  | [item] => some item
  | items => some ⟨none, .boolean (items.map Item.toOperand)⟩

/-! ### Operators -/

/-- Takes an operator off the front of a text, as a keyword or as a symbol. -/
def dropOperator? (word symbol : List Char) (s : List Char) : Option (List Char) :=
  match dropKeyword? word s with
  | some rest => some rest
  | none => dropWord? symbol s

/-- Takes the operator between alternatives off the front. -/
def dropOr? : List Char → Option (List Char) := dropOperator? ['O', 'R'] ['|', '|']

/-- Takes the operator of conjunctions off the front. -/
def dropAnd? : List Char → Option (List Char) := dropOperator? ['A', 'N', 'D'] ['&', '&']

/-- The text of an alternative: behind the operator, if one follows an earlier alternative. -/
def alternative (isFirst : Bool) (s : List Char) : List Char :=
  if isFirst then s else (dropOr? s).getD s

/-- Takes a sign off the front. A plus or a minus counts only right in front of something. -/
def dropSign? (s : List Char) : Option (Occur × List Char) :=
  match dropOperator? ['N', 'O', 'T'] ['!'] s with
  | some rest => some (.mustNot, rest)
  | none =>
    match s with
    | '+' :: c :: rest => if Unicode.isBlank c then none else some (.must, c :: rest)
    | '-' :: c :: rest => if Unicode.isBlank c then none else some (.mustNot, c :: rest)
    | _ => none

/-- The operator in front of a text that should begin with an operand. -/
def strayOperator? (s : List Char) : Option String :=
  if (dropKeyword? ['A', 'N', 'D'] s).isSome then some "AND"
  else if (dropWord? ['&', '&'] s).isSome then some "&&"
  else if (dropKeyword? ['O', 'R'] s).isSome then some "OR"
  else if (dropWord? ['|', '|'] s).isSome then some "||"
  else none

theorem length_lt_of_dropOperator? {word symbol s rest : List Char} (hw : word ≠ [])
    (hs : symbol ≠ []) (h : dropOperator? word symbol s = some rest) :
    rest.length < s.length := by
  have := List.length_pos_iff.2 hw
  have := List.length_pos_iff.2 hs
  unfold dropOperator? at h
  split at h
  · next hk => cases h; have := length_le_of_dropKeyword? hk; omega
  · have := length_le_of_dropWord? h; omega

theorem length_lt_of_dropAnd? {s rest : List Char} (h : dropAnd? s = some rest) :
    rest.length < s.length :=
  length_lt_of_dropOperator? (by decide) (by decide) h

theorem length_alternative_le (isFirst : Bool) (s : List Char) :
    (alternative isFirst s).length ≤ s.length := by
  unfold alternative
  split
  · exact Nat.le_refl _
  · cases h : dropOr? s with
    | none => exact Nat.le_refl _
    | some rest => exact Nat.le_of_lt (length_lt_of_dropOperator? (by decide) (by decide) h)

theorem length_lt_of_dropSign? {s rest : List Char} {occur : Occur}
    (h : dropSign? s = some (occur, rest)) : rest.length < s.length := by
  unfold dropSign? at h
  split at h
  · next hn => cases h; exact length_lt_of_dropOperator? (by decide) (by decide) hn
  · split at h
    · split at h <;> cases h; simp
    · split at h <;> cases h; simp
    · cases h

/-! ### Clauses -/

/-- What a delimiter opens. -/
inductive Opener where
  | group
  | phrase
  | regexp
  | range (isInclusive : Bool)

/-- What a character opens. -/
def Opener.of? (c : Char) : Option Opener :=
  match c with
  | '(' => some .group
  | '"' => some .phrase
  | '/' => some .regexp
  | '[' => some (.range true)
  | '{' => some (.range false)
  | _ => none

mutual

/-- Reads alternatives up to the end or a closing parenthesis. -/
def readAlternatives (isFirst : Bool) (field : String) (s : List Char) :
    Except Failure (List Item × Remainder s) :=
  have le := length_skipBlanks_le s
  match skipBlanks s, le with
  | [], le => .ok ([], ⟨[], le⟩)
  | ')' :: rest, le => .ok ([], ⟨')' :: rest, le⟩)
  | c :: t, le => do
    have le' := Nat.le_trans (length_alternative_le isFirst (c :: t)) le
    let (item, ⟨rest, lt⟩) ← readConjunction field (alternative isFirst (c :: t))
    let (items, ⟨rest', le''⟩) ← readAlternatives false field rest
    .ok (item.toList ++ items, ⟨rest', by omega⟩)
termination_by 6 * s.length + 4

/-- Reads a conjunction. -/
def readConjunction (field : String) (s : List Char) :
    Except Failure (Option Item × Rest s) := do
  let (first, ⟨rest, lt⟩) ← readSigned field s
  let (others, ⟨rest', le⟩) ← readOperands field rest
  .ok (conjunction? (first.toList ++ others), ⟨rest', by omega⟩)
termination_by 6 * s.length + 3

/-- Reads the further operands of a conjunction, each behind its operator. -/
def readOperands (field : String) (s : List Char) :
    Except Failure (List Item × Remainder s) :=
  match h : dropAnd? (skipBlanks s) with
  | none => .ok ([], ⟨s, Nat.le_refl _⟩)
  | some rest => do
    have lt : rest.length < s.length :=
      Nat.lt_of_lt_of_le (length_lt_of_dropAnd? h) (length_skipBlanks_le s)
    let (operand, ⟨rest', lt'⟩) ← readSigned field rest
    let (others, ⟨rest'', le⟩) ← readOperands field rest'
    .ok (operand.toList ++ others, ⟨rest'', by omega⟩)
termination_by 6 * s.length + 2

/-- Reads a clause with the signs in front of it. -/
def readSigned (field : String) (s : List Char) : Except Failure (Option Item × Rest s) :=
  have le := length_skipBlanks_le s
  match h : dropSign? (skipBlanks s) with
  | some (occur, rest) => do
    have lt : rest.length < s.length := Nat.lt_of_lt_of_le (length_lt_of_dropSign? h) le
    let (item, ⟨rest', lt'⟩) ← readSigned field rest
    .ok (item.map fun i => ⟨some occur, i.toClause⟩, ⟨rest', by omega⟩)
  | none => do
    let (clause, ⟨rest, lt⟩) ← readPrimary field (skipBlanks s)
    .ok (clause.map fun c => ⟨none, c⟩, ⟨rest, Nat.lt_of_lt_of_le lt le⟩)
termination_by 6 * s.length + 1

/-- Reads a clause without sign. -/
def readPrimary (field : String) (s : List Char) : Except Failure (Option Clause × Rest s) :=
  match s with
  | [] => .error ⟨.missingTerm, []⟩
  | c :: body =>
    match Opener.of? c with
    | some opener => do
      let (clause, ⟨rest, lt⟩) ← readEnclosed field opener (c :: body) body
      .ok (clause, ⟨rest, Nat.lt_succ_of_lt lt⟩)
    | none =>
      if c = '^' ∨ c = '~' then .error ⟨.unsupportedOperator, c :: body⟩
      else if isSpecial c then .error ⟨.unexpected c, c :: body⟩
      else
        match strayOperator? (c :: body) with
        | some operator => .error ⟨.missingOperand operator, c :: body⟩
        | none =>
          match h : readWord (c :: body) with
          | .error e => .error e
          | .ok (w, ':' :: rest) => do
            have lt : rest.length < body.length + 1 :=
              Nat.lt_of_succ_lt (length_lt_of_readWord h)
            let (clause, ⟨rest', lt'⟩) ← readValue w.text rest
            .ok (clause, ⟨rest', Nat.lt_trans lt' lt⟩)
          | .ok (w, rest) => .ok (w.clause? field, ⟨rest, length_lt_of_readWord h⟩)
termination_by 6 * s.length

/-- Reads what follows the name of a field and its colon. -/
def readValue (field : String) (s : List Char) : Except Failure (Option Clause × Rest s) :=
  have le := length_skipBlanks_le s
  match skipBlanks s, le with
  | [], _ => .error ⟨.missingValue field, []⟩
  | c :: body, le =>
    match Opener.of? c with
    | some opener => do
      have le' : body.length < s.length := le
      let (clause, ⟨rest, lt⟩) ← readEnclosed field opener (c :: body) body
      .ok (clause, ⟨rest, Nat.lt_trans lt le'⟩)
    | none =>
      if isSpecial c then .error ⟨.unexpected c, c :: body⟩
      else
        match h : readWord (c :: body) with
        | .error e => .error e
        | .ok (w, rest) =>
          .ok (w.clause? field, ⟨rest, Nat.lt_of_lt_of_le (length_lt_of_readWord h) le⟩)
termination_by 6 * s.length

/-- Reads a clause in delimiters: `s` is the text from the opening one on, `body` what follows. -/
def readEnclosed (field : String) (opener : Opener) (s body : List Char) :
    Except Failure (Option Clause × Rest body) :=
  match opener with
  | .group => do
    let (items, ⟨rest, le⟩) ← readAlternatives true field body
    match h : skipBlanks rest with
    | ')' :: rest' =>
      .ok (alternatives? items, ⟨rest', Nat.lt_of_lt_of_le (Text.length_lt_of_dropWhile h) le⟩)
    | _ => .error ⟨.unclosedGroup, s⟩
  | .phrase =>
    match h : readQuoted? body with
    | some (text, rest) => .ok (phrase? field text, ⟨rest, length_lt_of_readQuoted? h⟩)
    | none => .error ⟨.unterminatedPhrase, s⟩
  | .regexp =>
    match h : readRegexp? body with
    | some (pattern, rest) =>
      .ok (some (.regexp field (String.ofList pattern)), ⟨rest, length_lt_of_readRegexp? h⟩)
    | none => .error ⟨.unterminatedRegexp, s⟩
  | .range isInclusive =>
    match h : readRange field s isInclusive body with
    | .error e => .error e
    | .ok (clause, rest) => .ok (some clause, ⟨rest, length_lt_of_readRange h⟩)
termination_by 6 * body.length + 5

end

/-- Reads a whole query whose clauses without a field look at `field`. -/
def readQuery (field : String) (s : List Char) : Except Failure Clause := do
  let (items, ⟨rest, _⟩) ← readAlternatives true field s
  match skipBlanks rest with
  | c :: rest => .error ⟨.unexpected c, c :: rest⟩
  | [] => .ok ((alternatives? items).getD (.boolean []))

/-- The place of a failure in the query `s`. -/
def Failure.toError (s : List Char) (f : Failure) : SyntaxError :=
  ⟨f.fault, utf8Length s - utf8Length f.rest⟩

/-- The name of the field that clauses without a field look at: the whole record. -/
def bodyField : String := "body"

/-- The clause of a query whose clauses without a field look at `field`. -/
def Clause.parseWith (field query : String) : Except SyntaxError Clause :=
  let s := query.toList
  if (skipBlanks s).isEmpty then .error ⟨.emptyQuery, 0⟩
  else (readQuery field s).mapError (Failure.toError s)

/-- The clause of a query. -/
def Clause.parse (query : String) : Except SyntaxError Clause :=
  Clause.parseWith bodyField query

end RegistrySearch.Query
