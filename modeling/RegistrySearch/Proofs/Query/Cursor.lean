import RegistrySearch.Proofs.Text.Boundaries
import RegistrySearch.Query.Parser

/-!
# Reading with a cursor

The syntax of queries, read with a cursor that moves over the bytes of the text. Reading cuts the
text at the cursor, and stops if no character begins there (`Stop`). The loops and the recursion end
with the text if they end at all, and nothing here says that they do: they run for a number of
steps, which counts the turns of loops and the calls inside one another, and give `Scan.unfinished`
if that is too small. `Cursor.parse` is the clause of a query, read like this.
-/

namespace RegistrySearch.Query

open Text (normalize splitBytes? utf8Length)
open Unicode (isBlank)

/-- Why reading stops before it gives anything. -/
inductive Stop where
  /-- A text is cut at a byte at which no character begins, or behind its end. -/
  | offBoundary (n : Nat)
  | syntaxError (e : SyntaxError)
deriving DecidableEq

/-- What reading with a cursor gives. It gives nothing if it does not end within its steps. -/
abbrev Scan (α : Type) : Type := ExceptT Stop Option α

/-- Reading that has not ended when no steps are left. -/
def Scan.unfinished {α : Type} : Scan α := ExceptT.mk none

namespace Cursor

/-- Stops with a syntax error. -/
def fail {α : Type} (fault : Fault) (pos : Nat) : Scan α := throw (.syntaxError ⟨fault, pos⟩)

variable (s : String)

/-! ### Characters -/

/-- The text from the cursor on. -/
def rest (pos : Nat) : Scan String :=
  match splitBytes? s pos with
  | some (_, behind) => pure behind
  | none => throw (.offBoundary pos)

/-- The text between two places of the cursor. -/
def slice (start stop : Nat) : Scan String := do
  let behind ← rest s start
  if stop < start then throw (.offBoundary stop)
  else
    match splitBytes? behind (stop - start) with
    | some (front, _) => pure front
    | none => throw (.offBoundary stop)

/-- The next character. -/
def peek (pos : Nat) : Scan (Option Char) := do
  let behind ← rest s pos
  pure behind.toList.head?

/-- Moves behind the next character, if there is one. -/
def consume (pos : Nat) : Scan (Option Char × Nat) := do
  match ← peek s pos with
  | some c => pure (some c, pos + c.utf8Size)
  | none => pure (none, pos)

/-- Moves behind the next characters that satisfy `p`. -/
def skipWhile (p : Char → Bool) : Nat → Nat → Scan Nat
  | 0, _ => .unfinished
  | n + 1, pos => do
    match ← peek s pos with
    | some c => if p c then skipWhile p n (pos + c.utf8Size) else pure pos
    | none => pure pos

/-! ### Operators -/

/-- Whether a symbol is next. -/
def isAtSymbol (symbol : List Char) (pos : Nat) : Scan Bool := do
  let behind ← rest s pos
  pure (symbol.isPrefixOf behind.toList)

/-- Whether a keyword is next: a blank, a parenthesis or the end has to follow it. -/
def isAtKeyword (word : List Char) (pos : Nat) : Scan Bool := do
  let behind ← rest s pos
  if word.isPrefixOf behind.toList then
    match ← peek behind (utf8Length word) with
    | some c => pure (isBlank c || c = '(')
    | none => pure true
  else pure false

/-- Moves behind a keyword. -/
def eatKeyword? (word : List Char) (pos : Nat) : Scan (Option Nat) := do
  if ← isAtKeyword s word pos then pure (some (pos + utf8Length word)) else pure none

/-- Moves behind an operator, given as a keyword and as a symbol. -/
def eatOperator? (word symbol : List Char) (pos : Nat) : Scan (Option Nat) := do
  match ← eatKeyword? s word pos with
  | some pos => pure (some pos)
  | none => if ← isAtSymbol s symbol pos then pure (some (pos + utf8Length symbol)) else pure none

/-- Moves to the text of an alternative: behind the operator, if one follows an earlier
alternative. -/
def skipOr (isFirst : Bool) (pos : Nat) : Scan Nat := do
  if isFirst then pure pos
  else
    match ← eatOperator? s ['O', 'R'] ['|', '|'] pos with
    | some pos => pure pos
    | none => pure pos

/-- Whether a plus or a minus is right in front of something. -/
def isAtSign (pos : Nat) : Scan Bool := do
  let behind ← rest s pos
  match behind.toList with
  | c :: d :: _ => pure ((c = '+' || c = '-') && !isBlank d)
  | _ => pure false

/-- Moves behind a sign. -/
def eatSign? (pos : Nat) : Scan (Option (Occur × Nat)) := do
  match ← eatOperator? s ['N', 'O', 'T'] ['!'] pos with
  | some pos => pure (some (.mustNot, pos))
  | none =>
    if ← isAtSign s pos then
      match ← consume s pos with
      | (some '-', pos) => pure (some (.mustNot, pos))
      | (_, pos) => pure (some (.must, pos))
    else pure none

/-- The operator in front of what should be an operand. -/
def strayOperator? (pos : Nat) : Scan (Option String) := do
  if ← isAtKeyword s ['A', 'N', 'D'] pos then pure (some "AND")
  else if ← isAtSymbol s ['&', '&'] pos then pure (some "&&")
  else if ← isAtKeyword s ['O', 'R'] pos then pure (some "OR")
  else if ← isAtSymbol s ['|', '|'] pos then pure (some "||")
  else pure none

/-! ### Words and texts in delimiters -/

/-- Reads the characters of a bare word; the word may be empty. -/
def readTyped : Nat → Nat → Scan (Word × Nat)
  | 0, _ => .unfinished
  | n + 1, pos => do
    match ← peek s pos with
    | none => pure ([], pos)
    | some c =>
      if c = '\\' then
        let (_, behind) ← consume s pos
        match ← consume s behind with
        | (some d, behind) =>
          let (w, stop) ← readTyped n behind
          pure (.escaped d :: w, stop)
        | (none, _) => fail .danglingEscape pos
      else if isBlank c || isSpecial c then pure ([], pos)
      else
        let (_, behind) ← consume s pos
        let (w, stop) ← readTyped n behind
        pure (.plain c :: w, stop)

/-- Reads a bare word, for which the cursor has to move. -/
def readWord (n pos : Nat) : Scan (Word × Nat) := do
  let (w, stop) ← readTyped s n pos
  if stop = pos then fail .missingTerm pos else pure (w, stop)

/-- Reads up to a closing character. Of an escaped character `kept` is left. -/
def readClosed (closing : Char) (kept : Char → List Char) (fault : Fault) (start : Nat) :
    Nat → Nat → Scan (List Char × Nat)
  | 0, _ => .unfinished
  | n + 1, pos => do
    match ← consume s pos with
    | (none, _) => fail fault start
    | (some c, pos) =>
      if c = closing then pure ([], pos)
      else if c = '\\' then
        match ← consume s pos with
        | (none, _) => fail fault start
        | (some d, pos) =>
          let (text, stop) ← readClosed closing kept fault start n pos
          pure (kept d ++ text, stop)
      else
        let (text, stop) ← readClosed closing kept fault start n pos
        pure (c :: text, stop)

/-- Reads a quoted text from its opening quote on. -/
def readQuoted (n pos : Nat) : Scan (List Char × Nat) := do
  let (_, behind) ← consume s pos
  readClosed s '"' (fun c => [c]) .unterminatedPhrase pos n behind

/-- Reads a regular expression from its opening slash on. -/
def readRegexp (n pos : Nat) : Scan (List Char × Nat) := do
  let (_, behind) ← consume s pos
  readClosed s '/' (fun c => if c = '/' then ['/'] else ['\\', c]) .unterminatedRegexp pos n behind

/-- Reads a bound of a range. -/
def readBound (n pos : Nat) : Scan (Option String × Nat) := do
  if (← peek s pos) = some '"' then
    let (text, stop) ← readQuoted s n pos
    pure (some (normalize (String.ofList text)), stop)
  else
    let stop ← skipWhile s (fun c => !endsBound c) n pos
    let text ← slice s pos stop
    if text = "" then fail .missingBound pos
    else if text = "*" then pure (none, stop)
    else pure (some (normalize text), stop)

/-- Reads a range from its opening bracket on. -/
def readRange (field : String) (n start : Nat) : Scan (Clause × Nat) := do
  let (opening, pos) ← consume s start
  let (lower, pos) ← readBound s n (← skipWhile s isBlank n pos)
  let pos ← skipWhile s isBlank n pos
  match ← eatKeyword? s ['T', 'O'] pos with
  | none => fail .missingTo pos
  | some pos =>
    let (upper, pos) ← readBound s n (← skipWhile s isBlank n pos)
    let clause (closes : Bool) : Clause :=
      .range field (.ofValue? (opening = some '[') lower) (.ofValue? closes upper)
    match ← consume s (← skipWhile s isBlank n pos) with
    | (some ']', pos) => pure (clause true, pos)
    | (some '}', pos) => pure (clause false, pos)
    | _ => fail .unterminatedRange start

/-! ### Clauses -/

mutual

/-- Reads alternatives up to the end or a closing parenthesis. -/
def readAlternatives (isFirst : Bool) (field : String) : Nat → Nat → Scan (List Item × Nat)
  | 0, _ => .unfinished
  | n + 1, pos => do
    let pos ← skipWhile s isBlank n pos
    if s.utf8ByteSize ≤ pos then pure ([], pos)
    else if (← peek s pos) = some ')' then pure ([], pos)
    else
      let (item, pos) ← readConjunction field n (← skipOr s isFirst pos)
      let (items, pos) ← readAlternatives false field n pos
      pure (item.toList ++ items, pos)
termination_by structural n => n

/-- Reads a conjunction. -/
def readConjunction (field : String) : Nat → Nat → Scan (Option Item × Nat)
  | 0, _ => .unfinished
  | n + 1, pos => do
    let (first, pos) ← readSigned field n pos
    let (others, pos) ← readOperands field n pos
    pure (conjunction? (first.toList ++ others), pos)
termination_by structural n => n

/-- Reads the further operands of a conjunction. Behind the last one the cursor goes back to where
it was. -/
def readOperands (field : String) : Nat → Nat → Scan (List Item × Nat)
  | 0, _ => .unfinished
  | n + 1, pos => do
    match ← eatOperator? s ['A', 'N', 'D'] ['&', '&'] (← skipWhile s isBlank n pos) with
    | none => pure ([], pos)
    | some pos =>
      let (operand, pos) ← readSigned field n pos
      let (others, pos) ← readOperands field n pos
      pure (operand.toList ++ others, pos)
termination_by structural n => n

/-- Reads a clause with the signs in front of it. -/
def readSigned (field : String) : Nat → Nat → Scan (Option Item × Nat)
  | 0, _ => .unfinished
  | n + 1, pos => do
    let pos ← skipWhile s isBlank n pos
    match ← eatSign? s pos with
    | some (occur, pos) =>
      let (item, pos) ← readSigned field n pos
      pure (item.map fun i => ⟨some occur, i.toClause⟩, pos)
    | none =>
      let (clause, pos) ← readPrimary field n pos
      pure (clause.map fun c => ⟨none, c⟩, pos)
termination_by structural n => n

/-- Reads a clause without sign. -/
def readPrimary (field : String) : Nat → Nat → Scan (Option Clause × Nat)
  | 0, _ => .unfinished
  | n + 1, pos => do
    let pos ← skipWhile s isBlank n pos
    match ← peek s pos with
    | none => fail .missingTerm pos
    | some c =>
      match Opener.of? c with
      | some opener => readEnclosed field opener n pos
      | none =>
        if c = '^' ∨ c = '~' then fail .unsupportedOperator pos
        else if isSpecial c then fail (.unexpected c) pos
        else
          match ← strayOperator? s pos with
          | some operator => fail (.missingOperand operator) pos
          | none =>
            let (w, pos) ← readWord s n pos
            if (← peek s pos) = some ':' then
              let (_, pos) ← consume s pos
              readValue w.text n pos
            else pure (w.clause? field, pos)
termination_by structural n => n

/-- Reads what follows the name of a field and its colon. -/
def readValue (field : String) : Nat → Nat → Scan (Option Clause × Nat)
  | 0, _ => .unfinished
  | n + 1, pos => do
    let pos ← skipWhile s isBlank n pos
    match ← peek s pos with
    | none => fail (.missingValue field) pos
    | some c =>
      match Opener.of? c with
      | some opener => readEnclosed field opener n pos
      | none =>
        if isSpecial c then fail (.unexpected c) pos
        else
          let (w, pos) ← readWord s n pos
          pure (w.clause? field, pos)
termination_by structural n => n

/-- Reads a clause in delimiters from the opening one on. -/
def readEnclosed (field : String) (opener : Opener) : Nat → Nat → Scan (Option Clause × Nat)
  | 0, _ => .unfinished
  | n + 1, start => do
    match opener with
    | .group =>
      let (_, pos) ← consume s start
      let (items, pos) ← readAlternatives true field n pos
      match ← consume s (← skipWhile s isBlank n pos) with
      | (some ')', pos) => pure (alternatives? items, pos)
      | _ => fail .unclosedGroup start
    | .phrase =>
      let (text, pos) ← readQuoted s n start
      pure (phrase? field text, pos)
    | .regexp =>
      let (pattern, pos) ← readRegexp s n start
      pure (some (.regexp field (String.ofList pattern)), pos)
    | .range _ =>
      let (clause, pos) ← readRange s field n start
      pure (some clause, pos)
termination_by structural n => n

end

/-- The clause of a query whose clauses without a field look at `field`, read within `n` steps. -/
def parse (n : Nat) (field : String) : Scan Clause := do
  let pos ← skipWhile s isBlank n 0
  if s.utf8ByteSize ≤ pos then fail .emptyQuery 0
  else
    let (items, pos) ← readAlternatives s true field n pos
    let pos ← skipWhile s isBlank n pos
    match ← peek s pos with
    | some c => fail (.unexpected c) pos
    | none => pure ((alternatives? items).getD (.boolean []))

end Cursor

end RegistrySearch.Query
