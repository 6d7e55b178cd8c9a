import RegistrySearch.Query.Clause
import RegistrySearch.Query.SyntaxError
import RegistrySearch.Text.Rest
import RegistrySearch.Text.Token

/-!
# The words of a query

A bare word, a quoted text, a regular expression and the bounds of a range are read off the front of
a text. In a bare word a backslash takes the meaning from the next character, so each character is
kept as a `TypedChar`, with the knowledge whether it was escaped: an escaped `*` is no operator.

The readers do not know of positions. A `Failure` is a fault and the text from its place on, from
which the place can be counted. What a word or a quoted text means is a second step, for which they
are analyzed; it may be nothing.
-/

namespace RegistrySearch.Query

open Unicode (isBlank)
open Text (analyze normalize)

/-- A fault and the text from its place on. -/
structure Failure where
  fault : Fault
  rest : List Char

/-- The text behind the blanks in front. -/
def skipBlanks (s : List Char) : List Char := s.dropWhile isBlank

theorem length_skipBlanks_le (s : List Char) : (skipBlanks s).length ≤ s.length :=
  Text.length_dropWhile_le isBlank s

/-- Whether a character ends a bare word. -/
def isSpecial (c : Char) : Bool :=
  c = '(' || c = ')' || c = ':' || c = '"' || c = '[' || c = ']' || c = '{' || c = '}' || c = '^'
    || c = '~'

/-! ### Bare words -/

/-- A character as typed in a bare word. -/
inductive TypedChar where
  | plain (c : Char)
  | escaped (c : Char)
deriving DecidableEq

namespace TypedChar

/-- The character that is meant. -/
def char : TypedChar → Char
  | plain c => c
  | escaped c => c

/-- The characters that were typed. -/
def typed : TypedChar → List Char
  | plain c => [c]
  | escaped c => ['\\', c]

/-- Whether the character is an operator of wildcard patterns. -/
def isOperator : TypedChar → Bool
  | plain c => c = '*' || c = '?'
  | escaped _ => false

end TypedChar

/-- A bare word as typed. -/
abbrev Word := List TypedChar

namespace Word

/-- The text of a word, escapes resolved. -/
def text (w : Word) : String := String.ofList (w.map TypedChar.char)

/-- The pattern that a word is, escapes kept. -/
def pattern (w : Word) : String := String.ofList (w.flatMap TypedChar.typed)

/-- Whether a word has an operator of wildcard patterns. -/
def isWildcard (w : Word) : Bool := w.any TypedChar.isOperator

/-- The clause of a word: a pattern, a term, or a choice between the terms that analysis cuts the
word into. Nothing is left of a word without terms. -/
def clause? (field : String) (w : Word) : Option Clause :=
  if w.isWildcard then some (.wildcard field (normalize w.pattern))
  else
    match analyze w.text with
    | [] => none
    | [t] => some (.term field t)
    | ts => some (.boolean (ts.map fun t => (.should, .term field t)))

end Word

/-- Splits the characters of a bare word off the front; the word may be empty. -/
def readTyped : List Char → Except Failure (Word × List Char)
  | [] => .ok ([], [])
  | ['\\'] => .error ⟨.danglingEscape, ['\\']⟩
  | '\\' :: c :: rest => do
    let (w, rest) ← readTyped rest
    .ok (.escaped c :: w, rest)
  | c :: rest =>
    if isBlank c || isSpecial c then .ok ([], c :: rest)
    else do
      let (w, rest) ← readTyped rest
      .ok (.plain c :: w, rest)

/-- Splits a bare word of one character or more off the front. -/
def readWord (s : List Char) : Except Failure (Word × List Char) := do
  let (w, rest) ← readTyped s
  if w.isEmpty then .error ⟨.missingTerm, s⟩ else .ok (w, rest)

theorem length_add_le_of_readTyped {s rest : List Char} {w : Word}
    (h : readTyped s = .ok (w, rest)) : w.length + rest.length ≤ s.length := by
  fun_induction readTyped s generalizing w rest with
  | case1 => cases h; simp
  | case2 => cases h
  | case3 c r ih =>
    cases hr : readTyped r with
    | error e => rw [hr] at h; cases h
    | ok p =>
      rw [hr] at h; cases h
      have := ih hr
      simp only [List.length_cons]; omega
  | case4 c r _ _ => cases h; simp
  | case5 c r _ _ _ ih =>
    cases hr : readTyped r with
    | error e => rw [hr] at h; cases h
    | ok p =>
      rw [hr] at h; cases h
      have := ih hr
      simp only [List.length_cons]; omega

theorem length_lt_of_readWord {s rest : List Char} {w : Word}
    (h : readWord s = .ok (w, rest)) : rest.length < s.length := by
  unfold readWord at h
  cases ht : readTyped s with
  | error e => rw [ht] at h; cases h
  | ok p =>
    obtain ⟨w', r⟩ := p
    rw [ht] at h
    have := length_add_le_of_readTyped ht
    cases w' with
    | nil => cases h
    | cons c w' => cases h; simp only [List.length_cons] at this; omega

/-! ### Quoted texts and regular expressions -/

/-- Reads a quoted text behind its opening quote, up to the closing one. A backslash keeps the next
character from being a quote. -/
def readQuoted? : List Char → Option (List Char × List Char)
  | [] => none
  | '"' :: rest => some ([], rest)
  | ['\\'] => none
  | '\\' :: c :: rest => (readQuoted? rest).map fun (text, rest) => (c :: text, rest)
  | c :: rest => (readQuoted? rest).map fun (text, rest) => (c :: text, rest)

theorem length_lt_of_readQuoted? {s text rest : List Char}
    (h : readQuoted? s = some (text, rest)) : rest.length < s.length := by
  fun_induction readQuoted? s generalizing text rest with
  | case1 => cases h
  | case2 => cases h; simp
  | case3 => cases h
  | case4 c r ih =>
    obtain ⟨⟨t, r'⟩, hr, he⟩ := Option.map_eq_some_iff.1 h
    cases he
    have := ih hr
    simp only [List.length_cons]; omega
  | case5 c r _ _ _ ih =>
    obtain ⟨⟨t, r'⟩, hr, he⟩ := Option.map_eq_some_iff.1 h
    cases he
    have := ih hr
    simp only [List.length_cons]; omega

/-- The clause of a quoted text: its terms in a row. Nothing is left of a text without terms. -/
def phrase? (field : String) (text : List Char) : Option Clause :=
  match analyze (String.ofList text) with
  | [] => none
  | [t] => some (.term field t)
  | ts => some (.phrase field ts)

/-- Reads a regular expression behind its opening slash, up to the closing one. A backslash in front
of a slash is dropped, all others are kept. -/
def readRegexp? : List Char → Option (List Char × List Char)
  | [] => none
  | '/' :: rest => some ([], rest)
  | ['\\'] => none
  | '\\' :: c :: rest => (readRegexp? rest).map fun (pattern, rest) =>
      (if c = '/' then '/' :: pattern else '\\' :: c :: pattern, rest)
  | c :: rest => (readRegexp? rest).map fun (pattern, rest) => (c :: pattern, rest)

theorem length_lt_of_readRegexp? {s pattern rest : List Char}
    (h : readRegexp? s = some (pattern, rest)) : rest.length < s.length := by
  fun_induction readRegexp? s generalizing pattern rest with
  | case1 => cases h
  | case2 => cases h; simp
  | case3 => cases h
  | case4 c r ih =>
    obtain ⟨⟨t, r'⟩, hr, he⟩ := Option.map_eq_some_iff.1 h
    cases he
    have := ih hr
    simp only [List.length_cons]; omega
  | case5 c r _ _ _ ih =>
    obtain ⟨⟨t, r'⟩, hr, he⟩ := Option.map_eq_some_iff.1 h
    cases he
    have := ih hr
    simp only [List.length_cons]; omega

/-! ### Bounds of ranges -/

/-- Whether a character ends a bound without quotes. -/
def endsBound (c : Char) : Bool := isBlank c || c = ']' || c = '}'

/-- Splits a bound off the front: a quoted text, or the characters up to a blank or a closing
bracket, of which a lone `*` is no bound. The bound is in normal form. -/
def readBound (s : List Char) : Except Failure (Option String × List Char) :=
  match s with
  | '"' :: rest =>
    match readQuoted? rest with
    | some (text, rest) => .ok (some (normalize (String.ofList text)), rest)
    | none => .error ⟨.unterminatedPhrase, s⟩
  | _ =>
    let rest := s.dropWhile fun c => !endsBound c
    match s.takeWhile fun c => !endsBound c with
    | [] => .error ⟨.missingBound, s⟩
    | ['*'] => .ok (none, rest)
    | text => .ok (some (normalize (String.ofList text)), rest)

theorem length_le_of_readBound {s rest : List Char} {bound : Option String}
    (h : readBound s = .ok (bound, rest)) : rest.length ≤ s.length := by
  unfold readBound at h
  split at h
  · split at h
    · next hq => cases h; have := length_lt_of_readQuoted? hq; simp only [List.length_cons]; omega
    · cases h
  · have := Text.length_dropWhile_le (fun c => !endsBound c) s
    split at h <;> cases h <;> exact this

/-- The bound of a range whose bracket includes it or not. -/
def Bound.ofValue? (isInclusive : Bool) : Option String → Bound
  | none => .unbounded
  | some value => if isInclusive then .inclusive value else .exclusive value

/-- Takes `word` off the front of a text. -/
def dropWord? (word : List Char) (s : List Char) : Option (List Char) :=
  if word.isPrefixOf s then some (s.drop word.length) else none

/-- Takes a keyword off the front of a text; a blank, a parenthesis or the end has to follow it. -/
def dropKeyword? (word : List Char) (s : List Char) : Option (List Char) :=
  match dropWord? word s with
  | some [] => some []
  | some (c :: rest) => if isBlank c || c = '(' then some (c :: rest) else none
  | none => none

theorem length_le_of_dropWord? {word s rest : List Char} (h : dropWord? word s = some rest) :
    rest.length + word.length ≤ s.length := by
  unfold dropWord? at h
  split at h
  · next hp =>
    cases h
    have := (List.isPrefixOf_iff_prefix.1 hp).length_le
    simp only [List.length_drop]; omega
  · cases h

theorem length_le_of_dropKeyword? {word s rest : List Char}
    (h : dropKeyword? word s = some rest) : rest.length + word.length ≤ s.length := by
  unfold dropKeyword? at h
  split at h
  · next hw => cases h; exact length_le_of_dropWord? hw
  · next hw =>
    split at h
    · cases h; exact length_le_of_dropWord? hw
    · cases h
  · cases h

/-- Reads a range behind its opening bracket; `s` is the text from the bracket on. -/
def readRange (field : String) (s : List Char) (isInclusive : Bool) (body : List Char) :
    Except Failure (Clause × List Char) := do
  let (lower, rest) ← readBound (skipBlanks body)
  let rest := skipBlanks rest
  match dropKeyword? ['T', 'O'] rest with
  | none => .error ⟨.missingTo, rest⟩
  | some rest =>
    let (upper, rest) ← readBound (skipBlanks rest)
    let clause (closes : Bool) : Clause :=
      .range field (.ofValue? isInclusive lower) (.ofValue? closes upper)
    match skipBlanks rest with
    | ']' :: rest => .ok (clause true, rest)
    | '}' :: rest => .ok (clause false, rest)
    | _ => .error ⟨.unterminatedRange, s⟩

theorem length_lt_of_readRange {field : String} {s body rest : List Char} {isInclusive : Bool}
    {clause : Clause} (h : readRange field s isInclusive body = .ok (clause, rest)) :
    rest.length < body.length := by
  unfold readRange at h
  cases hl : readBound (skipBlanks body) with
  | error e => rw [hl] at h; cases h
  | ok p =>
    obtain ⟨lower, r₁⟩ := p
    rw [hl] at h
    have h₁ := length_le_of_readBound hl
    have h₀ := Text.length_dropWhile_le isBlank body
    have h₂ := Text.length_dropWhile_le isBlank r₁
    simp only [bind, Except.bind] at h
    split at h
    · cases h
    · next r₂ hk =>
      have h₃ := length_le_of_dropKeyword? hk
      have h₄ := Text.length_dropWhile_le isBlank r₂
      cases hu : readBound (skipBlanks r₂) with
      | error e => rw [hu] at h; cases h
      | ok q =>
        obtain ⟨upper, r₃⟩ := q
        rw [hu] at h
        have h₅ := length_le_of_readBound hu
        simp only [skipBlanks, List.length_cons, List.length_nil] at *
        split at h
        · next hc => cases h; have := Text.length_lt_of_dropWhile hc; omega
        · next hc => cases h; have := Text.length_lt_of_dropWhile hc; omega
        · cases h

end RegistrySearch.Query
