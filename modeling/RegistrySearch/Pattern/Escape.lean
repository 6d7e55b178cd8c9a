import RegistrySearch.Pattern.Flags

/-!
# Escapes

What follows a backslash is an `Atom`: a character written in another way, a named set, or a demand
on the position. References to groups and octal numbers are refused, as is every letter without a
meaning.
-/

namespace RegistrySearch.Pattern

open Unicode (Ranges)

/-- What an escape, or one character, stands for. -/
inductive Atom where
  | char (c : Char)
  | set (set : Ranges)
  | look (assertion : Assertion)

/-- The characters that have a meaning of their own. -/
def isMeta (c : Char) : Bool :=
  c = '\\' || c = '.' || c = '+' || c = '*' || c = '?' || c = '(' || c = ')' || c = '|' || c = '['
    || c = ']' || c = '{' || c = '}' || c = '^' || c = '$' || c = '#' || c = '&' || c = '-'
    || c = '~'

/-- Whether a backslash in front of a character means just the character: where it has a meaning of
its own, and for all of ASCII but letters, digits and angle brackets. -/
def isEscapable (c : Char) : Bool :=
  isMeta c || (c.toNat ≤ 0x7F && !c.isAlphanum && c ≠ '<' && c ≠ '>')

/-- The characters that are written as a letter. -/
def controlLetters : List (Char × Char) :=
  [('a', '\x07'), ('f', '\x0c'), ('t', '\t'), ('n', '\n'), ('r', '\r'), ('v', '\x0b')]

/-! ### Code points -/

/-- The value of a hexadecimal digit. -/
def hexDigit? (c : Char) : Option Nat :=
  if '0' ≤ c ∧ c ≤ '9' then some (c.toNat - '0'.toNat)
  else if 'a' ≤ c ∧ c ≤ 'f' then some (c.toNat - 'a'.toNat + 10)
  else if 'A' ≤ c ∧ c ≤ 'F' then some (c.toNat - 'A'.toNat + 10)
  else none

/-- The character that hexadecimal digits denote. -/
def hexChar? (digits : List Char) : Option Char := do
  if digits.isEmpty then none
  else
    let n := (← digits.mapM hexDigit?).foldl (fun n d => 16 * n + d) 0
    if n.isValidChar then some (Char.ofNat n) else none

/-- Splits `count` characters off the front, each with the blanks and remarks behind it. -/
def readCount (f : Flags) : Nat → List Char → Option (List Char × List Char)
  | 0, s => some ([], s)
  | _ + 1, [] => none
  | count + 1, c :: rest =>
    (readCount f count (f.skip rest)).map fun (taken, rest) => (c :: taken, rest)

/-- Reads what stands in braces behind the opening one, without blanks and remarks. -/
def readBraced (f : Flags) (s : List Char) : Option (List Char × List Char) :=
  match h : f.skip s with
  | [] => none
  | '}' :: rest => some ([], rest)
  | c :: rest =>
    have : rest.length < s.length := by
      have := f.length_skip_le s
      rw [h] at this
      exact this
    (readBraced f rest).map fun (taken, rest) => (c :: taken, rest)
termination_by s.length

/-- Reads a code point behind its letter: `count` digits, or any number of them in braces. Without
Unicode two digits are a byte, which must be ASCII. -/
def readHex (f : Flags) (count : Nat) (s : List Char) : Option (Atom × List Char) :=
  match f.skip s with
  | '{' :: rest => do
    let (digits, rest) ← readBraced f rest
    some (.char (← hexChar? digits), f.skip rest)
  | t => do
    let (digits, rest) ← readCount f count t
    let c ← hexChar? digits
    if !f.unicode && count = 2 && 0x7F < c.toNat then none else some (.char c, rest)

/-! ### Properties -/

/-- Splits a text at the first occurrence of `separator`. -/
def splitOnce (separator : List Char) : List Char → Option (List Char × List Char)
  | [] => none
  | c :: rest =>
    if separator.isPrefixOf (c :: rest) then some ([], (c :: rest).drop separator.length)
    else (splitOnce separator rest).map fun (head, tail) => (c :: head, tail)

/-- The set of a property in braces, and whether an unequal sign negates it. -/
def bracedProperty? (content : List Char) : Option (Bool × Ranges) :=
  match splitOnce ['!', '='] content with
  | some (property, value) => (propertyValueSet? property value).map fun set => (true, set)
  | none =>
    match splitOnce [':'] content <|> splitOnce ['='] content with
    | some (property, value) => (propertyValueSet? property value).map fun set => (false, set)
    | none => (propertySet? content).map fun set => (false, set)

/-- Reads a property behind its letter: one letter, or a name in braces. -/
def readProperty (f : Flags) (isNegated : Bool) (s : List Char) : Option (Atom × List Char) :=
  if !f.unicode then none
  else
    match f.skip s with
    | [] => none
    | '{' :: rest => do
      let (content, rest) ← readBraced f rest
      let (isUnequal, set) ← bracedProperty? content
      some (.set (← f.named? (isNegated != isUnequal) set), rest)
    | c :: rest =>
      if c = '\\' then none
      else do some (.set (← f.named? isNegated (← propertySet? [c])), f.skip rest)

/-! ### Word boundaries -/

/-- Whether a character can stand in the name of a word boundary. -/
def isBoundaryChar (c : Char) : Bool := c.isAlpha || c = '-'

/-- The word boundary with a name. -/
def namedBoundary? (ascii : Bool) (name : List Char) : Option Assertion :=
  match String.ofList name with
  | "start" => some (.wordStart ascii)
  | "end" => some (.wordEnd ascii)
  | "start-half" => some (.wordStartHalf ascii)
  | "end-half" => some (.wordEndHalf ascii)
  | _ => none

/-- Reads a word boundary behind its letter. A name in braces may follow; what else follows in
braces is a repetition. -/
def readBoundary (f : Flags) (s : List Char) : Option (Atom × List Char) :=
  match s with
  | '{' :: rest =>
    match f.skip rest with
    | [] => none
    | c :: _ =>
      if isBoundaryChar c then do
        let (name, rest) ← readBraced f rest
        some (.look (← namedBoundary? (!f.unicode) name), rest)
      else some (.look (.boundary (!f.unicode)), s)
  | _ => some (.look (.boundary (!f.unicode)), s)

/-! ### Escapes -/

/-- The set that a letter stands for. -/
def letterSet? (f : Flags) (c : Char) : Option Ranges :=
  match c with
  | 'd' => f.signed? false (if f.unicode then digits else asciiDigits)
  | 'D' => f.signed? true (if f.unicode then digits else asciiDigits)
  | 's' => f.signed? false (if f.unicode then blanks else asciiBlanks)
  | 'S' => f.signed? true (if f.unicode then blanks else asciiBlanks)
  | 'w' => f.signed? false (if f.unicode then wordChars else asciiWordChars)
  | 'W' => f.signed? true (if f.unicode then wordChars else asciiWordChars)
  | _ => none

/-- The demand that a letter or an angle bracket stands for. -/
def letterLook? (f : Flags) (c : Char) : Option Assertion :=
  match c with
  | 'A' => some .textStart
  | 'z' => some .textEnd
  | 'B' => some (.noBoundary (!f.unicode))
  | '<' => some (.wordStart (!f.unicode))
  | '>' => some (.wordEnd (!f.unicode))
  | _ => none

/-- What a character stands for behind a backslash, if nothing more belongs to it. -/
def simpleEscape? (f : Flags) (c : Char) : Option Atom :=
  if isEscapable c then some (.char c)
  else
    (controlLetters.lookup c).map .char <|> (letterSet? f c).map .set
      <|> (letterLook? f c).map .look

/-- Reads an escape behind its backslash. -/
def readEscape (f : Flags) : List Char → Option (Atom × List Char)
  | [] => none
  | 'x' :: rest => readHex f 2 rest
  | 'u' :: rest => readHex f 4 rest
  | 'U' :: rest => readHex f 8 rest
  | 'p' :: rest => readProperty f false rest
  | 'P' :: rest => readProperty f true rest
  | 'b' :: rest => readBoundary f rest
  | c :: rest => (simpleEscape? f c).map fun atom => (atom, rest)

/-! ### Nothing is taken for free -/

theorem length_le_of_readCount {f : Flags} {count : Nat} {s taken rest : List Char}
    (h : readCount f count s = some (taken, rest)) : rest.length ≤ s.length := by
  fun_induction readCount f count s generalizing taken rest with
  | case1 => cases h; exact Nat.le_refl _
  | case2 => cases h
  | case3 count c r ih =>
    obtain ⟨⟨t, r'⟩, hr, he⟩ := Option.map_eq_some_iff.1 h
    cases he
    have := ih hr
    have := f.length_skip_le r
    simp only [List.length_cons]; omega

theorem length_lt_of_readBraced {f : Flags} {s taken rest : List Char}
    (h : readBraced f s = some (taken, rest)) : rest.length < s.length := by
  fun_induction readBraced f s generalizing taken rest with
  | case1 => cases h
  | case2 s r hs =>
    cases h
    have := f.length_skip_le s
    rw [hs] at this
    exact this
  | case3 s c r hs _ hlt ih =>
    obtain ⟨⟨t, r'⟩, hr, he⟩ := Option.map_eq_some_iff.1 h
    cases he
    exact Nat.lt_trans (ih hr) hlt

theorem length_le_of_readHex {f : Flags} {count : Nat} {s rest : List Char} {atom : Atom}
    (h : readHex f count s = some (atom, rest)) : rest.length ≤ s.length := by
  have hs := f.length_skip_le s
  unfold readHex at h
  split at h
  · next r ht =>
    rw [ht] at hs
    obtain ⟨⟨digits, r'⟩, hd, h⟩ := Option.bind_eq_some_iff.1 h
    obtain ⟨c, hc, h⟩ := Option.bind_eq_some_iff.1 h
    cases h
    have := length_lt_of_readBraced hd
    have := f.length_skip_le r'
    simp only [List.length_cons] at hs; omega
  · obtain ⟨⟨digits, r'⟩, hd, h⟩ := Option.bind_eq_some_iff.1 h
    obtain ⟨c, hc, h⟩ := Option.bind_eq_some_iff.1 h
    have := length_le_of_readCount hd
    split at h
    · cases h
    · cases h; omega

theorem length_le_of_readProperty {f : Flags} {isNegated : Bool} {s rest : List Char} {atom : Atom}
    (h : readProperty f isNegated s = some (atom, rest)) : rest.length ≤ s.length := by
  have hs := f.length_skip_le s
  unfold readProperty at h
  split at h
  · cases h
  · split at h
    · cases h
    · next r ht =>
      rw [ht] at hs
      obtain ⟨⟨content, r'⟩, hd, h⟩ := Option.bind_eq_some_iff.1 h
      obtain ⟨⟨isUnequal, set⟩, _, h⟩ := Option.bind_eq_some_iff.1 h
      obtain ⟨_, _, h⟩ := Option.bind_eq_some_iff.1 h
      cases h
      have := length_lt_of_readBraced hd
      simp only [List.length_cons] at hs; omega
    · next c r _ ht =>
      rw [ht] at hs
      split at h
      · cases h
      · obtain ⟨_, _, h⟩ := Option.bind_eq_some_iff.1 h
        obtain ⟨_, _, h⟩ := Option.bind_eq_some_iff.1 h
        cases h
        have := f.length_skip_le r
        simp only [List.length_cons] at hs; omega

theorem length_le_of_readBoundary {f : Flags} {s rest : List Char} {atom : Atom}
    (h : readBoundary f s = some (atom, rest)) : rest.length ≤ s.length := by
  unfold readBoundary at h
  split at h
  · split at h
    · cases h
    · split at h
      · obtain ⟨⟨name, r'⟩, hd, h⟩ := Option.bind_eq_some_iff.1 h
        obtain ⟨_, _, h⟩ := Option.bind_eq_some_iff.1 h
        cases h
        have := length_lt_of_readBraced hd
        simp only [List.length_cons]; omega
      · cases h; exact Nat.le_refl _
  · cases h; exact Nat.le_refl _

/-- An escape takes at least one character. -/
theorem length_lt_of_readEscape {f : Flags} {s rest : List Char} {atom : Atom}
    (h : readEscape f s = some (atom, rest)) : rest.length < s.length := by
  unfold readEscape at h
  split at h
  · cases h
  · exact Nat.lt_succ_of_le (length_le_of_readHex h)
  · exact Nat.lt_succ_of_le (length_le_of_readHex h)
  · exact Nat.lt_succ_of_le (length_le_of_readHex h)
  · exact Nat.lt_succ_of_le (length_le_of_readProperty h)
  · exact Nat.lt_succ_of_le (length_le_of_readProperty h)
  · exact Nat.lt_succ_of_le (length_le_of_readBoundary h)
  · obtain ⟨_, _, he⟩ := Option.map_eq_some_iff.1 h
    cases he
    simp

end RegistrySearch.Pattern
