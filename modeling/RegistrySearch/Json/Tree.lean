import RegistrySearch.Dictionary
import RegistrySearch.Json.Value
import RegistrySearch.Text.Rest

/-!
# The syntax tree of JSON text

Text is read in two steps. `Tree.read?` accepts exactly the grammar of JSON and keeps everything as
written: digits of numbers, halves of surrogate pairs, repeated keys, any depth. What a reader makes
of a tree is decided afterwards, because a part that is skipped need not denote a value.

`Value.ofTree?` is the reader of whole values: a string must pair its surrogates, a tree must not be
deeper than 127 levels, and of repeated keys the last one counts.
-/

namespace RegistrySearch.Json

open Text (Remainder Rest)

/-- JSON as written. The characters of strings are code points; an escape may be a surrogate. -/
inductive Tree where
  | null
  | bool (b : Bool)
  | number (n : NumberText)
  | string (codes : List Nat)
  | array (items : List Tree)
  | object (members : List (List Nat × Tree))

namespace Tree

/-! ### Blanks, strings and numbers -/

/-- Whether a character may stand between tokens. -/
def isBlank (c : Char) : Bool := c = ' ' || c = '\n' || c = '\t' || c = '\r'

/-- What follows the blanks in front. -/
def skipBlanks (s : List Char) : List Char := s.dropWhile isBlank

theorem length_lt_of_skipBlanks {s rest : List Char} {c : Char} (h : skipBlanks s = c :: rest) :
    rest.length < s.length :=
  Text.length_lt_of_dropWhile h

/-- The value of a hexadecimal digit. -/
def hexDigit? (c : Char) : Option Nat :=
  if '0' ≤ c ∧ c ≤ '9' then some (c.toNat - '0'.toNat)
  else if 'a' ≤ c ∧ c ≤ 'f' then some (c.toNat - 'a'.toNat + 10)
  else if 'A' ≤ c ∧ c ≤ 'F' then some (c.toNat - 'A'.toNat + 10)
  else none

/-- The character that a backslash in front of `c` stands for, the numeric escape left aside. -/
def escape? (c : Char) : Option Char :=
  match c with
  | '"' => some '"'
  | '\\' => some '\\'
  | '/' => some '/'
  | 'b' => some '\x08'
  | 'f' => some '\x0c'
  | 'n' => some '\n'
  | 'r' => some '\r'
  | 't' => some '\t'
  | _ => none

/-- Reads a string behind its opening quote, up to the closing one. -/
def readCodes? : List Char → Option (List Nat × List Char)
  | [] => none
  | '"' :: rest => some ([], rest)
  | '\\' :: 'u' :: a :: b :: c :: d :: rest => do
    let digits ← [a, b, c, d].mapM hexDigit?
    let (codes, rest) ← readCodes? rest
    some (digits.foldl (fun n d => 16 * n + d) 0 :: codes, rest)
  | '\\' :: e :: rest => do
    let c ← escape? e
    let (codes, rest) ← readCodes? rest
    some (c.toNat :: codes, rest)
  | c :: rest =>
    if c = '\\' ∨ c.toNat < 0x20 then none
    else do
      let (codes, rest) ← readCodes? rest
      some (c.toNat :: codes, rest)

theorem length_lt_of_readCodes? {s rest : List Char} {codes : List Nat}
    (h : readCodes? s = some (codes, rest)) : rest.length < s.length := by
  induction s using readCodes?.induct generalizing codes rest with
  | case1 => simp [readCodes?] at h
  | case2 r => simp [readCodes?] at h; simp [h.2]
  | case3 a b c d r ih =>
    simp only [readCodes?, Option.bind_eq_bind, Option.bind_eq_some_iff, Prod.exists,
      Option.some.injEq, Prod.mk.injEq] at h
    obtain ⟨_, _, x, y, hr, _, rfl⟩ := h
    have := ih hr
    simp only [List.length_cons]; omega
  | case4 e r hu ih =>
    rw [readCodes?] at h
    · simp only [Option.bind_eq_bind, Option.bind_eq_some_iff, Prod.exists,
        Option.some.injEq, Prod.mk.injEq] at h
      obtain ⟨_, _, x, y, hr, _, rfl⟩ := h
      have := ih hr
      simp only [List.length_cons]; omega
    · exact hu
  | case5 c r hq hu he hc =>
    rw [readCodes?] at h
    · simp [hc] at h
    all_goals assumption
  | case6 c r hq hu he hc ih =>
    rw [readCodes?] at h
    · simp only [hc, if_false, Option.bind_eq_bind, Option.bind_eq_some_iff, Prod.exists,
        Option.some.injEq, Prod.mk.injEq] at h
      obtain ⟨x, y, hr, _, rfl⟩ := h
      have := ih hr
      simp only [List.length_cons]; omega
    all_goals assumption

/-- Splits the decimal digits off the front. -/
def readDigits (s : List Char) : List Nat × List Char :=
  ((s.takeWhile fun c => (Numeral.digit? c).isSome).filterMap Numeral.digit?,
    s.dropWhile fun c => (Numeral.digit? c).isSome)

/-- Reads the digits of an integer without a sign: one digit or more, and no leading zero. -/
def readInteger? (s : List Char) : Option (List Nat × List Char) :=
  match readDigits s with
  | ([], _) => none
  | (0 :: _ :: _, _) => none
  | (digits, rest) => some (digits, rest)

/-- Reads what may follow a point. -/
def readFraction? (s : List Char) : Option (Option (List Nat) × List Char) :=
  match s with
  | '.' :: rest =>
    match readDigits rest with
    | ([], _) => none
    | (digits, rest) => some (some digits, rest)
  | _ => some (none, s)

/-- Splits a sign off the front; the answer is whether it is a minus. -/
def readSign (s : List Char) : Bool × List Char :=
  match s with
  | '+' :: rest => (false, rest)
  | '-' :: rest => (true, rest)
  | _ => (false, s)

/-- Reads what may follow an exponent mark. -/
def readExponent? (s : List Char) : Option (Option (Bool × List Nat) × List Char) :=
  match s with
  | [] => some (none, s)
  | c :: rest =>
    if c = 'e' ∨ c = 'E' then
      let (down, rest) := readSign rest
      match readDigits rest with
      | ([], _) => none
      | (digits, rest) => some (some (down, digits), rest)
    else some (none, s)

/-- Splits a minus off the front; the answer is whether there is one. -/
def readMinus (s : List Char) : Bool × List Char :=
  match s with
  | '-' :: rest => (true, rest)
  | _ => (false, s)

/-- Reads a number. -/
def readNumber? (s : List Char) : Option (NumberText × List Char) := do
  let (isNegative, rest) := readMinus s
  let (integer, rest) ← readInteger? rest
  let (fraction, rest) ← readFraction? rest
  let (exponent, rest) ← readExponent? rest
  some (⟨isNegative, integer, fraction, exponent⟩, rest)

/-- The word `word` in front of a text, and what follows it. -/
def readWord? (word : String) (s : List Char) : Option (List Char) :=
  if word.toList.isPrefixOf s then some (s.drop word.length) else none

theorem length_readDigits_le (s : List Char) : (readDigits s).2.length ≤ s.length :=
  Text.length_dropWhile_le _ s

theorem length_lt_of_readDigits {s rest : List Char} {d : Nat} {digits : List Nat}
    (h : readDigits s = (d :: digits, rest)) : rest.length < s.length := by
  obtain ⟨h₁, h₂⟩ := Prod.mk.inj h
  have h₃ := congrArg List.length
    (List.takeWhile_append_dropWhile (p := fun c => (Numeral.digit? c).isSome) (l := s))
  rw [h₂, List.length_append] at h₃
  have h₄ := List.length_filterMap_le Numeral.digit?
    (s.takeWhile fun c => (Numeral.digit? c).isSome)
  rw [h₁, List.length_cons] at h₄
  omega

theorem length_lt_of_readInteger? {s rest : List Char} {digits : List Nat}
    (h : readInteger? s = some (digits, rest)) : rest.length < s.length := by
  unfold readInteger? at h
  split at h
  · cases h
  · cases h
  · next hn _ hd =>
    cases h
    cases digits with
    | nil => exact absurd rfl hn
    | cons d digits => exact length_lt_of_readDigits hd

theorem length_le_of_readFraction? {s rest : List Char} {digits : Option (List Nat)}
    (h : readFraction? s = some (digits, rest)) : rest.length ≤ s.length := by
  unfold readFraction? at h
  split at h
  · next r =>
    have := length_readDigits_le r
    split at h
    · cases h
    · next hd => cases h; rw [hd] at this; exact Nat.le_succ_of_le this
  · cases h; exact Nat.le_refl _

theorem length_readMinus_le (s : List Char) : (readMinus s).2.length ≤ s.length := by
  unfold readMinus
  split <;> simp

theorem length_readSign_le (s : List Char) : (readSign s).2.length ≤ s.length := by
  unfold readSign
  split <;> simp

theorem length_le_of_readExponent? {s rest : List Char} {exponent : Option (Bool × List Nat)}
    (h : readExponent? s = some (exponent, rest)) : rest.length ≤ s.length := by
  unfold readExponent? at h
  split at h
  · cases h; exact Nat.le_refl _
  · next c r =>
    split at h
    · have h₁ := length_readSign_le r
      have h₂ := length_readDigits_le (readSign r).2
      simp only at h
      split at h
      · cases h
      · next hd => cases h; rw [hd] at h₂; exact Nat.le_succ_of_le (Nat.le_trans h₂ h₁)
    · cases h; exact Nat.le_refl _

theorem length_lt_of_readNumber? {s rest : List Char} {n : NumberText}
    (h : readNumber? s = some (n, rest)) : rest.length < s.length := by
  unfold readNumber? at h
  simp only [Option.bind_eq_bind, Option.bind_eq_some_iff, Prod.exists, Option.some.injEq,
    Prod.mk.injEq] at h
  obtain ⟨_, r₁, h₁, _, r₂, h₂, _, r₃, h₃, _, rfl⟩ := h
  have h₁ := length_lt_of_readInteger? h₁
  have h₂ := length_le_of_readFraction? h₂
  have h₃ := length_le_of_readExponent? h₃
  have h₄ := length_readMinus_le s
  omega

theorem length_le_of_readWord? {word : String} {s rest : List Char}
    (h : readWord? word s = some rest) : rest.length ≤ s.length := by
  unfold readWord? at h
  split at h
  · cases h; simp
  · cases h

/-- Reads a string behind its opening quote, together with the fact that the rest is shorter. -/
def readString? (s : List Char) : Option (List Nat × Rest s) :=
  match h : readCodes? s with
  | some (codes, rest) => some (codes, ⟨rest, length_lt_of_readCodes? h⟩)
  | none => none

/-- Reads the key of a member. -/
def readKey? (s : List Char) : Option (List Nat × Rest s) :=
  match h : skipBlanks s with
  | '"' :: rest => (readString? rest).map fun (codes, ⟨rest', lt⟩) =>
      (codes, ⟨rest', Nat.lt_trans lt (length_lt_of_skipBlanks h)⟩)
  | _ => none

/-- Reads a number, together with the fact that the rest is shorter. -/
def readNumeral? (s : List Char) : Option (NumberText × Rest s) :=
  match h : readNumber? s with
  | some (n, rest) => some (n, ⟨rest, length_lt_of_readNumber? h⟩)
  | none => none

/-- Reads a word that denotes a tree, together with the fact that the rest is not longer. -/
def readNamed? (word : String) (tree : Tree) (s : List Char) : Option (Tree × Remainder s) :=
  match h : readWord? word s with
  | some rest => some (tree, ⟨rest, length_le_of_readWord? h⟩)
  | none => none

/-! ### Trees -/

mutual

/-- Reads one tree in front of a text. -/
def readTree? (s : List Char) : Option (Tree × Rest s) :=
  match h : skipBlanks s with
  | [] => none
  | '[' :: rest =>
    have lt := length_lt_of_skipBlanks h
    match h' : skipBlanks rest with
    | ']' :: rest' => some (.array [], ⟨rest', Nat.lt_trans (length_lt_of_skipBlanks h') lt⟩)
    | _ => do
      let (items, ⟨rest', lt'⟩) ← readItems? rest
      some (.array items, ⟨rest', by omega⟩)
  | '{' :: rest =>
    have lt := length_lt_of_skipBlanks h
    match h' : skipBlanks rest with
    | '}' :: rest' => some (.object [], ⟨rest', Nat.lt_trans (length_lt_of_skipBlanks h') lt⟩)
    | _ => do
      let (members, ⟨rest', lt'⟩) ← readMembers? rest
      some (.object members, ⟨rest', by omega⟩)
  | '"' :: rest => (readString? rest).map fun (codes, ⟨rest', lt'⟩) =>
      (.string codes, ⟨rest', Nat.lt_trans lt' (length_lt_of_skipBlanks h)⟩)
  | 'n' :: rest => (readNamed? "ull" .null rest).map fun (tree, ⟨rest', le⟩) =>
      (tree, ⟨rest', Nat.lt_of_le_of_lt le (length_lt_of_skipBlanks h)⟩)
  | 't' :: rest => (readNamed? "rue" (.bool true) rest).map fun (tree, ⟨rest', le⟩) =>
      (tree, ⟨rest', Nat.lt_of_le_of_lt le (length_lt_of_skipBlanks h)⟩)
  | 'f' :: rest => (readNamed? "alse" (.bool false) rest).map fun (tree, ⟨rest', le⟩) =>
      (tree, ⟨rest', Nat.lt_of_le_of_lt le (length_lt_of_skipBlanks h)⟩)
  | c :: rest => (readNumeral? (c :: rest)).map fun (n, ⟨rest', lt⟩) =>
      (.number n, ⟨rest', Nat.lt_of_lt_of_le lt (Nat.succ_le_of_lt (length_lt_of_skipBlanks h))⟩)
termination_by 3 * s.length

/-- Reads the items of an array, up to its closing bracket. -/
def readItems? (s : List Char) : Option (List Tree × Rest s) := do
  let (item, ⟨rest, lt⟩) ← readTree? s
  match h : skipBlanks rest with
  | ',' :: rest' =>
    have lt' := length_lt_of_skipBlanks h
    let (items, ⟨rest'', lt''⟩) ← readItems? rest'
    some (item :: items, ⟨rest'', by omega⟩)
  | ']' :: rest' => some ([item], ⟨rest', Nat.lt_trans (length_lt_of_skipBlanks h) lt⟩)
  | _ => none
termination_by 3 * s.length + 1

/-- Reads the members of an object, up to its closing brace. -/
def readMembers? (s : List Char) : Option (List (List Nat × Tree) × Rest s) := do
  let (key, ⟨rest, lt⟩) ← readKey? s
  match h : skipBlanks rest with
  | ':' :: rest' =>
    have lt' := length_lt_of_skipBlanks h
    let (value, ⟨rest'', lt''⟩) ← readTree? rest'
    match h' : skipBlanks rest'' with
    | ',' :: rest₃ =>
      have lt₃ := length_lt_of_skipBlanks h'
      let (members, ⟨rest₄, lt₄⟩) ← readMembers? rest₃
      some ((key, value) :: members, ⟨rest₄, by omega⟩)
    | '}' :: rest₃ => some ([(key, value)], ⟨rest₃, by
        have := length_lt_of_skipBlanks h'; omega⟩)
    | _ => none
  | _ => none
termination_by 3 * s.length + 1

end

/-- The tree of a text, which holds nothing else but blanks. -/
def read? (s : List Char) : Option Tree := do
  let (tree, rest) ← readTree? s
  if (skipBlanks rest.1).isEmpty then some tree else none

/-! ### Strings -/

/-- Whether a code point is the first half of a surrogate pair. -/
def isHighSurrogate (n : Nat) : Bool := 0xD800 ≤ n && n ≤ 0xDBFF

/-- Whether a code point is the second half of a surrogate pair. -/
def isLowSurrogate (n : Nat) : Bool := 0xDC00 ≤ n && n ≤ 0xDFFF

/-- The characters that code points denote, halves of pairs joined; none if a half stands alone. -/
def chars? : List Nat → Option (List Char)
  | [] => some []
  | [n] => if isHighSurrogate n || isLowSurrogate n then none else some [Char.ofNat n]
  | n :: m :: rest =>
    if isHighSurrogate n then
      if isLowSurrogate m then
        (chars? rest).map (Char.ofNat (0x10000 + (n - 0xD800) * 0x400 + (m - 0xDC00)) :: ·)
      else none
    else if isLowSurrogate n then none
    else (chars? (m :: rest)).map (Char.ofNat n :: ·)

/-- The string that code points denote. -/
def text? (codes : List Nat) : Option String := (chars? codes).map String.ofList

end Tree

/-! ### Values -/

namespace Value

mutual

/-- The value of a tree of at most `depth` levels. -/
def ofTreeWithin? (depth : Nat) : Tree → Option Value
  | .null => some .null
  | .bool b => some (.bool b)
  | .number n => n.value?.map .number
  | .string codes => (Tree.text? codes).map .string
  | .array items =>
    if depth = 0 then none else (ofItemsWithin? (depth - 1) items).map .array
  | .object members =>
    if depth = 0 then none
    else (ofMembersWithin? (depth - 1) members).map fun entries =>
      .object (Dictionary.ofList entries).entries

/-- The values of a list of trees. -/
def ofItemsWithin? (depth : Nat) : List Tree → Option (List Value)
  | [] => some []
  | item :: rest => do
    let value ← ofTreeWithin? depth item
    let values ← ofItemsWithin? depth rest
    some (value :: values)

/-- The entries that the members of an object denote, as written. -/
def ofMembersWithin? (depth : Nat) :
    List (List Nat × Tree) → Option (List (String × Value))
  | [] => some []
  | (key, item) :: rest => do
    let key ← Tree.text? key
    let value ← ofTreeWithin? depth item
    let entries ← ofMembersWithin? depth rest
    some ((key, value) :: entries)

end

/-- The greatest number of levels of a value. -/
def maxDepth : Nat := 127

/-- The value of a tree. -/
def ofTree? (tree : Tree) : Option Value := ofTreeWithin? maxDepth tree

/-- The value of a text. -/
def read? (text : String) : Option Value := (Tree.read? text.toList).bind ofTree?

end Value

end RegistrySearch.Json
