import RegistrySearch.Pattern.Classes

/-!
# Regular expressions

A regular expression leads from some positions of a text to others. Its leaves take one character of
a set, or look at the characters on both sides of a position (`Assertion`); what a set contains and
how a text is read under flags is settled before an expression is built.

`Regex.Matches` is the meaning of an expression: the pairs of positions that it connects.
-/

namespace RegistrySearch.Pattern

open Unicode (Ranges)

/-- What can be demanded of a position. Of the word boundaries there is a form that knows only the
words of ASCII, and of those of lines one in which a carriage return and a line feed end a line
together. -/
inductive Assertion where
  | textStart
  | textEnd
  | lineStart (crlf : Bool)
  | lineEnd (crlf : Bool)
  | boundary (ascii : Bool)
  | noBoundary (ascii : Bool)
  | wordStart (ascii : Bool)
  | wordEnd (ascii : Bool)
  | wordStartHalf (ascii : Bool)
  | wordEndHalf (ascii : Bool)
deriving DecidableEq

/-- A position of a text, as the characters on its two sides. -/
structure Place where
  before : Option Char
  after : Option Char
deriving DecidableEq

namespace Assertion

/-- Whether a position has what is demanded. -/
def holds (a : Assertion) (p : Place) : Bool :=
  match a with
  | textStart => p.before.isNone
  | textEnd => p.after.isNone
  | lineStart false => p.before.isNone || p.before = some '\n'
  | lineStart true =>
    p.before.isNone || p.before = some '\n' || (p.before = some '\r' && p.after ≠ some '\n')
  | lineEnd false => p.after.isNone || p.after = some '\n'
  | lineEnd true =>
    p.after.isNone || p.after = some '\r' || (p.after = some '\n' && p.before ≠ some '\r')
  | boundary ascii => p.before.any (isWordChar ascii) != p.after.any (isWordChar ascii)
  | noBoundary ascii => p.before.any (isWordChar ascii) == p.after.any (isWordChar ascii)
  | wordStart ascii => !p.before.any (isWordChar ascii) && p.after.any (isWordChar ascii)
  | wordEnd ascii => p.before.any (isWordChar ascii) && !p.after.any (isWordChar ascii)
  | wordStartHalf ascii => !p.before.any (isWordChar ascii)
  | wordEndHalf ascii => !p.after.any (isWordChar ascii)

end Assertion

/-- The positions of a text in front of which `before` stands. -/
def placesFrom (before : Option Char) : List Char → List Place
  | [] => [⟨before, none⟩]
  | c :: rest => ⟨before, some c⟩ :: placesFrom (some c) rest

/-- The positions of a text, one more than its characters. -/
def places (text : List Char) : List Place := placesFrom none text

/-- A regular expression. -/
inductive Regex where
  /-- Stays where it is. -/
  | empty
  /-- Takes one character of a set. -/
  | chars (set : Ranges)
  /-- Stays at positions of a kind. -/
  | look (assertion : Assertion)
  /-- One expression, then another. -/
  | seq (first second : Regex)
  /-- One of two expressions. -/
  | alt (first second : Regex)
  /-- An expression several times, not more than `most` if there is such a bound. -/
  | times (body : Regex) (least : Nat) (most : Option Nat)
  /-- An expression in parentheses that keep what it takes. -/
  | capture (body : Regex)
deriving DecidableEq

namespace Regex

/-- The positions `i` and `j` of a text between which `k` steps of a relation lead. -/
inductive Steps (step : Nat → Nat → Prop) : Nat → Nat → Nat → Prop where
  | zero {i : Nat} : Steps step 0 i i
  | succ {k i j l : Nat} : step i j → Steps step k j l → Steps step (k + 1) i l

/-- Whether an expression leads from the position `i` of a text to the position `j`. -/
def Matches (text : List Char) : Regex → Nat → Nat → Prop
  | empty, i, j => j = i
  | chars set, i, j => j = i + 1 ∧ ∃ c, text[i]? = some c ∧ set.contains c.toNat
  | look assertion, i, j => j = i ∧ ∃ p, (places text)[i]? = some p ∧ assertion.holds p
  | seq first second, i, j => ∃ k, Matches text first i k ∧ Matches text second k j
  | alt first second, i, j => Matches text first i j ∨ Matches text second i j
  | times body least most, i, j =>
    ∃ k, least ≤ k ∧ (∀ m ∈ most, k ≤ m) ∧ Steps (fun i j => Matches text body i j) k i j
  | capture body, i, j => Matches text body i j

/-- The concatenation of expressions. -/
def concat : List Regex → Regex
  | [] => empty
  | [r] => r
  | r :: rs => seq r (concat rs)

/-- The choice between expressions, of which there is one at least. -/
def choice (first : Regex) : List Regex → Regex
  | [] => first
  | r :: rs => alt first (choice r rs)

/-- The expression that takes one given character. -/
def char (c : Char) : Regex := chars (.single c.toNat c.toNat)

end Regex

end RegistrySearch.Pattern
