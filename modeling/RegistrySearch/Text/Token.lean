import RegistrySearch.Text.Normal
import RegistrySearch.Unicode.Alphanumeric

/-!
# Tokens

Indexed text and query text are cut into the same tokens: the maximal runs of alphanumeric
characters, each in its normal form, the empty ones dropped. Positions count tokens, so that
neighbours in a phrase have consecutive positions. No word is left out for being common.

`Text.analyze` gives the terms alone, `Text.tokenize` the terms with their positions.
-/

namespace RegistrySearch.Text

open Unicode

/-- A term and its ordinal among the tokens of the same text, from 0. -/
structure Token where
  term : String
  position : Nat
deriving DecidableEq

/-- The terms of a text, as characters. -/
def analyzeChars (s : List Char) : List (List Char) :=
  ((runs isAlphanumeric s).map normalizeChars).filter fun t => !t.isEmpty

/-- The terms of a text, in order. -/
def analyze (s : String) : List String := (analyzeChars s.toList).map String.ofList

/-- The tokens of a text: its terms, numbered from 0. -/
def tokenize (s : String) : List Token :=
  (analyze s).zipIdx.map fun (term, position) => ⟨term, position⟩

end RegistrySearch.Text
