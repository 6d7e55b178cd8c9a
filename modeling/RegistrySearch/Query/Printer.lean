import RegistrySearch.Query.Clause

/-!
# The text of a clause

`Clause.render` writes a clause in the syntax of queries, with every field named, a sign in front of
required and excluded children, and parentheses around every combination. What is special in the
syntax is escaped.
-/

namespace RegistrySearch.Query

/-- The opening bracket of a range and its lower bound. -/
def Bound.renderLower : Bound → List Char
  | unbounded => ['[', '*']
  | inclusive value => '[' :: value.toList
  | exclusive value => '{' :: value.toList

/-- The upper bound of a range and its closing bracket. -/
def Bound.renderUpper : Bound → List Char
  | unbounded => ['*', ']']
  | inclusive value => value.toList ++ [']']
  | exclusive value => value.toList ++ ['}']

/-- The sign in front of a child. -/
def Occur.sign : Occur → List Char
  | must => ['+']
  | should => []
  | mustNot => ['-']

namespace Clause

mutual

/-- The text of a clause, as characters. -/
def renderChars : Clause → List Char
  | term field text => field.toList ++ ':' :: text.toList
  | phrase field terms =>
    field.toList ++ [':', '"'] ++ [' '].intercalate (terms.map String.toList) ++ ['"']
  | wildcard field pattern => field.toList ++ ':' :: pattern.toList
  | regexp field pattern => field.toList ++ [':', '/'] ++ pattern.toList ++ ['/']
  | range field lower upper =>
    field.toList ++ ':' :: lower.renderLower ++ [' ', 'T', 'O', ' '] ++ upper.renderUpper
  | boolean [] => ['(', ')']
  | boolean ((occur, child) :: rest) =>
    '(' :: occur.sign ++ renderChars child ++ renderRest rest

/-- The text of the further children, with the closing parenthesis. -/
def renderRest : List (Occur × Clause) → List Char
  | [] => [')']
  | (occur, child) :: rest => ' ' :: occur.sign ++ renderChars child ++ renderRest rest

end

/-- The text of a clause. -/
def render (c : Clause) : String := String.ofList c.renderChars

end Clause

end RegistrySearch.Query
