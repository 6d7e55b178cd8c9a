/-!
# Syntax errors of queries

What can be wrong with the text of a query, where, and how it is reported. The place of a `Fault` is
counted in bytes from the beginning of the query.
-/

namespace RegistrySearch.Query

/-- What is wrong with a query. -/
inductive Fault where
  | emptyQuery
  | unexpected (c : Char)
  | missingTerm
  | unsupportedOperator
  | missingOperand (operator : String)
  | missingValue (field : String)
  | unclosedGroup
  | unterminatedPhrase
  | unterminatedRegexp
  | missingTo
  | unterminatedRange
  | missingBound
  | danglingEscape
deriving DecidableEq

/-- The wording of a fault. -/
def Fault.message : Fault → String
  | emptyQuery => "query is empty"
  | unexpected c => "unexpected '" ++ c.toString ++ "'"
  | missingTerm => "expected a term"
  | unsupportedOperator => "boost, fuzzy and proximity operators are not supported"
  | missingOperand operator => "operator '" ++ operator ++ "' is missing an operand"
  | missingValue field => "expected a value for field '" ++ field ++ "'"
  | unclosedGroup => "unclosed '('"
  | unterminatedPhrase => "unterminated phrase"
  | unterminatedRegexp => "unterminated regular expression"
  | missingTo => "expected 'TO' in range"
  | unterminatedRange => "unterminated range"
  | missingBound => "expected a range bound"
  | danglingEscape => "dangling escape"

/-- A fault and its place, as the number of bytes in front of it. -/
structure SyntaxError where
  fault : Fault
  position : Nat
deriving DecidableEq

/-- The report of an error. -/
def SyntaxError.text (e : SyntaxError) : String :=
  "query syntax error at position " ++ toString e.position ++ ": " ++ e.fault.message

end RegistrySearch.Query
