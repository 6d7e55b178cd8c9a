import RegistrySearch.Numeral.Integer
import RegistrySearch.Query.Paths
import RegistrySearch.Query.Printer

/-!
# Clauses drawn as trees

A clause is shown as an indented tree with one line for every clause, in the order of the text, and
the paths that it needs as a list. Both can be painted for a terminal, which puts escape sequences
around pieces of the lines and changes nothing else.
-/

namespace RegistrySearch.Query

/-- The ways in which a piece of text can be painted. -/
inductive Style where
  | bold
  | dim
  | green
  | red
  | cyan

/-- The parameter of the escape sequence that turns a style on. -/
def Style.code : Style → List Char
  | bold => ['1']
  | dim => ['2']
  | green => ['3', '2']
  | red => ['3', '1']
  | cyan => ['3', '6']

/-- The escape sequence with a parameter. -/
def escapeSequence (code : List Char) : List Char := '\x1b' :: '[' :: code ++ ['m']

/-- A piece of text in a style, if colours are on. -/
def paint (color : Bool) (style : Style) (text : List Char) : List Char :=
  if color then escapeSequence style.code ++ text ++ escapeSequence ['0'] else text

/-- Whether a bound does not keep a range from being numeric. -/
def Bound.isNumeric (b : Bound) : Bool :=
  b.value?.all fun value => (Numeral.readInt64? value).isSome

/-- Whether a range is shown as numeric: its bounds are integers or open, and not both open. -/
def isNumericRange (lower upper : Bound) : Bool :=
  lower.isNumeric && upper.isNumeric && !(lower = .unbounded && upper = .unbounded)

namespace Clause

/-- The name of the kind of a leaf. -/
def kindName : Clause → String
  | term _ _ => "term"
  | phrase _ _ => "phrase"
  | wildcard _ _ => "wildcard"
  | regexp _ _ => "regexp"
  | range _ lower upper => if isNumericRange lower upper then "range (numeric)" else "range"
  | boolean _ => "Boolean"

/-- The text that shows a clause without its children. -/
def label (color : Bool) (c : Clause) : List Char :=
  match c with
  | boolean [] => paint color .bold "Boolean".toList ++ " (matches nothing)".toList
  | boolean _ => paint color .bold "Boolean".toList
  | leaf => paint color .dim leaf.kindName.toList ++ ' ' :: leaf.renderChars

end Clause

/-- The name of an occurrence, padded to one width. -/
def Occur.label (color : Bool) : Occur → List Char
  | must => paint color .green "MUST    ".toList
  | should => paint color .dim "SHOULD  ".toList
  | mustNot => paint color .red "MUST_NOT".toList

/-- The branch in front of a child. -/
def branch (isLast : Bool) : List Char :=
  if isLast then ['└', '─', '─', ' '] else ['├', '─', '─', ' ']

/-- The indentation of what lies below a child. -/
def indentation (isLast : Bool) : List Char :=
  if isLast then [' ', ' ', ' ', ' '] else ['│', ' ', ' ', ' ']

namespace Clause

mutual

/-- The lines below a clause, each with its line break. -/
def treeBelow (color : Bool) (margin : List Char) : Clause → List Char
  | boolean children => treeChildren color margin children
  | _ => []

/-- The lines of children and of what lies below them. -/
def treeChildren (color : Bool) (margin : List Char) : List (Occur × Clause) → List Char
  | [] => []
  | (occur, child) :: rest =>
    margin ++ branch rest.isEmpty ++ occur.label color ++ ' ' :: child.label color ++ '\n'
      :: treeBelow color (margin ++ indentation rest.isEmpty) child
      ++ treeChildren color margin rest

end

/-- The tree of a clause, as characters. -/
def treeChars (color : Bool) (c : Clause) : List Char :=
  c.label color ++ '\n' :: treeBelow color [] c

/-- The tree of a clause. -/
def tree (color : Bool) (c : Clause) : String := String.ofList (c.treeChars color)

end Clause

end RegistrySearch.Query

namespace RegistrySearch

open Query (paint)

/-- The remark behind a path in a listing. -/
def Path.remark (p : Path) : String :=
  if p.isBody then " (whole record + policy sub-objects)"
  else if p.isExact then " (exact value)"
  else ""

/-- The line of a path in a listing. -/
def Path.listingLine (color : Bool) (p : Path) : List Char :=
  ' ' :: ' ' :: paint color .cyan p.text.toList ++ paint color .dim p.remark.toList ++ ['\n']

/-- The paths of a set, one a line. -/
def PathSet.listing (color : Bool) (s : PathSet) : String :=
  String.ofList (s.paths.flatMap (Path.listingLine color))

end RegistrySearch
