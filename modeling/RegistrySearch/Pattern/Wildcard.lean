import RegistrySearch.Pattern.Escape

/-!
# Wildcards

In a wildcard pattern `*` stands for any characters, `?` for any one, and a backslash takes the
meaning from the next character: a pattern is a list of `Glob`s. It is run as a regular expression,
in whose text every character with a meaning there is escaped.

`Glob.Matches` says without this detour which texts a pattern stands for.
-/

namespace RegistrySearch.Pattern

/-- An item of a wildcard pattern. -/
inductive GlobItem where
  | anyRun
  | anyChar
  | literal (c : Char)
deriving DecidableEq

/-- A wildcard pattern. -/
abbrev Glob := List GlobItem

namespace Glob

/-- The items of a pattern. A backslash at the end stands for nothing. -/
def read : List Char → Glob
  | [] => []
  | ['\\'] => []
  | '\\' :: c :: rest => .literal c :: read rest
  | c :: rest =>
    (if c = '*' then .anyRun else if c = '?' then .anyChar else .literal c) :: read rest

/-- The texts that items stand for, one item after the other. -/
inductive Matches : Glob → List Char → Prop where
  | nil : Matches [] []
  | anyRun {items : Glob} {run rest : List Char} :
    Matches items rest → Matches (.anyRun :: items) (run ++ rest)
  | anyChar {items : Glob} {c : Char} {rest : List Char} :
    Matches items rest → Matches (.anyChar :: items) (c :: rest)
  | literal {items : Glob} {c : Char} {rest : List Char} :
    Matches items rest → Matches (.literal c :: items) (c :: rest)

/-- A character as it is written in regular expressions. -/
def escapeChar (c : Char) : List Char := if isMeta c then ['\\', c] else [c]

end Glob

/-- The text of a regular expression for an item. -/
def GlobItem.regexChars : GlobItem → List Char
  | anyRun => ['.', '*']
  | anyChar => ['.']
  | literal c => Glob.escapeChar c

namespace Glob

/-- The text of the regular expression for a whole pattern, in which the dot takes all characters
and both ends are those of the text. -/
def regexChars (items : Glob) : List Char :=
  ['(', '?', 's', ')', '^'] ++ items.flatMap GlobItem.regexChars ++ ['$']

end Glob

/-- The text of the regular expression for a wildcard pattern. -/
def wildcardRegexText (pattern : String) : String :=
  String.ofList (Glob.read pattern.toList).regexChars

end RegistrySearch.Pattern
