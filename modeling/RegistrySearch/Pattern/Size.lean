import RegistrySearch.Pattern.Regex
import RegistrySearch.Pattern.Utf8

/-!
# The size of a pattern

A pattern is refused when the automaton that would run it, over the bytes of a text, needs more than
ten mebibytes. There are two such automata, one that reads forward and one that reads backward; a
repeated expression is in them as often as it is repeated. The automata themselves are never built:
`Regex.size` counts the bytes that they need.
-/

namespace RegistrySearch.Pattern

open Unicode (Ranges)

/-- The bytes of a state. -/
def stateSize : Nat := 32

/-- The bytes of a state that chooses between two others. -/
def choiceSize : Nat := stateSize + 8

/-- The number of bytes that an automaton for one character of a set needs. Forward, the states in
front of the same ends are one; backward, those behind the same beginnings. -/
def setSize (isBackward : Bool) (set : Ranges) : Nat :=
  match set.rows with
  | [] => stateSize
  | rows =>
    if set.isAscii then
      if rows.length = 1 then stateSize else 2 * stateSize + 8 * rows.length
    else
      let sequences := byteSequences set
      match sequences with
      | [sequence] => stateSize * sequence.length
      | _ =>
        if isBackward then stateSize * (treeEdges sequences + 2) + 4 * sequences.length
        else
          let states := automatonStates sequences
          stateSize * (states.length + 1) + 8 * (states.map fun s => (branches s).length).sum

namespace Regex

/-- Whether an expression takes no character, wherever it matches. -/
def isZeroWidth : Regex → Bool
  | empty => true
  | chars _ => false
  | look _ => true
  | seq first second => first.isZeroWidth && second.isZeroWidth
  | alt first second => first.isZeroWidth && second.isZeroWidth
  | times body _ most => body.isZeroWidth || most = some 0
  | capture body => body.isZeroWidth

/-- Whether an expression takes a character, wherever it matches. -/
def takesChar : Regex → Bool
  | empty => false
  | chars set => !set.rows.isEmpty
  | look _ => false
  | seq first second => first.takesChar || second.takesChar
  | alt first second => first.takesChar && second.takesChar
  | times body least _ => least ≠ 0 && body.takesChar
  | capture body => body.takesChar

/-- The size of an expression of the size `one` that is repeated. -/
def timesSize (takesChar : Bool) (one least : Nat) (most : Option Nat) : Nat :=
  match least, most with
  | _, some 0 => stateSize
  | 1, some 1 => one
  | 0, some 1 => one + choiceSize + stateSize
  | 0, none => if takesChar then one + choiceSize else one + 2 * choiceSize + stateSize
  | n, none => n * one + choiceSize
  | n, some m =>
    if n = m then n * one else max stateSize (n * one) + stateSize + (m - n) * (one + choiceSize)

/-- The number of bytes that the automaton of an expression needs. A choice inside a choice is the
same choice. -/
def sizeFrom (isBackward inChoice : Bool) : Regex → Nat
  | empty => stateSize + if inChoice then 4 else 0
  | chars set => setSize isBackward set + if inChoice then 4 else 0
  | look _ => stateSize + if inChoice then 4 else 0
  | seq first second =>
    first.sizeFrom isBackward false + second.sizeFrom isBackward false + if inChoice then 4 else 0
  | alt first second =>
    first.sizeFrom isBackward true + second.sizeFrom isBackward true
      + if inChoice then 0 else 2 * stateSize
  | times body least most =>
    let once (n : Nat) := if body.isZeroWidth then min n 1 else n
    let most := if body.isZeroWidth then some ((most.map once).getD 1) else most
    timesSize body.takesChar (body.sizeFrom isBackward false) (once least) most
      + if inChoice then 4 else 0
  | capture body =>
    body.sizeFrom isBackward false + (if isBackward then 0 else 2 * stateSize)
      + if inChoice then 4 else 0

/-- The number of bytes that an automaton of a whole expression needs: to its own states come one
that begins and one that ends a match and, forward, two that keep what is matched. -/
def size (isBackward : Bool) (r : Regex) : Nat :=
  r.sizeFrom isBackward false + if isBackward then 2 * stateSize else 4 * stateSize

/-- The number of bytes that an automaton may need. -/
def sizeLimit : Nat := 10 * 2 ^ 20

/-- Whether both automata of an expression are small enough. -/
def isWithinLimit (r : Regex) : Bool := r.size false ≤ sizeLimit && r.size true ≤ sizeLimit

end Regex

end RegistrySearch.Pattern
