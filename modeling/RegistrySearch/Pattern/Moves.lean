import RegistrySearch.Arithmetic
import RegistrySearch.Pattern.Regex

/-!
# Matching

On one text, sets of positions are natural numbers: position `i` is in the set `m` when bit `i` of
`m` is set. An expression becomes **moves** on such sets, in which each leaf has already been asked
at every position, and all positions that the expression leads to are found at once. Moves never
lead backwards, so that repeating one comes to rest after as many rounds as there are positions.
`Regex.accepts` asks whether an expression matches somewhere in a text.
-/

namespace RegistrySearch.Pattern

/-- The set of the positions that satisfy a predicate. -/
def positionsWhere (holds : Place → Bool) : List Place → Nat
  | [] => 0
  | p :: rest => 2 * positionsWhere holds rest + (holds p).toNat

/-- An expression on one text. -/
inductive Moves where
  /-- Stays, at any position. -/
  | rest
  /-- Stays, at the positions of a set. -/
  | keep (positions : Nat)
  /-- Goes one position on, from the positions of a set. -/
  | advance (positions : Nat)
  | seq (first second : Moves)
  | alt (first second : Moves)
  | times (body : Moves) (least : Nat) (most : Option Nat)

/-- The moves of an expression on the text with the given positions. -/
def Regex.moves (ps : List Place) : Regex → Moves
  | .empty => .rest
  | .chars set => .advance (positionsWhere (fun p => p.after.any fun c => set.contains c.toNat) ps)
  | .look assertion => .keep (positionsWhere assertion.holds ps)
  | .seq first second => .seq (first.moves ps) (second.moves ps)
  | .alt first second => .alt (first.moves ps) (second.moves ps)
  | .times body least most => .times (body.moves ps) least most
  | .capture body => body.moves ps

/-- Does `f` up to `rounds` times, and stops when nothing changes. -/
def settle (f : Nat → Nat) : Nat → Nat → Nat
  | 0, m => m
  | rounds + 1, m =>
    let next := f m
    if next = m then m else settle f rounds next

/-- The positions that moves lead to from those of `m`, on a text with `size` positions. -/
def Moves.reach (size : Nat) : Moves → Nat → Nat
  | rest, m => m
  | keep positions, m => m &&& positions
  | advance positions, m => (m &&& positions) <<< 1
  | seq first second, m => second.reach size (first.reach size m)
  | alt first second, m => first.reach size m ||| second.reach size m
  | times body least most, m =>
    settle (fun m => m ||| body.reach size m) ((most.map (· - least)).getD size)
      (settle (fun m => body.reach size m) least m)

/-- Whether an expression leads from a position of a text to one of its positions. -/
def Regex.accepts (r : Regex) (text : List Char) : Bool :=
  let ps := places text
  (r.moves ps).reach ps.length (2 ^ ps.length - 1) ≠ 0

end RegistrySearch.Pattern
