import RegistrySearch.Arithmetic
import RegistrySearch.Unicode.Ranges

/-!
# Code points as sequences of bytes

A range of code points is written in UTF-8 as finitely many **byte sequences**, each a list of byte
ranges in which every choice of bytes is a member. Read from the front, the sequences of a set are
an automaton, in which positions that the same sequences may follow are one state
(`automatonStates`). Read from the back nothing but common beginnings is shared, and the sequences
are a tree (`treeEdges`).
-/

namespace RegistrySearch.Pattern

open Unicode (Ranges)

/-- A sequence of inclusive ranges of bytes. -/
abbrev ByteSequence := List (Nat × Nat)

/-- The byte sequences of the values from `lo` to `hi`, written as a lead byte, which is `base` more
than its value, and further bytes of six bits each. -/
def sequencesBetween (base : Nat) (further : Nat) (lo hi : Nat) : List ByteSequence :=
  match further with
  | 0 => [[(base + lo, base + hi)]]
  | n + 1 =>
    let unit := 64 ^ (n + 1)
    let behind (lead low high : Nat) : List ByteSequence :=
      (sequencesBetween 0x80 n low high).map fun tail => (base + lead, base + lead) :: tail
    let first := lo / unit
    let last := hi / unit
    if first = last then behind first (lo % unit) (hi % unit)
    else
      let start := if lo % unit = 0 then first else first + 1
      let stop := if hi % unit = unit - 1 then last + 1 else last
      (if lo % unit = 0 then [] else behind first (lo % unit) (unit - 1))
        ++ (if start < stop then
          [(base + start, base + stop - 1) :: List.replicate (n + 1) (0x80, 0xBF)] else [])
        ++ (if hi % unit = unit - 1 then [] else behind last 0 (hi % unit))

/-- The code points of one length: the base of their lead bytes, the number of further bytes, and
the first and the last one. -/
def encodedLengths : List (Nat × Nat × Nat × Nat) :=
  [(0x00, 0, 0x00, 0x7F), (0xC0, 1, 0x80, 0x7FF), (0xE0, 2, 0x800, 0xD7FF),
    (0xE0, 2, 0xE000, 0xFFFF), (0xF0, 3, 0x10000, 0x10FFFF)]

/-- The byte sequences of a set, in ascending order. -/
def byteSequences (set : Ranges) : List ByteSequence :=
  set.rows.flatMap fun (lo, hi) =>
    encodedLengths.flatMap fun (base, further, first, last) =>
      let lo := max lo first
      let hi := min hi last
      if lo ≤ hi then sequencesBetween base further lo hi else []

/-- Puts a sequence in front of branches: into the first one if it begins alike. -/
def addSequence (sequence : ByteSequence) (branches : List ((Nat × Nat) × List ByteSequence)) :
    List ((Nat × Nat) × List ByteSequence) :=
  match sequence, branches with
  | [], branches => branches
  | range :: tail, (first, tails) :: rest =>
    if range = first then (first, tail :: tails) :: rest
    else (range, [tail]) :: (first, tails) :: rest
  | range :: tail, [] => [(range, [tail])]

/-- Ascending sequences by their first ranges. -/
def branches (sequences : List ByteSequence) : List ((Nat × Nat) × List ByteSequence) :=
  sequences.foldr addSequence []

/-- The states that sequences of up to `length` ranges lead through, each as the sequences that may
follow it; equal ones are not yet joined. -/
def statesWithin : Nat → List ByteSequence → List (List ByteSequence)
  | 0, _ => []
  | length + 1, sequences =>
    match branches sequences with
    | [] => []
    | bs => sequences :: bs.flatMap fun (_, tails) => statesWithin length tails

/-- The states of the automaton of ascending byte sequences, without the last one. -/
def automatonStates (sequences : List ByteSequence) : List (List ByteSequence) :=
  (statesWithin 4 sequences).eraseDups

/-- The number of edges in the tree of ascending byte sequences. -/
def treeEdges (sequences : List ByteSequence) : Nat :=
  ((statesWithin 4 sequences).map fun s => (branches s).length).sum

end RegistrySearch.Pattern
