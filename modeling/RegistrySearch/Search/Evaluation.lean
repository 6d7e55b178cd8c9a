import RegistrySearch.Index.Basic
import RegistrySearch.Pattern.Basic
import RegistrySearch.Search.Range
import RegistrySearch.Search.Ranking
import RegistrySearch.Search.Score

/-!
# Evaluation

A clause evaluates to the documents that it matches, each with a score. A leaf looks its field up in
the index. A boolean clause decides document by document, from what its children contribute there:
all required children must, and no excluded one may, contribute; where no child is required, one of
the optional ones must. So a clause of exclusions alone matches nothing.

All leaves are evaluated, whatever the others have given, so that `Index.scores` fails with the
first pattern that is none. `Index.evaluate` ranks what it gives and keeps the best.
-/

namespace RegistrySearch

open Query (Clause Occur Bound NumericRange)
open Search (inverseFrequency termScore constantScore)

/-- Documents with their scores. -/
abbrev Scores := Dictionary Ordinal Float

/-- A pattern that is no pattern, or one that is too large. -/
structure InvalidPattern where
  pattern : String
deriving DecidableEq

/-! ### Leaves -/

namespace FieldIndex

/-- The documents of a posting list, each with the same score. -/
def constantEntries (list : PostingList) : List (Ordinal × Float) :=
  list.postings.toList.map fun p => (p.doc, constantScore)

/-- The documents with a term that satisfies a predicate. -/
def acceptedScores (f : FieldIndex) (accepts : String → Bool) : Scores :=
  .ofList (f.terms.entries.flatMap fun (term, list) =>
    if accepts term then constantEntries list else [])

/-- The documents with a point from `lo` to `hi`. -/
def pointScores (f : FieldIndex) (lo hi : Int64) : Scores :=
  let start := partitionPoint (fun (p : Int64 × Ordinal) => decide (p.1 < lo)) f.points
  let stop := partitionPoint (fun (p : Int64 × Ordinal) => decide (p.1 ≤ hi)) f.points
  .ofList ((f.points.toList.take stop).drop start |>.map fun (_, doc) => (doc, constantScore))

/-- The score of a document in which something of a weight occurs `frequency` times. -/
def scoreAt (f : FieldIndex) (weight : Float) (doc : Ordinal) (frequency : Nat) : Float :=
  termScore frequency.toFloat weight (f.lengthOf doc).toFloat f.averageLength

end FieldIndex

namespace PostingList

/-- The posting of a document. -/
def find? (list : PostingList) (doc : Ordinal) : Option Posting :=
  match list.postings[bisect (fun p => decide (doc < p.doc)) list.postings]? with
  | some p => if p.doc = doc then some p else none
  | none => none

end PostingList

namespace Posting

/-- Whether a term stands at a position. -/
def standsAt (p : Posting) (position : UInt32) : Bool :=
  p.positions[bisect (fun q => decide (position < q)) p.positions]? = some position

/-- The number of positions of `first` from which the terms of `following` stand one after the
other. -/
def phraseFrequency (first : Posting) (following : List Posting) : Nat :=
  (first.positions.toList.filter fun start =>
    following.zipIdx.all fun (p, i) => p.standsAt (start + i.toUInt32 + 1)).length

end Posting

namespace Index

/-- The weight of a term by the documents in which it occurs. -/
def weight (index : Index) (list : PostingList) : Float :=
  inverseFrequency index.docCount.toFloat list.docFreq.toFloat

/-- The documents in which a term occurs. -/
def termScores (index : Index) (f : FieldIndex) (text : String) : Scores :=
  match f.terms.get? text with
  | some list => .ofList (list.postings.toList.map fun p =>
      (p.doc, f.scoreAt (index.weight list) p.doc p.frequency))
  | none => .empty

/-- The documents in which terms stand at consecutive positions. -/
def phraseScores (index : Index) (f : FieldIndex) (terms : List String) : Scores :=
  match terms.mapM f.terms.get? with
  | some (first :: rest) =>
    let weight := ((first :: rest).map index.weight).foldl (· + ·) 0.0
    .ofList (first.postings.toList.filterMap fun p => do
      let frequency := p.phraseFrequency (← rest.mapM fun list => list.find? p.doc)
      if frequency = 0 then none else some (p.doc, f.scoreAt weight p.doc frequency))
  | _ => .empty

/-- The documents between two bounds. -/
def rangeScores (f : FieldIndex) (lower upper : Bound) : Scores :=
  match NumericRange.ofBounds lower upper with
  | .between lo hi => f.pointScores lo hi
  | .empty => .empty
  | .notNumeric => f.acceptedScores (Query.isBetween lower upper)

/-- What a function of the index of a field finds, and nothing if there is no such field. -/
def inField (index : Index) (name : String) (find : FieldIndex → Scores) : Scores :=
  ((index.field? name).map find).getD .empty

/-- The documents with a term that a pattern accepts. -/
def patternScores (index : Index) (field pattern : String) (regex? : Option Pattern.Regex) :
    Except InvalidPattern Scores :=
  match regex? with
  | some r => .ok (index.inField field fun f => f.acceptedScores fun term => r.accepts term.toList)
  | none => .error ⟨pattern⟩

end Index

/-! ### Boolean clauses -/

/-- The scores that children of one kind contribute. -/
def contributedBy (occur : Occur) (contributions : List (Occur × Float)) : List Float :=
  contributions.filterMap fun (o, score) => if o = occur then some score else none

/-- The score of a document from what children contribute to it, in their order, if it matches:
`required` is the number of children that have to. -/
def verdict? (required : Nat) (contributions : List (Occur × Float)) : Option Float :=
  let should := contributedBy .should contributions
  let extra := should.foldl (· + ·) 0.0
  if !(contributedBy .mustNot contributions).isEmpty then none
  else
    match contributedBy .must contributions with
    | [] => if required = 0 && !should.isEmpty then some extra else none
    | first :: rest =>
      if rest.length + 1 ≠ required then none
      else
        let score := rest.foldl (· + ·) first
        some (if should.isEmpty then score else score + extra)

/-- The documents of a boolean clause from those of its children. -/
def combine (children : List (Occur × Scores)) : Scores :=
  let required := (children.filter fun (occur, _) => occur = .must).length
  (Dictionary.group (children.flatMap fun (occur, scores) =>
    scores.entries.map fun (doc, score) => (doc, (occur, score)))).filterMap (verdict? required)

/-! ### Clauses -/

namespace Index

mutual

/-- The documents that a clause matches. -/
def scores (index : Index) : Clause → Except InvalidPattern Scores
  | .term field text => .ok (index.inField field fun f => index.termScores f text)
  | .phrase field terms => .ok (index.inField field fun f => index.phraseScores f terms)
  | .wildcard field pattern => index.patternScores field pattern (Pattern.wildcard? pattern)
  | .regexp field pattern => index.patternScores field pattern (Pattern.regexp? pattern)
  | .range field lower upper => .ok (index.inField field fun f => rangeScores f lower upper)
  | .boolean children => (index.childScores children).map combine

/-- The documents that the children of a boolean clause match. -/
def childScores (index : Index) :
    List (Occur × Clause) → Except InvalidPattern (List (Occur × Scores))
  | [] => .ok []
  | (occur, child) :: rest => do
    let first ← index.scores child
    let others ← index.childScores rest
    .ok ((occur, first) :: others)

end

/-- The hits of a clause, the best first, not more than `limit`. -/
def evaluate (index : Index) (clause : Clause) (limit : Nat) :
    Except InvalidPattern (List Hit) := do
  let scores ← index.scores clause
  let hits := scores.entries.map fun (doc, score) => ⟨doc, Numeral.Binary64.ofFloat score⟩
  .ok (rank hits limit)

end Index

end RegistrySearch
