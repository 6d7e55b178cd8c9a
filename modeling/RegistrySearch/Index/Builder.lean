import RegistrySearch.Arithmetic
import RegistrySearch.Index.Basic
import RegistrySearch.Record.Document
import RegistrySearch.Text.Token

/-!
# Building an index

The index of a field depends on its **column** alone: for every document the fields of that name.
The texts of a document in one field are read one after the other, so that the positions of a later
text go on where the earlier one ended; a value that is kept whole stands at position 0.
`FieldIndex.ofColumn` says this in one go, and `Index.ofDocuments` puts the columns together.

A `Builder` gets to the same index step by step: documents are added one at a time, each field of
them in its turn, and what can only be said at the end is left to `finish`.
-/

namespace RegistrySearch

open Text (tokenize)

/-- The terms of a document's fields with their positions, when `start` tokens stand before. -/
def occurrencesFrom (start : Nat) : List Field → List (String × Nat)
  | [] => []
  | f :: rest =>
    match f.kind with
    | .exact => (f.value, 0) :: occurrencesFrom start rest
    | .text =>
      let tokens := tokenize f.value
      tokens.map (fun t => (t.term, start + t.position))
        ++ occurrencesFrom (start + tokens.length) rest
    | .numeric => occurrencesFrom start rest

/-- The number of tokens of a document's fields. -/
def tokenCount (fields : List Field) : Nat :=
  (fields.map fun f => if f.kind = .text then (tokenize f.value).length else 0).sum

/-- The points of a document's fields. -/
def pointsOf (fields : List Field) : List Int64 :=
  fields.filterMap fun f => if f.kind = .numeric then f.point else none

/-- The posting of a document for the positions of a term in it. -/
def Posting.ofPositions (doc : Nat) (positions : List Nat) : Posting :=
  ⟨doc.toUInt32, ((Dictionary.ofKeys (fun _ => ()) (positions.map Nat.toUInt32)).keys).toArray⟩

/-- The postings of a term for the documents and positions at which it occurs. -/
def PostingList.ofOccurrences (occurrences : List (Nat × Nat)) : PostingList :=
  let byDocument := (Dictionary.group occurrences).entries
  ⟨(byDocument.map fun (doc, positions) => Posting.ofPositions doc positions).toArray,
    byDocument.length.toUInt64⟩

namespace FieldIndex

/-- The terms of a column, each with the documents and positions at which it occurs. -/
def columnOccurrences (column : List (List Field)) : List (String × Nat × Nat) :=
  column.zipIdx.flatMap fun (fields, doc) =>
    (occurrencesFrom 0 fields).map fun (term, position) => (term, doc, position)

/-- The points of a column with their documents. -/
def columnPoints (column : List (List Field)) : List (Int64 × Ordinal) :=
  column.zipIdx.flatMap fun (fields, doc) =>
    (pointsOf fields).map fun point => (point, doc.toUInt32)

/-- The index of a column. -/
def ofColumn (column : List (List Field)) : FieldIndex :=
  let lengths := column.map tokenCount
  { terms := (Dictionary.group (columnOccurrences column)).map PostingList.ofOccurrences
    points := (sortBy pointBefore (columnPoints column)).toArray
    lengths := (lengths.map Nat.toUInt32).toArray
    totalLength := lengths.sum.toUInt64
    lengthDocs := (lengths.filter (· ≠ 0)).length.toUInt32 }

end FieldIndex

namespace Index

/-- The index of documents in their order. -/
def ofDocuments (documents : List Document) : Index :=
  let names := documents.flatMap fun d => d.fields.map (·.name)
  { ids := (documents.map (·.id)).toArray
    fields := Dictionary.ofKeys
      (fun name => FieldIndex.ofColumn (documents.map (·.fieldsNamed name))) names }

end Index

/-! ### Documents one at a time

A builder only ever adds at the end: as ordinals grow, a posting of the document that is being added
can stand nowhere but at the end of a list. What a whole document or all documents are needed for
is left to the end: positions are sorted, documents counted and points sorted. -/

/-- Makes an array a given number of words long, with zeros for those that are missing. -/
def resized (size : Nat) (words : Array UInt32) : Array UInt32 :=
  words.extract 0 size ++ Array.replicate (size - words.size) 0

/-- The words with one for a document and those before it. -/
def reaching (doc : Ordinal) (words : Array UInt32) : Array UInt32 :=
  if words.size ≤ doc.toNat then resized (doc.toNat + 1) words else words

/-- Takes up an occurrence in a document, which is the last one seen so far or a new one. -/
def PostingList.addPosition (doc : Ordinal) (position : UInt32) (list : PostingList) :
    PostingList :=
  match list.postings.back? with
  | some last =>
    if last.doc = doc then
      { list with postings := list.postings.pop.push ⟨doc, last.positions.push position⟩ }
    else { list with postings := list.postings.push ⟨doc, #[position]⟩ }
  | none => { list with postings := list.postings.push ⟨doc, #[position]⟩ }

/-- The posting with its positions sorted, each of them once. -/
def Posting.finish (p : Posting) : Posting :=
  ⟨p.doc, ((Dictionary.ofKeys (fun _ => ()) p.positions.toList).keys).toArray⟩

/-- The postings, finished and counted. -/
def PostingList.finish (list : PostingList) : PostingList :=
  ⟨list.postings.map Posting.finish, list.postings.size.toUInt64⟩

namespace FieldIndex

/-- A field of which nothing is indexed. -/
def empty : FieldIndex := ⟨.empty, #[], #[], 0, 0⟩

/-- Takes up an occurrence of a term. -/
def addPosition (doc : Ordinal) (index : FieldIndex) (term : String) (position : UInt32) :
    FieldIndex :=
  { index with
    terms := index.terms.update term fun list =>
      (list.getD ⟨#[], 0⟩).addPosition doc position }

/-- Takes up a field of a document. -/
def addField (doc : Ordinal) (index : FieldIndex) (f : Field) : FieldIndex :=
  match f.kind with
  | .exact => index.addPosition doc f.value 0
  | .text =>
    let lengths := reaching doc index.lengths
    -- a second text in the same field goes on after the first
    let base := lengths.getD doc.toNat 0
    let tokens := tokenize f.value
    let index := tokens.foldl
      (fun index t => index.addPosition doc t.term (base + t.position.toUInt32)) index
    { index with lengths := lengths.setIfInBounds doc.toNat (base + tokens.length.toUInt32) }
  | .numeric =>
    match f.point with
    | some point => { index with points := index.points.push (point, doc) }
    | none => index

/-- The field with lengths for all documents, its statistics, its postings finished and its points
sorted. -/
def finish (docCount : Nat) (index : FieldIndex) : FieldIndex :=
  let lengths := resized docCount index.lengths
  { terms := index.terms.map PostingList.finish
    points := (sortBy pointBefore index.points.toList).toArray
    lengths := lengths
    totalLength := (lengths.toList.map UInt32.toUInt64).sum
    lengthDocs := (lengths.toList.filter (· ≠ 0)).length.toUInt32 }

end FieldIndex

/-- An index to which documents are added. -/
structure Builder where
  ids : Array Int64
  fields : Dictionary String FieldIndex

namespace Builder

/-- No documents. -/
def empty : Builder := ⟨#[], .empty⟩

/-- The number of documents so far. -/
def docCount (b : Builder) : Nat := b.ids.size

/-- Takes up a field of a document. -/
def addField (doc : Ordinal) (fields : Dictionary String FieldIndex) (f : Field) :
    Dictionary String FieldIndex :=
  fields.update f.name fun index => (index.getD .empty).addField doc f

/-- Takes up a document, which gets the next ordinal. -/
def add (b : Builder) (d : Document) : Ordinal × Builder :=
  let doc := b.docCount.toUInt32
  (doc, ⟨b.ids.push d.id, d.fields.foldl (addField doc) b.fields⟩)

/-- Takes up documents in their order, with the ordinals that they get. -/
def addAll (b : Builder) : List Document → List Ordinal × Builder
  | [] => ([], b)
  | d :: rest =>
    let (doc, b) := b.add d
    let (docs, b) := b.addAll rest
    (doc :: docs, b)

/-- The index of the documents. -/
def finish (b : Builder) : Index := ⟨b.ids, b.fields.map (FieldIndex.finish b.docCount)⟩

end Builder

end RegistrySearch
