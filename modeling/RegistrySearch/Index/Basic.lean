import RegistrySearch.Dictionary
import RegistrySearch.Numeral.Binary64

/-!
# The index of a search

An `Index` is built for one query and holds, for every field, the terms with the documents and
positions at which they stand, the numeric points, and the lengths of the texts. Documents are known
by their **ordinals**, the places at which they were put in; their identifiers are stored beside.

Nothing in the types keeps the parts of an index together: ordinals may lead nowhere, counters may
count something else. `Index.isWellFormed` says when they do fit together. An index that is read
from text need not.
-/

namespace RegistrySearch

/-- The place of a document in an index. -/
abbrev Ordinal := UInt32

/-- The positions of a term in one document. -/
structure Posting where
  doc : Ordinal
  positions : Array UInt32
deriving DecidableEq, Inhabited

/-- The number of times that a term occurs in a document. -/
def Posting.frequency (p : Posting) : Nat := p.positions.size

/-- The documents in which a term occurs. -/
structure PostingList where
  postings : Array Posting
  docFreq : UInt64
deriving DecidableEq, Inhabited

/-- What is indexed under the name of one field. -/
structure FieldIndex where
  terms : Dictionary String PostingList
  /-- The points with their documents. -/
  points : Array (Int64 × Ordinal)
  /-- The number of tokens of each document. -/
  lengths : Array UInt32
  /-- The number of all tokens. -/
  totalLength : UInt64
  /-- The number of documents with tokens. -/
  lengthDocs : UInt32

namespace FieldIndex

/-- The mean number of tokens of the documents that have some; one if none has. -/
def averageLength (f : FieldIndex) : Float :=
  if f.lengthDocs = 0 then 1.0 else f.totalLength.toFloat / f.lengthDocs.toFloat

/-- The number of tokens of a document; one if it has none. -/
def lengthOf (f : FieldIndex) (doc : Ordinal) : UInt32 :=
  match f.lengths[doc.toNat]? with
  | some length => if length = 0 then 1 else length
  | none => 1

end FieldIndex

/-- An index: the identifiers of its documents and its fields. -/
structure Index where
  ids : Array Int64
  fields : Dictionary String FieldIndex

namespace Index

/-- The number of documents. -/
def docCount (index : Index) : Nat := index.ids.size

/-- What is indexed under a name. -/
def field? (index : Index) (name : String) : Option FieldIndex := index.fields.get? name

/-- The identifier of a document. -/
def storedId? (index : Index) (doc : Ordinal) : Option Int64 := index.ids[doc.toNat]?

end Index

/-! ### Indexes that fit together -/

/-- Whether every two neighbours are related. -/
def isChain {α : Type} (related : α → α → Bool) (xs : List α) : Bool :=
  (xs.zip (xs.drop 1)).all fun (x, y) => related x y

/-- The order of points: by value, then by document. -/
def pointBefore (p q : Int64 × Ordinal) : Bool :=
  p.1 < q.1 || (p.1 = q.1 && p.2 ≤ q.2)

/-- Whether the postings of a term are ascending, in range, counted, and none without positions. -/
def PostingList.isWellFormed (docCount : Nat) (list : PostingList) : Bool :=
  list.docFreq.toNat = list.postings.size
    && isChain (fun p q => p.doc < q.doc) list.postings.toList
    && list.postings.all fun p => p.doc.toNat < docCount && !p.positions.isEmpty

/-- Whether the parts of a field are well formed and its points ascending. -/
def FieldIndex.isWellFormed (docCount : Nat) (f : FieldIndex) : Bool :=
  f.terms.values.all (PostingList.isWellFormed docCount)
    && isChain pointBefore f.points.toList
    && f.points.all (fun p => p.2.toNat < docCount)
    && f.lengths.size = docCount

/-- Whether the fields of an index are well formed. -/
def Index.isWellFormed (index : Index) : Bool :=
  index.fields.values.all (FieldIndex.isWellFormed index.docCount)

end RegistrySearch
