import RegistrySearch.Index.Basic
import RegistrySearch.Json.Decode

/-!
# Indexes written as JSON

`Index.toJson` writes an index as a JSON value, the fields and terms as keys and a point as a pair.
`Index.ofTree?` is the index that JSON denotes, if every part has its shape; that the parts fit
together is not asked.
-/

namespace RegistrySearch

open Json (Value Tree)

/-! ### Writing -/

/-- The JSON value of a posting. -/
def Posting.toJson (p : Posting) : Value :=
  .object [("doc", .nat p.doc.toNat), ("positions", .array (p.positions.toList.map (.nat ·.toNat)))]

/-- The JSON value of the postings of a term. -/
def PostingList.toJson (list : PostingList) : Value :=
  .object [("postings", .array (list.postings.toList.map Posting.toJson)),
    ("doc_freq", .nat list.docFreq.toNat)]

/-- The JSON value of a point. -/
def pointToJson (p : Int64 × Ordinal) : Value := .array [.int p.1.toInt, .nat p.2.toNat]

/-- The JSON value of a field. -/
def FieldIndex.toJson (f : FieldIndex) : Value :=
  .object [("terms", .object (f.terms.map PostingList.toJson).entries),
    ("points", .array (f.points.toList.map pointToJson)),
    ("lengths", .array (f.lengths.toList.map (.nat ·.toNat))),
    ("total_length", .nat f.totalLength.toNat), ("length_docs", .nat f.lengthDocs.toNat)]

/-- The JSON value of an index. -/
def Index.toJson (index : Index) : Value :=
  .object [("ids", .array (index.ids.toList.map (.int ·.toInt))),
    ("fields", .object (index.fields.map FieldIndex.toJson).entries)]

/-! ### Reading -/

/-- An array of data of one shape. -/
def arrayOf? {α : Type} (item? : Tree → Option α) (t : Tree) : Option (Array α) :=
  (t.list? item?).map List.toArray

/-- A posting written as JSON. -/
def Posting.ofTree? (t : Tree) : Option Posting := do
  match ← t.fields? ["doc", "positions"] with
  | [some doc, some positions] => some ⟨← doc.uint32?, ← arrayOf? Tree.uint32? positions⟩
  | _ => none

/-- The postings of a term written as JSON. -/
def PostingList.ofTree? (t : Tree) : Option PostingList := do
  match ← t.fields? ["postings", "doc_freq"] with
  | [some postings, some docFreq] =>
    some ⟨← arrayOf? Posting.ofTree? postings, ← docFreq.uint64?⟩
  | _ => none

/-- A field written as JSON. -/
def FieldIndex.ofTree? (t : Tree) : Option FieldIndex := do
  match ← t.fields? ["terms", "points", "lengths", "total_length", "length_docs"] with
  | [some terms, some points, some lengths, some totalLength, some lengthDocs] =>
    some ⟨← terms.dictionary? PostingList.ofTree?,
      ← arrayOf? (Tree.pair? Tree.int64? Tree.uint32?) points, ← arrayOf? Tree.uint32? lengths,
      ← totalLength.uint64?, ← lengthDocs.uint32?⟩
  | _ => none

/-- An index written as JSON. -/
def Index.ofTree? (t : Tree) : Option Index := do
  match ← t.fields? ["ids", "fields"] with
  | [some ids, some fields] =>
    some ⟨← arrayOf? Tree.int64? ids, ← fields.dictionary? FieldIndex.ofTree?⟩
  | _ => none

end RegistrySearch
