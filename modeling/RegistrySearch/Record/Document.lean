import RegistrySearch.Json.Decode
import RegistrySearch.Record.TypedValue

/-!
# Documents

A document is what is indexed of a record: its identifier and fields, each with the way in which its
value is indexed.
-/

namespace RegistrySearch

/-- The way in which a field is indexed. -/
inductive FieldKind where
  /-- The whole value is one term. -/
  | exact
  /-- The tokens of the value are terms. -/
  | text
  /-- The point of the field is indexed. -/
  | numeric
deriving DecidableEq

/-- A field of a document. -/
structure Field where
  name : String
  kind : FieldKind
  value : String
  /-- The point of a numeric field. -/
  point : Option Int64
deriving DecidableEq

namespace Field

/-- A field whose whole value is one term. -/
def exact (name value : String) : Field := ⟨name, .exact, value, none⟩

/-- A field whose tokens are terms. -/
def text (name value : String) : Field := ⟨name, .text, value, none⟩

/-- A field with a point. -/
def numeric (name : String) (point : Int64) : Field :=
  ⟨name, .numeric, toString point.toInt, some point⟩

end Field

/-- A document. -/
structure Document where
  /-- The identifier that is stored with the document. -/
  id : Int64
  fields : List Field
deriving DecidableEq

namespace Document

/-- The fields of a name, in order. -/
def fieldsNamed (d : Document) (name : String) : List Field := d.fields.filter (·.name = name)

end Document

/-! ### Documents written as JSON -/

/-- The names of the kinds of fields. -/
def FieldKind.names : List (String × FieldKind) :=
  [("exact", exact), ("text", text), ("numeric", numeric)]

/-- A field written as JSON; its point may be left out. -/
def Field.ofTree? (t : Json.Tree) : Option Field := do
  match ← t.fields? ["name", "kind", "value", "point"] with
  | [some name, some kind, some value, point] =>
    let point ← match point with
      | some point => point.nullable? Json.Tree.int64?
      | none => some none
    some ⟨← name.string?, ← kind.name? FieldKind.names, ← value.string?, point⟩
  | _ => none

/-- A document written as JSON. -/
def Document.ofTree? (t : Json.Tree) : Option Document := do
  match ← t.fields? ["id", "fields"] with
  | [some id, some fields] => some ⟨← id.int64?, ← fields.list? Field.ofTree?⟩
  | _ => none

end RegistrySearch
