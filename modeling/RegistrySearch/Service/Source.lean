import RegistrySearch.Service.Item

/-!
# Sources of records

A source lists its records, looks one up by its identifier, and summarizes one for a caller. Nothing
ties the three together: the sources that matter are those of a list of records (`ofRecords`), which
finds the last record with an identifier, and of the text of a file.
-/

namespace RegistrySearch

/-- Why a source has no records. -/
inductive SourceError where
  | unreadable
  | notJson
  | notRecords
deriving DecidableEq

/-- The wording for a text that holds something else than records. -/
def SourceError.notRecordsText : String := "record file must contain a JSON array of objects"

/-- Where records come from. -/
structure Source where
  /-- All records, whoever may see them. -/
  records : Except SourceError (List Record)
  /-- The record with an identifier. -/
  find? : Int64 → Option Record
  /-- What a caller gets to see of a record. -/
  summarize : Record → Item

namespace Source

/-- The source of a list of records. -/
def ofRecords (records : List Record) : Source :=
  let byId := Dictionary.ofList (records.map fun r => ((Record.id r).toInt, r))
  ⟨.ok records, fun id => byId.get? id.toInt, Item.ofRecord⟩

/-- The records that a text holds: a JSON array of objects. -/
def recordsOfText (text : String) : Except SourceError (List Record) :=
  match Json.Value.read? text with
  | none => .error .notJson
  | some (.array items) => if items.all (·.isObject) then .ok items else .error .notRecords
  | some _ => .error .notRecords

/-- The source of the text of a file, `none` if there is no such file. -/
def ofText (text? : Option String) : Except SourceError Source :=
  match text? with
  | none => .error .unreadable
  | some text => (recordsOfText text).map ofRecords

end Source

end RegistrySearch
