import RegistrySearch.Record.TypedValue
import RegistrySearch.Text.Split

/-!
# Items

An item is what a caller gets to see of a matching registration. What a record does not have is
empty or zero in it.
-/

namespace RegistrySearch

/-- The summary of a service registration. -/
structure Item where
  /-- The identifier, as text. -/
  assignedId : String
  evalOrder : Int64
  name : String
  serviceId : String
  description : String
  /-- What stands behind the last dot of the name of the class. -/
  serviceType : String
deriving DecidableEq

namespace Item

/-- The part of a name behind its last dot. -/
def lastSegment (name : String) : String :=
  String.ofList (((Text.splitAt '.' name.toList).getLast?).getD [])

/-- The summary of a record. -/
def ofRecord (r : Record) : Item where
  assignedId := toString (Record.id r).toInt
  evalOrder := ((r.get? "evalOrder").bind Json.Value.int64?).getD 0
  name := Record.textAt r "name"
  serviceId := Record.textAt r "serviceId"
  description := Record.textAt r "description"
  serviceType := lastSegment (Record.textAt r "@class")

/-- An item as JSON. -/
def toJson (i : Item) : Json.Value :=
  .object [("assignedId", .string i.assignedId), ("evalOrder", .int i.evalOrder.toInt),
    ("name", .string i.name), ("serviceId", .string i.serviceId),
    ("description", .string i.description), ("serviceType", .string i.serviceType)]

end Item

end RegistrySearch
