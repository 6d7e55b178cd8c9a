import RegistrySearch.Record.Document

/-!
# Projection of records on paths

Only what a query looks at is indexed. The document of a record (`Record.project`) holds its
identifier and, for each path, the value found there: a number as a point and as a term, a string as
tokens or, at a marked path, as one term, everything else as the tokens of its text. Nothing stands
for a missing value.

The path of the whole record brings in the text of the record and, unless they have paths of their
own, the policies that it is usually searched by.
-/

namespace RegistrySearch

/-- The fields of the value at a path. -/
def Field.ofValue (path : Path) (value : TypedValue) : List Field :=
  let name := path.unmarked
  match value with
  | .number n => [.numeric name n, .exact name (toString n.toInt)]
  | .boolean b => [.text name (if b then "true" else "false")]
  | .array s => [.text name s]
  | .object s => [.text name s]
  | .string s => if path.isExact then [.exact name s] else [.text name s]
  | .null => []

namespace Record

/-- The parts of a record that are indexed under their own names beside the whole record. -/
def policyNames : List String :=
  ["attributeReleasePolicy", "accessStrategy", "multifactorPolicy", "contacts",
    "usernameAttributeProvider", "acceptableUsagePolicy"]

/-- The field of a policy of a record, if it has one and no path asks for it on its own. -/
def policyField? (record : Json.Value) (paths : PathSet) (name : String) : Option Field :=
  if paths.contains ⟨name⟩ then none
  else
    match record.get? name with
    | some value => if value.isNull then none else some (.text name value.render)
    | none => none

/-- The fields of the whole record. -/
def bodyFields (record : Json.Value) (paths : PathSet) : List Field :=
  .text Path.body.text record.render :: policyNames.filterMap (policyField? record paths)

/-- The fields that a path asks for. -/
def fieldsAt (record : Json.Value) (paths : PathSet) (path : Path) : List Field :=
  if path.isId then []
  else if path.isBody then bodyFields record paths
  else Field.ofValue path (resolve record path)

/-- The document of a record for the paths of a query. -/
def project (record : Json.Value) (paths : PathSet) : Document :=
  let identifier := id record
  ⟨identifier, .exact Path.idName (toString identifier.toInt) :: .numeric Path.idName identifier
    :: paths.paths.flatMap (fieldsAt record paths)⟩

end Record

end RegistrySearch
