import RegistrySearch.Json.Tree
import RegistrySearch.Record.Path

/-!
# Records and their values

A record is a JSON value, usually an object with an integer `id`. A value inside it is classified by
what can be searched in it (`TypedValue`): numbers become points, strings and truth values text, and
composite values the text that they are written as. The point of a number is its integer part,
clamped to 64 bits.
-/

namespace RegistrySearch

/-- The point of a number: its integer part, clamped to 64 bits. -/
def Json.Number.toPoint : Json.Number → Int64
  | natural n => Numeral.clampInt64 n.toNat
  | negative n => n
  | real x => Numeral.clampInt64 x.truncate

/-- A value as it can be searched. -/
inductive TypedValue where
  | string (text : String)
  | number (point : Int64)
  | boolean (b : Bool)
  | array (text : String)
  | object (text : String)
  | null
deriving DecidableEq

/-- The classification of a JSON value. -/
def TypedValue.ofJson : Json.Value → TypedValue
  | .null => null
  | .bool b => boolean b
  | .number n => number n.toPoint
  | .string s => string s
  | .array items => array (Json.Value.array items).render
  | .object entries => object (Json.Value.object entries).render

/-- A record: a JSON value, usually an object. -/
abbrev Record := Json.Value

namespace Record

/-- The value inside a record under keys, if every key but the last leads to an object. -/
def lookup? (record : Json.Value) : List String → Option Json.Value
  | [] => some record
  | key :: keys => (record.get? key).bind fun value => lookup? value keys

/-- The value at a path. What is missing is null. -/
def resolve (record : Json.Value) (path : Path) : TypedValue :=
  ((lookup? record path.segments).map TypedValue.ofJson).getD .null

/-- The identifier of a record that has none. -/
def missingId : Int64 := -1

/-- The identifier of a record: the integer of 64 bits at its key `id`. -/
def id (record : Json.Value) : Int64 :=
  ((record.get? Path.idName).bind Json.Value.int64?).getD missingId

/-- The string at a key of a record, empty if there is none. -/
def textAt (record : Json.Value) (key : String) : String :=
  ((record.get? key).bind Json.Value.string?).getD ""

end Record

end RegistrySearch
