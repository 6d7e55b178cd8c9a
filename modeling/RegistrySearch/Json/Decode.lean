import RegistrySearch.Json.Tree

/-!
# Reading typed data from JSON

Data of a known shape is read from the syntax tree, so that only what it needs has to denote a
value. A record is written as an object or, with its fields in their order, as an array: `fields?`
reads both, and passes over entries that it does not know; `onlyFields?` refuses them.
-/

namespace RegistrySearch.Json.Tree

/-- A string. -/
def string? : Tree → Option String
  | string codes => text? codes
  | _ => none

/-- A number. -/
def number? : Tree → Option Number
  | number n => n.value?
  | _ => none

/-- A signed word. -/
def int64? (t : Tree) : Option Int64 := t.number?.bind Number.int64?

/-- An unsigned word. -/
def uint64? (t : Tree) : Option UInt64 := t.number?.bind Number.uint64?

/-- A short unsigned word. -/
def uint32? (t : Tree) : Option UInt32 := t.number?.bind Number.uint32?

/-- Data that may be null. -/
def nullable? {α : Type} (item? : Tree → Option α) : Tree → Option (Option α)
  | null => some none
  | t => (item? t).map some

/-- A list of data of one shape. -/
def list? {α : Type} (item? : Tree → Option α) : Tree → Option (List α)
  | array items => items.mapM item?
  | _ => none

/-- A pair, written as an array of two. -/
def pair? {α β : Type} (first? : Tree → Option α) (second? : Tree → Option β) :
    Tree → Option (α × β)
  | array [a, b] => do some (← first? a, ← second? b)
  | _ => none

/-- Data of one shape under arbitrary keys; of equal keys the last one counts. -/
def dictionary? {α : Type} (item? : Tree → Option α) : Tree → Option (Dictionary String α)
  | object members =>
    (members.mapM fun (key, t) => do some (← text? key, ← item? t)).map Dictionary.ofList
  | _ => none

/-- One of some names, written as a string or as the only key of an object that holds null. -/
def name? {α : Type} (names : List (String × α)) : Tree → Option α
  | string codes => (text? codes).bind fun name => names.lookup name
  | object [(key, null)] => (text? key).bind fun name => names.lookup name
  | _ => none

/-- What stands at the key `name` among members; nothing is allowed to stand there twice. -/
def member? (members : List (String × Tree)) (name : String) : Option (Option Tree) :=
  match members.filter fun (key, _) => key = name with
  | [] => some none
  | [(_, t)] => some (some t)
  | _ => none

/-- The fields of a record, each with its name, in the order in which they are written. -/
def namedMembers? (names : List String) : Tree → Option (List (String × Tree))
  | object members => members.mapM fun (key, t) => (text? key).map fun key => (key, t)
  | array items => if items.length ≤ names.length then some (names.zip items) else none
  | _ => none

/-- The fields of a record in the order of their names, `none` where one is left out. Fields of
other names are not looked at. -/
def fields? (names : List String) (t : Tree) : Option (List (Option Tree)) :=
  (t.namedMembers? names).bind fun members => names.mapM (member? members)

/-- The fields of a record that has no fields of other names. -/
def onlyFields? (names : List String) (t : Tree) : Option (List (Option Tree)) :=
  (t.namedMembers? names).bind fun members =>
    if members.all fun (key, _) => names.contains key then names.mapM (member? members) else none

end RegistrySearch.Json.Tree
