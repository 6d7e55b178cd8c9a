import RegistrySearch.Json.Number

/-!
# JSON values and their text

An object keeps its entries as a list. Values read from text have them sorted by key, each key once;
a value that is only written keeps the order in which it was put together. There are two texts of a
value, the compact one of `render` and that of `pretty` with one entry a line.
-/

namespace RegistrySearch.Json

/-- A JSON value. -/
inductive Value where
  | null
  | bool (b : Bool)
  | number (n : Number)
  | string (s : String)
  | array (items : List Value)
  | object (entries : List (String × Value))
deriving Inhabited

namespace Value

/-- The value of an integer. -/
def int (n : Int) : Value := .number (.ofInt n)

/-- The value of a natural number. -/
def nat (n : Nat) : Value := .int n

/-- The entry of an object at a key; nothing for other values. -/
def get? (v : Value) (key : String) : Option Value :=
  match v with
  | object entries => entries.lookup key
  | _ => none

/-- The text of a string value. -/
def string? : Value → Option String
  | string s => some s
  | _ => none

/-- The integer of a number value that is written as one and fits 64 bits. -/
def int64? : Value → Option Int64
  | number n => n.int64?
  | _ => none

/-- Whether a value is an object. -/
def isObject : Value → Bool
  | object _ => true
  | _ => false

/-- Whether a value is null. -/
def isNull : Value → Bool
  | null => true
  | _ => false

/-! ### Text -/

/-- The hexadecimal digit, in lower case. -/
def hexDigit (n : Nat) : Char :=
  if n < 10 then Char.ofNat ('0'.toNat + n) else Char.ofNat ('a'.toNat + (n - 10))

/-- A character inside quotes: quotes, backslashes and control characters are escaped. -/
def escapeChar (c : Char) : List Char :=
  if c = '"' then ['\\', '"']
  else if c = '\\' then ['\\', '\\']
  else if c = '\n' then ['\\', 'n']
  else if c = '\r' then ['\\', 'r']
  else if c = '\t' then ['\\', 't']
  else if c = '\x08' then ['\\', 'b']
  else if c = '\x0c' then ['\\', 'f']
  else if c.toNat < 0x20 then
    ['\\', 'u', '0', '0', hexDigit (c.toNat / 16), hexDigit (c.toNat % 16)]
  else [c]

/-- A string in quotes. -/
def quote (s : String) : List Char := '"' :: s.toList.flatMap escapeChar ++ ['"']

mutual

/-- The compact text of a value, as characters. -/
def renderChars : Value → List Char
  | null => "null".toList
  | bool true => "true".toList
  | bool false => "false".toList
  | number n => n.render
  | string s => quote s
  | array [] => ['[', ']']
  | array (v :: rest) => '[' :: renderChars v ++ renderItems rest
  | object [] => ['{', '}']
  | object ((k, v) :: rest) => '{' :: quote k ++ ':' :: renderChars v ++ renderEntries rest

/-- The text of the further items of an array, with its closing bracket. -/
def renderItems : List Value → List Char
  | [] => [']']
  | v :: rest => ',' :: renderChars v ++ renderItems rest

/-- The text of the further entries of an object, with its closing brace. -/
def renderEntries : List (String × Value) → List Char
  | [] => ['}']
  | (k, v) :: rest => ',' :: quote k ++ ':' :: renderChars v ++ renderEntries rest

end

/-- The compact text of a value. -/
def render (v : Value) : String := String.ofList v.renderChars

/-- A line break followed by the blanks of `depth` levels. -/
def newLine (depth : Nat) : List Char := '\n' :: List.replicate (2 * depth) ' '

mutual

/-- The text of a value at a depth, with one item or entry a line. -/
def prettyChars (depth : Nat) : Value → List Char
  | array (v :: rest) =>
    '[' :: newLine (depth + 1) ++ prettyChars (depth + 1) v ++ prettyItems depth rest
  | object ((k, v) :: rest) =>
    '{' :: newLine (depth + 1) ++ quote k ++ ':' :: ' ' :: prettyChars (depth + 1) v
      ++ prettyEntries depth rest
  | array [] => ['[', ']']
  | object [] => ['{', '}']
  | null => "null".toList
  | bool b => renderChars (.bool b)
  | number n => n.render
  | string s => quote s

/-- The lines of the further items of an array at a depth. -/
def prettyItems (depth : Nat) : List Value → List Char
  | [] => newLine depth ++ [']']
  | v :: rest =>
    ',' :: newLine (depth + 1) ++ prettyChars (depth + 1) v ++ prettyItems depth rest

/-- The lines of the further entries of an object at a depth. -/
def prettyEntries (depth : Nat) : List (String × Value) → List Char
  | [] => newLine depth ++ ['}']
  | (k, v) :: rest =>
    ',' :: newLine (depth + 1) ++ quote k ++ ':' :: ' ' :: prettyChars (depth + 1) v
      ++ prettyEntries depth rest

end

/-- The text of a value with one item or entry a line. -/
def pretty (v : Value) : String := String.ofList (prettyChars 0 v)

end Value

end RegistrySearch.Json
