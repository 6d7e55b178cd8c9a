/-!
# Arguments of a command

Arguments are read from left to right. An argument that starts with two dashes names a **setting**,
`--name value` or `--name=value`; one that starts with a single dash names it by a letter,
`-n value`, `-nvalue` or `-n=value`. Any other argument is a **word**, and so is a lone dash. Behind
the argument `--` all are words.

A value on its own never starts with a dash, the lone dash aside, so that a forgotten value is
noticed. The first `ArgumentFault` ends the reading, and so does a request for help; otherwise
`Given.read` gathers the words and what each setting is given, and leaves to the commands what they
make of it.
-/

namespace RegistrySearch.CommandLine

/-- A setting that takes a value. -/
structure Setting where
  name : String
  letter? : Option Char
  /-- Whether it can be given more than once. -/
  repeats : Bool
  /-- Whether a text is a value of it. -/
  accepts : String → Bool

/-- What can be wrong with arguments. -/
inductive ArgumentFault where
  | unknownArgument (argument : String)
  | missingValue (name : String)
  | invalidValue (name value : String)
  | repeatedSetting (name : String)
  | unexpectedWord (word : String)
  | missing (name : String)
  | unknownCommand (name : String)
  | missingCommand
deriving DecidableEq

/-- The wording of a fault. -/
def ArgumentFault.message : ArgumentFault → String
  | unknownArgument argument => "unknown argument '" ++ argument ++ "'"
  | missingValue name => "a value is missing for '--" ++ name ++ "'"
  | invalidValue name value => "invalid value '" ++ value ++ "' for '--" ++ name ++ "'"
  | repeatedSetting name => "'--" ++ name ++ "' is given more than once"
  | unexpectedWord word => "unexpected argument '" ++ word ++ "'"
  | missing name => name ++ " is missing"
  | unknownCommand name => "unknown command '" ++ name ++ "'"
  | missingCommand => "a command is missing"

/-- The shapes of an argument. -/
inductive Argument where
  /-- The end of the settings. -/
  | separator
  /-- A setting by its name, with the value behind a sign of equality. -/
  | named (name : String) (value? : Option String)
  /-- A setting by its letter, with the characters that follow. -/
  | lettered (letter : Char) (rest : List Char)
  | word (text : String)
deriving DecidableEq

namespace Argument

/-- What stands in front of the first sign of equality, and what behind it. -/
def splitValue (s : List Char) : String × Option String :=
  let name := String.ofList (s.takeWhile (· ≠ '='))
  match s.dropWhile (· ≠ '=') with
  | [] => (name, none)
  | _ :: value => (name, some (String.ofList value))

/-- The shape of an argument. -/
def ofText (text : String) : Argument :=
  match text.toList with
  | ['-', '-'] => separator
  | '-' :: '-' :: rest =>
    let (name, value?) := splitValue rest
    named name value?
  | '-' :: letter :: rest => lettered letter rest
  | _ => word text

/-- The value that follows a letter in the same argument. -/
def attachedValue? (rest : List Char) : Option String :=
  match rest with
  | [] => none
  | '=' :: value => some (String.ofList value)
  | value => some (String.ofList value)

end Argument

/-- What a command is told. -/
structure Given where
  /-- The values of settings by their names, in order. -/
  settings : List (String × String)
  words : List String
deriving DecidableEq

namespace Given

/-- Nothing is given. -/
def nothing : Given := ⟨[], []⟩

/-- The first value of a setting. -/
def value? (g : Given) (name : String) : Option String := g.settings.lookup name

/-- The values of a setting, in order. -/
def values (g : Given) (name : String) : List String :=
  (g.settings.filter (·.1 = name)).map (·.2)

/-- Gives a setting a value. -/
def set (g : Given) (s : Setting) (value : String) : Except ArgumentFault Given :=
  if !s.accepts value then .error (.invalidValue s.name value)
  else if !s.repeats && (g.value? s.name).isSome then .error (.repeatedSetting s.name)
  else .ok { g with settings := g.settings ++ [(s.name, value)] }

/-- Gives a word, of which a command takes `most`. -/
def addWord (g : Given) (most : Nat) (word : String) : Except ArgumentFault Given :=
  if g.words.length < most then .ok { g with words := g.words ++ [word] }
  else .error (.unexpectedWord word)

/-- Reads the arguments of a command that knows some settings and takes at most `most` words. The
answer is `none` if the arguments ask for help. -/
def read (settings : List Setting) (most : Nat) (g : Given) :
    List String → Except ArgumentFault (Option Given)
  | [] => .ok (some g)
  | argument :: rest =>
    match Argument.ofText argument with
    | .separator => do return some (← rest.foldlM (·.addWord most) g)
    | .word text => do read settings most (← g.addWord most text) rest
    | .named "help" none => .ok none
    | .lettered 'h' _ => .ok none
    | .named name value? =>
      match settings.find? (·.name = name) with
      | none => .error (.unknownArgument argument)
      | some s => give s value? rest
    | .lettered letter attached =>
      match settings.find? (·.letter? = some letter) with
      | none => .error (.unknownArgument argument)
      | some s => give s (Argument.attachedValue? attached) rest
where
  /-- Gives a setting the value in its own argument or the one that follows, and reads on. -/
  give (s : Setting) (value? : Option String) (rest : List String) :
      Except ArgumentFault (Option Given) :=
    match value?, rest with
    | some value, rest => do read settings most (← g.set s value) rest
    | none, value :: rest =>
      match Argument.ofText value with
      | .word value => do read settings most (← g.set s value) rest
      | _ => .error (.missingValue s.name)
    | none, [] => .error (.missingValue s.name)

end Given

end RegistrySearch.CommandLine
