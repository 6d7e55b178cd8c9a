import RegistrySearch.Sorting
import RegistrySearch.Text.Component

/-!
# Files and directories

A command reads files as texts and makes directories. `FileSystem` says what it needs for that, in
any monad; `Workspace` is the plain value behind such operations: what lies in the directory in
which a command works, and under which names. Paths that lead out of that directory lead to a place
where nothing is read and any directory can be made.
-/

namespace RegistrySearch.CommandLine

/-- What a command needs of the files around it. -/
structure FileSystem (m : Type → Type) where
  /-- The text of a file, if it can be read. -/
  text? : String → m (Option String)
  /-- Makes a directory together with those it lies in; whether it is there afterwards. -/
  makeDirectory : String → m Bool

/-- The path of a name in a directory. -/
def joinPath (directory name : String) : String :=
  if directory.isEmpty || directory.endsWith "/" then directory ++ name
  else directory ++ "/" ++ name

/-- The names that lead from the working directory to a place in it. -/
abbrev Place := List String

/-- What lies in a working directory. -/
structure Workspace where
  files : List (Place × String)
  /-- The directories in it, each once. -/
  directories : List Place

namespace Workspace

/-- Whether a directory lies at a place. -/
def hasDirectory (w : Workspace) (p : Place) : Bool := p.isEmpty || w.directories.contains p

/-- The steps of a path, from the working directory; `none` for a path that starts elsewhere. -/
def steps? (path : String) : Option (List String) :=
  if path.startsWith "/" then none
  else some (path.splitOn "/")

/-- Follows steps from the place of a directory to a file. -/
def textFrom? (w : Workspace) (here : Place) : List String → Option String
  | [] => none
  | step :: rest =>
    if step = "" || step = "." then textFrom? w here rest
    else if step = ".." then
      if here.isEmpty then none else textFrom? w here.dropLast rest
    else if w.hasDirectory (here ++ [step]) then textFrom? w (here ++ [step]) rest
    else if rest.isEmpty then w.files.lookup (here ++ [step])
    else none

/-- The text of the file at a path. -/
def text? (w : Workspace) (path : String) : Option String :=
  (steps? path).bind (w.textFrom? [])

/-- Follows steps from the place of a directory and makes the directories that are not there. The
answer is false if a file or a name that is too long stands in the way. -/
def makeFrom (w : Workspace) (here : Place) : List String → Bool × Workspace
  | [] => (true, w)
  | step :: rest =>
    let place := here ++ [step]
    if step = "" || step = "." then makeFrom w here rest
    else if step = ".." then
      if here.isEmpty then (true, w) else makeFrom w here.dropLast rest
    else if w.hasDirectory place then makeFrom w place rest
    else if (w.files.lookup place).isSome || Text.nameLimit < step.utf8ByteSize then (false, w)
    else makeFrom { w with directories := w.directories ++ [place] } place rest

/-- Makes the directory at a path. -/
def makeDirectory (w : Workspace) (path : String) : Bool × Workspace :=
  if path.contains '\x00' then (false, w)
  else
    match steps? path with
    | none => (true, w)
    | some steps => w.makeFrom [] steps

/-- The operations on a workspace. -/
def fileSystem : FileSystem (StateM Workspace) where
  text? path := return (← get).text? path
  makeDirectory path := modifyGet (·.makeDirectory path)

/-- The places of the directories that a place lies in. -/
def parents (p : Place) : List Place := (List.range (p.length - 1)).map fun i => p.take (i + 1)

/-- The workspace of files by their paths, with the directories that they lie in. -/
def ofFiles (files : List (String × String)) : Workspace :=
  let placed := files.map fun (path, text) => (path.splitOn "/", text)
  ⟨placed, (placed.flatMap fun (place, _) => parents place).eraseDups⟩

/-- The names in the working directory, in order. -/
def entries (w : Workspace) : List String :=
  let names := (w.files.map (·.1) ++ w.directories).filterMap (·.head?)
  sortBy (fun a b => a ≤ b) names.eraseDups

end Workspace

end RegistrySearch.CommandLine
