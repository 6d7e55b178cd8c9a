import RegistrySearch.Text.Split

/-!
# Paths of fields

A path names a value inside a record, its keys separated by dots. A path that ends in the **exact
marker** `-reg` names the same value as the path without the marker, but asks for a string to be
kept whole, as a single term. A `PathSet` has each path once, in the order in which the paths were
put in.
-/

namespace RegistrySearch

/-- A path into a record. -/
structure Path where
  text : String
deriving DecidableEq

namespace Path

/-- The ending of a path that asks for whole values. -/
def exactMarker : List Char := ['-', 'r', 'e', 'g']

/-- The path of a field whose value is wanted whole. -/
def exact (field : String) : Path := ⟨field ++ String.ofList exactMarker⟩

/-- Whether a path asks for a whole value. -/
def isExact (p : Path) : Bool := exactMarker.isSuffixOf p.text.toList

/-- The path without its marker, as characters. -/
def unmarkedChars (p : Path) : List Char :=
  if p.isExact then p.text.toList.take (p.text.toList.length - exactMarker.length)
  else p.text.toList

/-- The path without its marker: the name under which its value is indexed. -/
def unmarked (p : Path) : String := String.ofList p.unmarkedChars

/-- The keys of a path. -/
def segments (p : Path) : List String := (Text.splitAt '.' p.unmarkedChars).map String.ofList

/-- The path that stands for the whole record. -/
def body : Path := ⟨"body"⟩

/-- The name of the field that holds the identifier of a record. -/
def idName : String := "id"

/-- Whether a path stands for the whole record. -/
def isBody (p : Path) : Bool := p = body

/-- Whether a path names the identifier of a record. -/
def isId (p : Path) : Bool := p.unmarked = idName

end Path

/-- Distinct paths in the order in which they were put in. -/
structure PathSet where
  paths : List Path
  nodup : paths.Nodup

namespace PathSet

/-- The set without paths. -/
def empty : PathSet := ⟨[], .nil⟩

/-- Whether a path is in a set. -/
def contains (s : PathSet) (p : Path) : Bool := s.paths.contains p

/-- The set with a path put in last, unless it is in already. -/
def insert (s : PathSet) (p : Path) : PathSet :=
  if h : p ∈ s.paths then s
  else ⟨s.paths ++ [p], by
    rw [List.nodup_append]
    refine ⟨s.nodup, by simp, fun a ha b hb => ?_⟩
    rw [List.mem_singleton] at hb
    subst hb
    exact fun e => h (e ▸ ha)⟩

/-- The set of the paths of a list, in the order of their first occurrences. -/
def ofList (paths : List Path) : PathSet := paths.foldl insert empty

/-- The number of paths in a set. -/
def size (s : PathSet) : Nat := s.paths.length

end PathSet

end RegistrySearch
