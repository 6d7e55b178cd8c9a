import Mathlib.Data.List.Basic
import RegistrySearch.CommandLine.Workspace
import RegistrySearch.Text.Split

/-!
# Scopes lie in the root

Whatever a caller is called, the sanitized name is one proper name in a path: not empty, without a
separator, and none of the names `.` and `..` that stand for the directory itself and for the one
above. So a scope lies in the root directly.
-/

namespace RegistrySearch

namespace Text

/-! ### Names of a path -/

/-- The names that a path goes through. Empty ones and `.` stand for the directory that is reached
already. -/
def pathNames (path : String) : List (List Char) :=
  (splitAt '/' path.toList).filter fun piece => piece ≠ [] ∧ piece ≠ ['.']

/-! ### Sanitized names -/

/-- A sanitized name has the safe characters only, and one at least that is no dot. -/
theorem sanitizeComponent_mem (name : String) :
    (∀ c ∈ (sanitizeComponent name).toList, isComponentChar c) ∧
      ∃ c ∈ (sanitizeComponent name).toList, c ≠ '.' := by
  simp only [sanitizeComponent]
  split
  · have hall : "_".toList.all isComponentChar := by decide
    exact ⟨List.all_eq_true.mp hall, '_', by decide, by decide⟩
  · next hdots =>
    rw [String.toList_ofList]
    constructor
    · intro c hc
      obtain ⟨d, -, rfl⟩ := List.mem_map.mp hc
      by_cases hd : isComponentChar d
      · rwa [if_pos hd]
      · rw [if_neg hd]
        rfl
    · simpa using hdots

/-- A sanitized name is neither empty nor one of the names with a meaning of their own. -/
theorem sanitizeComponent_ne (name : String) :
    sanitizeComponent name ≠ "" ∧ sanitizeComponent name ≠ "." ∧ sanitizeComponent name ≠ ".." := by
  obtain ⟨-, c, hc, hdot⟩ := sanitizeComponent_mem name
  refine ⟨?_, ?_, ?_⟩ <;> intro he <;> rw [he] at hc <;> simp_all

/-- A sanitized name is one name of a path. -/
theorem pathNames_sanitizeComponent (name : String) :
    pathNames (sanitizeComponent name) = [(sanitizeComponent name).toList] := by
  have hslash : '/' ∉ (sanitizeComponent name).toList := fun h =>
    absurd ((sanitizeComponent_mem name).1 '/' h) (by decide)
  obtain ⟨hempty, hdot, -⟩ := sanitizeComponent_ne name
  have hproper : (sanitizeComponent name).toList ≠ [] ∧ (sanitizeComponent name).toList ≠ ['.'] :=
    ⟨fun h => hempty (String.toList_inj.mp h), fun h => hdot (String.toList_inj.mp h)⟩
  rw [pathNames, splitAt_of_notMem hslash, List.filter_singleton, decide_eq_true hproper]
  rfl

end Text

namespace CommandLine

open Text (pathNames splitAt sanitizeComponent)

variable {directory name caller : String}

/-! ### Joined paths -/

/-- The name comes behind all names of the directory. -/
theorem pathNames_joinPath : pathNames (joinPath directory name) =
    pathNames directory ++ pathNames name := by
  have happend : ∀ front back : List Char,
      ((splitAt '/' (front ++ '/' :: back)).filter fun piece => piece ≠ [] ∧ piece ≠ ['.']) =
        (splitAt '/' front).filter (fun piece => piece ≠ [] ∧ piece ≠ ['.']) ++
          (splitAt '/' back).filter fun piece => piece ≠ [] ∧ piece ≠ ['.'] := fun front back => by
    rw [Text.splitAt_append_cons, List.filter_append]
  rw [joinPath]
  split
  · next h =>
    rw [Bool.or_eq_true, String.isEmpty_iff] at h
    obtain rfl | hslash := h
    · rw [String.empty_append]
      rfl
    · -- the separator that is there already leaves an empty piece behind
      obtain ⟨front, hfront⟩ : ['/'] <:+ directory.toList := by
        simpa using String.Slice.endsWith_string_iff.mp hslash
      rw [pathNames, pathNames, pathNames, String.toList_append, ← hfront, List.append_assoc,
        List.singleton_append, happend, happend]
      simp [splitAt]
  · rw [pathNames, String.toList_append, String.toList_append, List.append_assoc]
    exact happend directory.toList name.toList

/-- A path leads to a directory directly in another one: it goes through the same names and then
through one more, which leads neither nowhere nor back. Both paths start at the same place. -/
structure IsChild (directory path : String) : Prop where
  start : path.toList.head? = some '/' ↔ directory.toList.head? = some '/'
  names : ∃ name, pathNames path = pathNames directory ++ [name] ∧ name ≠ ['.', '.']

/-- **Scopes.** The scope of a caller is a child of the root. -/
theorem isChild_joinPath_sanitizeComponent :
    IsChild directory (joinPath directory (sanitizeComponent caller)) where
  start := by
    rw [joinPath]
    by_cases hempty : directory = ""
    · subst hempty
      have hslash : (sanitizeComponent caller).toList.head? ≠ some '/' := fun h =>
        absurd ((Text.sanitizeComponent_mem caller).1 '/' (List.mem_of_head? h)) (by decide)
      simpa using hslash
    · have hne : directory.toList ≠ [] := fun h => hempty (String.toList_inj.mp h)
      split <;> simp only [String.toList_append, List.head?_append_of_ne_nil _ hne,
        List.append_assoc]
  names := by
    refine ⟨(sanitizeComponent caller).toList, ?_, fun h => ?_⟩
    · rw [pathNames_joinPath, Text.pathNames_sanitizeComponent]
    · exact (Text.sanitizeComponent_ne caller).2.2 (String.toList_inj.mp h)

end CommandLine

end RegistrySearch
