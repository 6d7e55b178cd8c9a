/-!
# Splitting a text at a separator

The pieces between the occurrences of one character. They are one more than the occurrences, and
joined by the separator they give the text back.
-/

namespace RegistrySearch.Text

/-- The pieces of a text between the occurrences of `separator`. -/
def splitAt (separator : Char) : List Char → List (List Char)
  | [] => [[]]
  | c :: rest =>
    if c = separator then [] :: splitAt separator rest
    else
      match splitAt separator rest with
      | piece :: pieces => (c :: piece) :: pieces
      | [] => [[c]]

theorem splitAt_ne_nil (separator : Char) (s : List Char) : splitAt separator s ≠ [] := by
  cases s with
  | nil => simp [splitAt]
  | cons c rest => simp only [splitAt]; split <;> (try split) <;> simp

/-- A text without the separator is one piece. -/
theorem splitAt_of_notMem {separator : Char} {s : List Char} (h : separator ∉ s) :
    splitAt separator s = [s] := by
  induction s with
  | nil => rfl
  | cons c rest ih =>
    rw [List.mem_cons, not_or] at h
    rw [splitAt, if_neg (Ne.symm h.1), ih h.2]

/-- A separator cuts a text in two. -/
theorem splitAt_append_cons {separator : Char} {s t : List Char} :
    splitAt separator (s ++ separator :: t) = splitAt separator s ++ splitAt separator t := by
  induction s with
  | nil => simp [splitAt]
  | cons c s ih =>
    rw [List.cons_append, splitAt, splitAt, ih]
    obtain ⟨piece, pieces, hp⟩ := List.exists_cons_of_ne_nil (splitAt_ne_nil separator s)
    by_cases hc : c = separator
    · simp [hc]
    · simp [hc, hp]

/-- Pieces with a separator behind each are cut into these pieces and an empty one. -/
theorem splitAt_flatMap {separator : Char} {pieces : List (List Char)}
    (h : ∀ piece ∈ pieces, separator ∉ piece) :
    splitAt separator (pieces.flatMap fun piece => piece ++ [separator]) = pieces ++ [[]] := by
  induction pieces with
  | nil => rfl
  | cons piece pieces ih =>
    rw [List.flatMap_cons, List.append_assoc, List.singleton_append, splitAt_append_cons,
      splitAt_of_notMem (h piece List.mem_cons_self),
      ih fun p hp => h p (List.mem_cons_of_mem piece hp)]
    rfl

/-- The pieces joined by the separator give the text back. -/
theorem intercalate_splitAt (separator : Char) (s : List Char) :
    [separator].intercalate (splitAt separator s) = s := by
  induction s with
  | nil => rfl
  | cons c rest ih =>
    simp only [splitAt]
    cases hp : splitAt separator rest with
    | nil => exact absurd hp (splitAt_ne_nil separator rest)
    | cons piece pieces =>
      rw [hp] at ih
      split
      · next hc => subst hc; rw [← ih]; cases pieces <;> simp [List.intercalate, List.intersperse]
      · rw [← ih]; cases pieces <;> simp [List.intercalate, List.intersperse]

end RegistrySearch.Text
