import Mathlib.Data.List.Basic
import RegistrySearch.Text.Rest

/-!
# Boundaries of characters

A text is cut at a byte only where a character begins or where the text ends (`splitBytes?`). The
places in front of the ends of a text are such bytes: `offset s rest` is the place of the end `rest`
of `s`, and counted in bytes the places tell the ends apart.
-/

namespace RegistrySearch.Text

/-- The parts of a text in front of a byte and from it on, if a character begins at the byte or the
text ends there. -/
def splitBytes? (s : String) (n : Nat) : Option (String × String) :=
  if h : (⟨n⟩ : String.Pos.Raw).IsValid s then
    some ((s.sliceTo (s.pos ⟨n⟩ h)).copy, (s.sliceFrom (s.pos ⟨n⟩ h)).copy)
  else none

theorem splitBytes?_eq_some_iff {s t u : String} {n : Nat} :
    splitBytes? s n = some (t, u) ↔ s = t ++ u ∧ t.utf8ByteSize = n := by
  rw [splitBytes?]
  constructor
  · intro h
    split at h
    · next hvalid =>
      cases h
      have hsplits := (s.pos ⟨n⟩ hvalid).splits
      exact ⟨hsplits.eq_append, congrArg String.Pos.Raw.byteIdx hsplits.offset_eq_rawEndPos.symm⟩
    · cases h
  · rintro ⟨rfl, rfl⟩
    have hvalid : (⟨t.utf8ByteSize⟩ : String.Pos.Raw).IsValid (t ++ u) :=
      String.Pos.Raw.isValid_iff_exists_append.mpr ⟨t, u, rfl, rfl⟩
    have hsplits : ((t ++ u).pos ⟨t.utf8ByteSize⟩ hvalid).Splits t u := ⟨rfl, rfl⟩
    rw [dif_pos hvalid, String.copy_sliceTo_eq_iff_exists_splits.mpr ⟨u, hsplits⟩,
      String.copy_sliceFrom_eq_iff_exists_splits.mpr ⟨t, hsplits⟩]

example : splitBytes? "é" 1 = none := by decide

/-! ### Lengths -/

theorem utf8Length_cons (c : Char) (s : List Char) :
    utf8Length (c :: s) = c.utf8Size + utf8Length s := rfl

theorem utf8Length_toList (s : String) : utf8Length s.toList = s.utf8ByteSize := by
  have hlen (t : List Char) : utf8Length t = (String.ofList t).utf8ByteSize := by
    induction t with
    | nil => rfl
    | cons c t ih =>
      rw [utf8Length_cons, ih, String.ofList_cons, String.utf8ByteSize_append,
        String.utf8ByteSize_singleton]
  rw [hlen, String.ofList_toList]

/-! ### Offsets -/

/-- The number of bytes of a text in front of its end `rest`. -/
def offset (s rest : List Char) : Nat := utf8Length s - utf8Length rest

section offset

variable {s t u : List Char} {c : Char}

theorem offset_append (s t : List Char) : offset (s ++ t) t = utf8Length s := by
  rw [offset, utf8Length_append, Nat.add_sub_cancel]

theorem offset_self (s : List Char) : offset s s = 0 := Nat.sub_self _

/-- An end of an end is behind the characters in front of it. -/
theorem offset_of_append (h : t ++ u <:+ s) : offset s u = offset s (t ++ u) + utf8Length t := by
  obtain ⟨v, rfl⟩ := h
  rw [offset_append, ← List.append_assoc, offset_append, utf8Length_append]

theorem offset_cons (h : c :: t <:+ s) : offset s t = offset s (c :: t) + c.utf8Size :=
  offset_of_append (t := [c]) h

/-- Ends of one offset are the same. -/
theorem offset_inj (ht : t <:+ s) (hu : u <:+ s) (h : offset s t = offset s u) : t = u := by
  have hlt {t u : List Char} (hu : u <:+ s) (htu : t <:+ u) (hne : t ≠ u) :
      offset s u < offset s t := by
    obtain ⟨v, rfl⟩ := htu
    cases v with
    | nil => exact absurd rfl hne
    | cons c v =>
      rw [offset_of_append hu, utf8Length_cons]
      have := c.utf8Size_pos
      omega
  by_contra hne
  obtain htu | hut := List.suffix_or_suffix_of_suffix ht hu
  · exact absurd h (Nat.ne_of_gt (hlt hu htu hne))
  · exact absurd h (Nat.ne_of_lt (hlt ht hut (Ne.symm hne)))

/-- Only the empty end is at the end. -/
theorem utf8Length_le_offset_iff (h : t <:+ s) : utf8Length s ≤ offset s t ↔ t = [] := by
  constructor
  · intro hle
    refine offset_inj h List.nil_suffix ?_
    exact Nat.le_antisymm (Nat.sub_le _ _) hle
  · rintro rfl
    exact Nat.le_refl _

end offset

/-- In front of an end of a text there is a boundary. -/
theorem splitBytes?_offset {s : String} {t u : List Char} (h : s.toList = t ++ u) :
    splitBytes? s (offset s.toList u) = some (String.ofList t, String.ofList u) := by
  rw [splitBytes?_eq_some_iff]
  constructor
  · rw [← String.ofList_append, ← h, String.ofList_toList]
  · rw [h, offset_append, ← utf8Length_toList, String.toList_ofList]

theorem isValid_offset {s : String} {rest : List Char} (h : rest <:+ s.toList) :
    (⟨offset s.toList rest⟩ : String.Pos.Raw).IsValid s := by
  obtain ⟨t, ht⟩ := h
  refine String.Pos.Raw.isValid_iff_exists_append.mpr ⟨String.ofList t, String.ofList rest, ?_, ?_⟩
  · rw [← String.ofList_append, ht, String.ofList_toList]
  · rw [← ht, offset_append, String.rawEndPos, ← utf8Length_toList, String.toList_ofList]

end RegistrySearch.Text
