import RegistrySearch.Proofs.Query.Delimited
import RegistrySearch.Proofs.Query.Derivation

/-!
# What is left of a text is its end

Readers take characters off the front of a text and leave the others as they are, behind an
operator, a word or a range as behind every part of a query.
-/

namespace RegistrySearch.Query

open Unicode (isBlank)

variable {field : String} {s t rest : List Char}

theorem skipBlanks_suffix (s : List Char) : skipBlanks s <:+ s := List.dropWhile_suffix isBlank

/-! ### Operators -/

theorem dropWord?_suffix {word : List Char} (h : dropWord? word s = some rest) : rest <:+ s :=
  ⟨word, (dropWord?_eq_some_iff.mp h).symm⟩

theorem eq_append_of_dropKeyword? {word : List Char} (h : dropKeyword? word s = some rest) :
    s = word ++ rest := by
  rw [dropKeyword?] at h
  split at h
  · next hword =>
    cases h
    exact dropWord?_eq_some_iff.mp hword
  · next hword =>
    split at h
    · cases h
      exact dropWord?_eq_some_iff.mp hword
    · cases h
  · cases h

theorem dropKeyword?_suffix {word : List Char} (h : dropKeyword? word s = some rest) :
    rest <:+ s :=
  ⟨word, (eq_append_of_dropKeyword? h).symm⟩

theorem dropOperator?_suffix {word symbol : List Char}
    (h : dropOperator? word symbol s = some rest) : rest <:+ s := by
  rw [dropOperator?] at h
  split at h
  · next hword =>
    cases h
    exact dropKeyword?_suffix hword
  · exact dropWord?_suffix h

theorem dropAnd?_suffix (h : dropAnd? s = some rest) : rest <:+ s := dropOperator?_suffix h

theorem alternative_suffix (isFirst : Bool) (s : List Char) : alternative isFirst s <:+ s := by
  cases isFirst with
  | true => exact List.suffix_rfl
  | false =>
    rw [alternative]
    cases h : dropOr? s with
    | none => exact List.suffix_rfl
    | some rest => exact dropOperator?_suffix h

theorem dropSign?_suffix {occur : Occur} (h : dropSign? s = some (occur, rest)) : rest <:+ s := by
  rw [dropSign?.eq_def] at h
  split at h
  · next hnot =>
    cases h
    exact dropOperator?_suffix hnot
  · split at h
    · split at h <;> cases h
      exact List.suffix_cons _ _
    · split at h <;> cases h
      exact List.suffix_cons _ _
    · cases h

/-! ### Words and ranges -/

theorem readTyped_suffix {w : Word} (h : readTyped s = .ok (w, rest)) : rest <:+ s := by
  fun_induction readTyped s generalizing w rest with
  | case1 =>
    cases h
    exact List.suffix_rfl
  | case2 => cases h
  | case3 c s ih =>
    obtain ⟨⟨w, r⟩, hread, h⟩ := bind_eq_ok_iff.mp h
    cases h
    exact ((ih hread).trans (List.suffix_cons c s)).trans (List.suffix_cons _ _)
  | case4 c s =>
    cases h
    exact List.suffix_rfl
  | case5 c s hlone hpair hends ih =>
    obtain ⟨⟨w, r⟩, hread, h⟩ := bind_eq_ok_iff.mp h
    cases h
    exact (ih hread).trans (List.suffix_cons c s)

theorem readWord_suffix {w : Word} (h : readWord s = .ok (w, rest)) : rest <:+ s := by
  obtain ⟨⟨w', r⟩, hread, h⟩ := bind_eq_ok_iff.mp h
  dsimp only at h
  split at h
  · cases h
  · cases h
    exact readTyped_suffix hread

theorem readBound_suffix {bound : Option String} (h : readBound s = .ok (bound, rest)) :
    rest <:+ s := by
  rw [readBound.eq_def] at h
  split at h
  · split at h
    · next hquoted =>
      cases h
      exact (readsUpTo_quoted.suffix hquoted).trans (List.suffix_cons _ _)
    · cases h
  · dsimp only at h
    split at h <;> cases h <;> exact List.dropWhile_suffix _

theorem readRange_suffix {isInclusive : Bool} {body : List Char} {clause : Clause}
    (h : readRange field s isInclusive body = .ok (clause, rest)) : rest <:+ body := by
  obtain ⟨lower, upper, closes, t, u, v, hlower, hto, hupper, hclose, -⟩ :=
    readRange_eq_ok_iff.mp h
  have ht : t <:+ body := (readBound_suffix hlower).trans (skipBlanks_suffix body)
  have hu : u <:+ t := (dropKeyword?_suffix hto).trans (skipBlanks_suffix t)
  have hv : v <:+ u := (readBound_suffix hupper).trans (skipBlanks_suffix u)
  have hrest : rest <:+ v := (List.suffix_cons _ rest).trans (hclose ▸ skipBlanks_suffix v)
  exact hrest.trans (hv.trans (hu.trans ht))

/-! ### Parts of a query -/

/-- What a part leaves is the end of its text. -/
theorem Reads.suffix {p : Part} {x : p.Result} (h : Reads p field s x rest) : rest <:+ s := by
  induction h with
  | finished h => exact List.nil_suffix
  | closed h => exact h ▸ skipBlanks_suffix _
  | alternative h hc hitem hitems ihitem ihitems =>
    exact ihitems.trans (ihitem.trans ((alternative_suffix _ _).trans (h ▸ skipBlanks_suffix _)))
  | conjunction hfirst hothers ihfirst ihothers => exact ihothers.trans ihfirst
  | last h => exact List.suffix_rfl
  | operand h hoperand hothers ihoperand ihothers =>
    exact ihothers.trans (ihoperand.trans ((dropAnd?_suffix h).trans (skipBlanks_suffix _)))
  | sign h hitem ih => exact ih.trans ((dropSign?_suffix h).trans (skipBlanks_suffix _))
  | unsigned h hclause ih => exact ih.trans (skipBlanks_suffix _)
  | delimited h ih => exact ih
  | qualified hs hstray hw h ih =>
    exact ih.trans ((List.suffix_cons _ _).trans (readWord_suffix hw))
  | word hs hstray hw hcolon => exact readWord_suffix hw
  | delimitedValue h ih => exact ih.trans (skipBlanks_suffix _)
  | wordValue hs hw => exact (readWord_suffix hw).trans (skipBlanks_suffix _)
  | @group field s middle rest items h hclose ih =>
    have hrest : rest <:+ middle := (List.suffix_cons _ rest).trans (hclose ▸ skipBlanks_suffix middle)
    exact (hrest.trans ih).trans (List.suffix_cons _ _)
  | phrase h => exact (readsUpTo_quoted.suffix h).trans (List.suffix_cons _ _)
  | regexp h => exact (readsUpTo_regexp.suffix h).trans (List.suffix_cons _ _)
  | range h => exact (readRange_suffix h).trans (List.suffix_cons _ _)

end RegistrySearch.Query
