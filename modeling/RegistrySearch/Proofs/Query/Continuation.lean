import RegistrySearch.Proofs.Query.Delimited
import RegistrySearch.Proofs.Query.Suffixes

/-!
# Reading on in a longer text

What has been read off the front of a text is read off every longer one, if a character was left
that showed where it ends. What reaches to the end of the text may go on in what follows: a bare
word takes all that can belong to it, and an operator that has begun needs what is missing of it
(`Straddles`). A text in which no operator goes on `Interrupts` them.

`Reads.append` says this of all parts of a query, by induction on the derivation: what leaves
something, or ends with a delimiter, is read as before. `Part.EndsAt` are the texts in front of
which a part can end.
-/

namespace RegistrySearch.Query

open Unicode (isBlank)
open Text (normalize)

variable {field : String} {s t rest : List Char}

/-! ### Blanks and operators -/

theorem skipBlanks_append (h : skipBlanks s ≠ []) (t : List Char) :
    skipBlanks (s ++ t) = skipBlanks s ++ t := by
  rw [skipBlanks] at h
  rw [skipBlanks, List.dropWhile_append, if_neg (by rwa [List.isEmpty_iff]), skipBlanks]

theorem skipBlanks_append_ne_nil (h : skipBlanks s ≠ []) (t : List Char) :
    skipBlanks (s ++ t) ≠ [] := by
  rw [skipBlanks_append h]
  exact List.append_ne_nil_of_left_ne_nil h t

theorem skipBlanks_append_of_eq_nil (h : skipBlanks s = []) (t : List Char) :
    skipBlanks (s ++ t) = skipBlanks t := by
  rw [skipBlanks] at h
  rw [skipBlanks, List.dropWhile_append, h]
  rfl

theorem ne_nil_of_skipBlanks_ne_nil (h : skipBlanks s ≠ []) : s ≠ [] := by
  rintro rfl
  exact h rfl

/-- A word that has begun in front of a text can go on in it. -/
def Straddles (word t : List Char) : Prop := ∃ n < word.length, 0 < n ∧ word.drop n <+: t

instance (word t : List Char) : Decidable (Straddles word t) :=
  inferInstanceAs (Decidable (∃ n < word.length, 0 < n ∧ word.drop n <+: t))

theorem dropWord?_append_eq_none {word : List Char} (hs : s ≠ []) (h : dropWord? word s = none)
    (ht : ¬Straddles word t) : dropWord? word (s ++ t) = none := by
  cases hdrop : dropWord? word (s ++ t) with
  | none => rfl
  | some r =>
    exfalso
    -- the word ends behind `s`, and then goes on in `t`, or it ends within `s`
    obtain ⟨a, rfl, rfl⟩ | ⟨a, rfl, rfl⟩ :=
      List.append_eq_append_iff.mp (dropWord?_eq_some_iff.mp hdrop)
    · cases a with
      | nil =>
        rw [List.append_nil, dropWord?_eq_some_iff.mpr (List.append_nil s).symm] at h
        cases h
      | cons c a =>
        refine ht ⟨s.length, ?_, List.length_pos_iff.mpr hs, ?_⟩
        · rw [List.length_append, List.length_cons]
          omega
        · rw [List.drop_left]
          exact List.prefix_append _ _
    · rw [dropWord?_eq_some_iff.mpr rfl] at h
      cases h

theorem dropWord?_append {word r : List Char} (h : dropWord? word s = some r) (t : List Char) :
    dropWord? word (s ++ t) = some (r ++ t) := by
  rw [dropWord?_eq_some_iff] at h ⊢
  rw [h, List.append_assoc]

theorem dropKeyword?_append_eq_none {word : List Char} (hs : s ≠ [])
    (h : dropKeyword? word s = none) (ht : ¬Straddles word t) :
    dropKeyword? word (s ++ t) = none := by
  rw [dropKeyword?] at h ⊢
  cases hword : dropWord? word s with
  | none => rw [dropWord?_append_eq_none hs hword ht]
  | some r =>
    rw [hword] at h
    rw [dropWord?_append hword]
    cases r with
    | nil => cases h
    | cons c r =>
      dsimp only [List.cons_append] at h ⊢
      split at h
      · cases h
      · next hc => rw [if_neg hc]

theorem dropKeyword?_append {word r : List Char} (h : dropKeyword? word s = some r) (hr : r ≠ [])
    (t : List Char) : dropKeyword? word (s ++ t) = some (r ++ t) := by
  rw [dropKeyword?] at h ⊢
  cases hword : dropWord? word s with
  | none =>
    rw [hword] at h
    cases h
  | some u =>
    rw [hword] at h
    rw [dropWord?_append hword]
    cases u with
    | nil =>
      cases h
      exact absurd rfl hr
    | cons c u =>
      dsimp only [List.cons_append] at h ⊢
      split at h
      · next hc =>
        cases h
        rw [if_pos hc, List.cons_append]
      · cases h

/-- An operator is read off a longer text as off the text, unless it is all of the text. -/
theorem dropOperator?_append {word symbol : List Char} (hs : s ≠ [])
    (h : dropOperator? word symbol s ≠ some [])
    (hword : ¬Straddles word t) (hsymbol : ¬Straddles symbol t) :
    dropOperator? word symbol (s ++ t) = (dropOperator? word symbol s).map (· ++ t) := by
  rw [dropOperator?] at h
  rw [dropOperator?, dropOperator?]
  cases hkeyword : dropKeyword? word s with
  | some r =>
    rw [hkeyword] at h
    rw [dropKeyword?_append hkeyword (fun hr => h (congrArg some hr))]
    rfl
  | none =>
    rw [dropKeyword?_append_eq_none hs hkeyword hword]
    dsimp only
    cases hdrop : dropWord? symbol s with
    | some r => rw [dropWord?_append hdrop, Option.map_some]
    | none => rw [dropWord?_append_eq_none hs hdrop hsymbol, Option.map_none]

/-- The operators of more than one character. -/
def operators : List (List Char) :=
  [['A', 'N', 'D'], ['&', '&'], ['O', 'R'], ['|', '|'], ['N', 'O', 'T']]

/-- No operator that has begun in front of a text goes on in it. -/
def Interrupts (t : List Char) : Prop := ∀ word ∈ operators, ¬Straddles word t

instance (t : List Char) : Decidable (Interrupts t) :=
  inferInstanceAs (Decidable (∀ word ∈ operators, ¬Straddles word t))

theorem interrupts_of_head? (h : ∀ c ∈ t.head?, ∀ word ∈ operators, c ∉ word) : Interrupts t := by
  rintro word hword ⟨n, hlt, -, hprefix⟩
  have hne : word.drop n ≠ [] := fun he => absurd (List.drop_eq_nil_iff.mp he) (Nat.not_le.mpr hlt)
  obtain ⟨c, u, hdrop⟩ := List.exists_cons_of_ne_nil hne
  obtain ⟨v, rfl⟩ := hprefix
  rw [hdrop] at h
  exact h c rfl word hword (List.mem_of_mem_drop (hdrop ▸ List.mem_cons_self))

theorem dropAnd?_append (hs : s ≠ []) (h : dropAnd? s ≠ some []) (ht : Interrupts t) :
    dropAnd? (s ++ t) = (dropAnd? s).map (· ++ t) :=
  dropOperator?_append hs h (ht _ (by decide)) (ht _ (by decide))

theorem dropOr?_append (hs : s ≠ []) (h : dropOr? s ≠ some []) (ht : Interrupts t) :
    dropOr? (s ++ t) = (dropOr? s).map (· ++ t) :=
  dropOperator?_append hs h (ht _ (by decide)) (ht _ (by decide))

theorem alternative_append {isFirst : Bool} (hs : s ≠ []) (h : alternative isFirst s ≠ [])
    (ht : Interrupts t) : alternative isFirst (s ++ t) = alternative isFirst s ++ t := by
  cases isFirst with
  | true => rfl
  | false =>
    have hor : dropOr? s ≠ some [] := fun hor => h (by rw [alternative, hor]; rfl)
    rw [alternative, alternative, dropOr?_append hs hor ht]
    cases dropOr? s <;> rfl

theorem dropOperator?_eq_none_iff {word symbol : List Char} :
    dropOperator? word symbol s = none ↔ dropKeyword? word s = none ∧ dropWord? symbol s = none := by
  rw [dropOperator?]
  cases dropKeyword? word s <;> simp

/-- Operands begin where no operator stands that has to stand between them. -/
theorem strayOperator?_eq_none_iff :
    strayOperator? s = none ↔ dropAnd? s = none ∧ dropOr? s = none := by
  rw [dropAnd?, dropOr?, dropOperator?_eq_none_iff, dropOperator?_eq_none_iff, strayOperator?]
  cases dropKeyword? ['A', 'N', 'D'] s <;> cases dropWord? ['&', '&'] s <;>
    cases dropKeyword? ['O', 'R'] s <;> cases dropWord? ['|', '|'] s <;> simp

theorem dropAnd?_append_some {u : List Char} (h : dropAnd? s = some u) (hu : u ≠ [])
    (ht : Interrupts t) : dropAnd? (s ++ t) = some (u ++ t) := by
  have hs : s ≠ [] := List.ne_nil_of_length_pos (Nat.zero_lt_of_lt (length_lt_of_dropAnd? h))
  rw [dropAnd?_append hs (fun he => ?_) ht, h, Option.map_some]
  rw [h] at he
  exact hu (Option.some.inj he)

theorem dropAnd?_append_eq_none (hs : s ≠ []) (h : dropAnd? s = none) (ht : Interrupts t) :
    dropAnd? (s ++ t) = none := by
  rw [dropAnd?_append hs (by rw [h]; exact nofun) ht, h, Option.map_none]

theorem strayOperator?_append (hs : s ≠ []) (h : strayOperator? s = none) (ht : Interrupts t) :
    strayOperator? (s ++ t) = none := by
  rw [strayOperator?_eq_none_iff] at h ⊢
  refine ⟨dropAnd?_append_eq_none hs h.1 ht, ?_⟩
  rw [dropOr?_append hs (by rw [h.2]; exact nofun) ht, h.2, Option.map_none]

/-- The sign that a character is right in front of something. -/
def attached? (c : Char) : Option Occur :=
  if c = '+' then some .must else if c = '-' then some .mustNot else none

theorem isSome_attached?_iff {c : Char} : (attached? c).isSome ↔ c = '+' ∨ c = '-' := by
  rw [attached?]
  split
  · next hc => simp [hc]
  · next hc => split <;> simp_all

theorem dropSign?_eq (s : List Char) :
    dropSign? s = match dropOperator? ['N', 'O', 'T'] ['!'] s with
      | some rest => some (.mustNot, rest)
      | none =>
        match s with
        | c :: d :: rest => if isBlank d then none else (attached? c).map (·, d :: rest)
        | _ => none := by
  rw [dropSign?.eq_def]
  cases dropOperator? ['N', 'O', 'T'] ['!'] s with
  | some rest => rfl
  | none =>
    dsimp only
    split
    · rfl
    · rfl
    · next hplus hminus =>
      split
      · next c d rest =>
        have hc : attached? c = none := by
          rw [attached?, if_neg fun hc => hplus d rest (by rw [hc]),
            if_neg fun hc => hminus d rest (by rw [hc])]
        rw [hc, Option.map_none, ite_self]
      · rfl

theorem not_straddles_bang : ¬Straddles ['!'] t := by
  rintro ⟨n, hlt, hpos, -⟩
  exact absurd (Nat.lt_one_iff.mp hlt) (Nat.ne_of_gt hpos)

/-- A sign is read off a longer text as off the text, unless it is all of the text, or is none only
for want of something behind it. -/
theorem dropSign?_append (hs : s ≠ []) (hlone : ∀ c, s = [c] → attached? c = none)
    (h : ∀ occur, dropSign? s ≠ some (occur, [])) (ht : Interrupts t) :
    dropSign? (s ++ t) = (dropSign? s).map fun (occur, rest) => (occur, rest ++ t) := by
  have hnot : dropOperator? ['N', 'O', 'T'] ['!'] s ≠ some [] := fun hnot =>
    h .mustNot (by rw [dropSign?_eq, hnot])
  have hdrop : dropOperator? ['N', 'O', 'T'] ['!'] (s ++ t) = _ :=
    dropOperator?_append hs hnot (ht _ (by decide)) not_straddles_bang
  rw [dropSign?_eq, dropSign?_eq s, hdrop]
  cases dropOperator? ['N', 'O', 'T'] ['!'] s with
  | some r => rfl
  | none =>
    match s with
    | [] => exact absurd rfl hs
    | [c] => cases t <;> simp [hlone c rfl]
    | c :: d :: s =>
      dsimp only [List.cons_append, Option.map_none]
      cases isBlank d <;> cases attached? c <;> rfl

theorem dropSign?_append_some {occur : Occur} {u : List Char} (h : dropSign? s = some (occur, u))
    (hu : u ≠ []) (ht : Interrupts t) : dropSign? (s ++ t) = some (occur, u ++ t) := by
  have hlt := length_lt_of_dropSign? h
  have hs : s ≠ [] := List.ne_nil_of_length_pos (Nat.zero_lt_of_lt hlt)
  have hlone : ∀ c, s = [c] → attached? c = none := by
    rintro c rfl
    exact absurd (List.eq_nil_of_length_eq_zero (Nat.lt_one_iff.mp hlt)) hu
  rw [dropSign?_append hs hlone (fun o he => ?_) ht, h, Option.map_some]
  rw [h] at he
  cases he
  exact hu rfl

theorem dropSign?_append_eq_none (hs : s ≠ []) (hlone : ∀ c, s = [c] → attached? c = none)
    (h : dropSign? s = none) (ht : Interrupts t) : dropSign? (s ++ t) = none := by
  rw [dropSign?_append hs hlone (by rw [h]; exact fun o => nofun) ht, h, Option.map_none]

/-! ### Words -/

theorem readTyped_append {w : Word} (h : readTyped s = .ok (w, rest)) (hrest : rest ≠ [])
    (t : List Char) : readTyped (s ++ t) = .ok (w, rest ++ t) := by
  fun_induction readTyped s generalizing w rest with
  | case1 =>
    cases h
    exact absurd rfl hrest
  | case2 => cases h
  | case3 c s ih =>
    obtain ⟨⟨w, r⟩, hread, h⟩ := bind_eq_ok_iff.mp h
    cases h
    rw [List.cons_append, List.cons_append, readTyped, ih hread hrest]
    rfl
  | case4 c s hlone hpair hends =>
    cases h
    rw [List.cons_append, readTyped_cons (ne_escape hlone hpair), if_pos hends]
  | case5 c s hlone hpair hends ih =>
    obtain ⟨⟨w, r⟩, hread, h⟩ := bind_eq_ok_iff.mp h
    cases h
    rw [List.cons_append, readTyped_cons (ne_escape hlone hpair), if_neg hends, ih hread hrest]
    rfl

/-- A word that reaches to the end of a text goes on in what follows. -/
theorem readTyped_append_of_nil {w w' : Word} (h : readTyped s = .ok (w, []))
    (ht : readTyped t = .ok (w', rest)) : readTyped (s ++ t) = .ok (w ++ w', rest) := by
  fun_induction readTyped s generalizing w with
  | case1 =>
    cases h
    exact ht
  | case2 => cases h
  | case3 c s ih =>
    obtain ⟨⟨w, r⟩, hread, h⟩ := bind_eq_ok_iff.mp h
    cases h
    rw [List.cons_append, List.cons_append, readTyped, ih hread]
    rfl
  | case4 c s hlone hpair hends => cases h
  | case5 c s hlone hpair hends ih =>
    obtain ⟨⟨w, r⟩, hread, h⟩ := bind_eq_ok_iff.mp h
    cases h
    rw [List.cons_append, readTyped_cons (ne_escape hlone hpair), if_neg hends, ih hread]
    rfl

theorem readWord_eq_ok_iff {w : Word} :
    readWord s = .ok (w, rest) ↔ readTyped s = .ok (w, rest) ∧ w ≠ [] := by
  rw [readWord, bind_eq_ok_iff]
  constructor
  · rintro ⟨⟨w', r⟩, hread, h⟩
    cases w' with
    | nil => cases h
    | cons c w' =>
      cases h
      exact ⟨hread, List.cons_ne_nil c w'⟩
  · rintro ⟨hread, hw⟩
    refine ⟨(w, rest), hread, ?_⟩
    dsimp only
    rw [if_neg (by rwa [List.isEmpty_iff])]

theorem readWord_append {w : Word} (h : readWord s = .ok (w, rest)) (hrest : rest ≠ [])
    (t : List Char) : readWord (s ++ t) = .ok (w, rest ++ t) := by
  rw [readWord_eq_ok_iff] at h ⊢
  exact ⟨readTyped_append h.1 hrest t, h.2⟩

theorem readWord_append_of_nil {w w' : Word} (h : readWord s = .ok (w, []))
    (ht : readTyped t = .ok (w', rest)) : readWord (s ++ t) = .ok (w ++ w', rest) := by
  rw [readWord_eq_ok_iff] at h ⊢
  exact ⟨readTyped_append_of_nil h.1 ht, List.append_ne_nil_of_left_ne_nil h.2 w'⟩

theorem BeginsWord.append (h : BeginsWord s) (hs : s ≠ []) (t : List Char) : BeginsWord (s ++ t) := by
  obtain ⟨c, s, rfl⟩ := List.exists_cons_of_ne_nil hs
  exact h

/-! ### Ranges -/

theorem takeWhile_append_of_dropWhile {p : Char → Bool} (h : s.dropWhile p ≠ []) (t : List Char) :
    (s ++ t).takeWhile p = s.takeWhile p := by
  rw [List.takeWhile_append, if_neg]
  intro hlength
  have hsum := congrArg List.length (List.takeWhile_append_dropWhile (p := p) (l := s))
  rw [List.length_append, hlength] at hsum
  exact h (List.eq_nil_of_length_eq_zero (by omega))

theorem readBound_append {bound : Option String} (h : readBound s = .ok (bound, rest))
    (hrest : rest ≠ []) (t : List Char) : readBound (s ++ t) = .ok (bound, rest ++ t) := by
  match s with
  | [] => cases h
  | c :: s =>
    by_cases hc : c = '"'
    · subst hc
      rw [readBound] at h
      rw [List.cons_append, readBound]
      split at h
      · next text r hquoted =>
        cases h
        rw [readsUpTo_quoted.append_right hquoted]
      · cases h
    · have hhead : ∀ u, (c :: u).head? ≠ some '"' := fun u he => hc (Option.some.inj he)
      rw [readBound_of_ne (hhead s)] at h
      rw [List.cons_append, readBound_of_ne (hhead (s ++ t)), ← List.cons_append]
      have hdrop : rest = (c :: s).dropWhile fun c => !endsBound c := by
        split at h <;> cases h <;> rfl
      have hne : ((c :: s).dropWhile fun c => !endsBound c) ≠ [] := hdrop ▸ hrest
      rw [takeWhile_append_of_dropWhile hne, List.dropWhile_append,
        if_neg (by rwa [List.isEmpty_iff])]
      split at h <;> cases h <;> rfl

/-- A bound is not empty. -/
theorem ne_nil_of_readBound {bound : Option String} (h : readBound s = .ok (bound, rest)) :
    s ≠ [] := by
  rintro rfl
  cases h

theorem readRange_append {isInclusive : Bool} {body : List Char} {clause : Clause}
    (h : readRange field s isInclusive body = .ok (clause, rest)) (t : List Char) :
    readRange field s isInclusive (body ++ t) = .ok (clause, rest ++ t) := by
  rw [readRange_eq_ok_iff] at h ⊢
  obtain ⟨lower, upper, closes, u, v, w, hlower, hto, hupper, hclose, hclause⟩ := h
  have hbody := ne_nil_of_readBound hlower
  have hv := ne_nil_of_readBound hupper
  have hu : skipBlanks u ≠ [] := by
    intro hu
    rw [hu] at hto
    cases hto
  have hw : skipBlanks w ≠ [] := hclose ▸ List.cons_ne_nil _ _
  refine ⟨lower, upper, closes, u ++ t, v ++ t, w ++ t, ?_, ?_, ?_, ?_, hclause⟩
  · rw [skipBlanks_append hbody, readBound_append hlower (ne_nil_of_skipBlanks_ne_nil hu)]
  · rw [skipBlanks_append hu, dropKeyword?_append hto (ne_nil_of_skipBlanks_ne_nil hv)]
  · rw [skipBlanks_append hv, readBound_append hupper (ne_nil_of_skipBlanks_ne_nil hw)]
  · rw [skipBlanks_append hw, hclose, List.cons_append]

/-! ### What leaves something -/

/-- A part that is not empty. -/
def Part.IsNonempty : Part → Prop
  | alternatives _ | operands => False
  | _ => True

section derivations

variable {p : Part} {x : p.Result}

theorem Reads.length_lt (h : Reads p field s x rest) (hp : p.IsNonempty) :
    rest.length < s.length := by
  have hread := h.read_eq
  cases p with
  | alternatives isFirst => exact hp.elim
  | operands => exact hp.elim
  | conjunction => exact of_outcome hread
  | signed => exact of_outcome hread
  | primary => exact of_outcome hread
  | value => exact of_outcome hread
  | enclosed => exact of_outcome (readPrimary_eq_of_readDelimited hread)

theorem Reads.ne_nil (h : Reads p field s x rest) (hp : p.IsNonempty) : s ≠ [] :=
  List.ne_nil_of_length_pos (Nat.zero_lt_of_lt (h.length_lt hp))

theorem Reads.ne_nil_of_rest (h : Reads p field s x rest) (hrest : rest ≠ []) : s ≠ [] := by
  rintro rfl
  exact hrest (List.suffix_nil.mp h.suffix)

end derivations

/-- A part can end in front of a text: operands do not where a further one begins. -/
def Part.EndsAt : Part → List Char → Prop
  | conjunction, rest | operands, rest => dropAnd? (skipBlanks rest) = none
  | _, _ => True

theorem Reads.endsAt {p : Part} {x : p.Result} (h : Reads p field s x rest) : p.EndsAt rest := by
  induction h with
  | conjunction hfirst hothers ihfirst ihothers => exact ihothers
  | last h => exact h
  | operand h hoperand hothers ihoperand ihothers => exact ihothers
  | _ => trivial

/-- What follows a text does not matter to whether a conjunction ends in front of more than blanks. -/
theorem dropAnd?_skipBlanks_append (hs : skipBlanks s ≠ [])
    (h : dropAnd? (skipBlanks s) = none) (ht : Interrupts t) :
    dropAnd? (skipBlanks (s ++ t)) = none := by
  rw [skipBlanks_append hs]
  exact dropAnd?_append_eq_none hs h ht

theorem skipBlanks_append_cons {c : Char} {u : List Char} (h : skipBlanks s = c :: u)
    (t : List Char) : skipBlanks (s ++ t) = c :: (u ++ t) := by
  rw [skipBlanks_append (h ▸ List.cons_ne_nil c u), h, List.cons_append]

theorem dropAnd?_some_ne_nil {u : List Char} (h : dropAnd? s = some u) : s ≠ [] := by
  rintro rfl
  cases h

theorem dropSign?_some_ne_nil {occur : Occur} {u : List Char}
    (h : dropSign? s = some (occur, u)) : s ≠ [] := by
  rintro rfl
  cases h

/-- Where further alternatives leave something, there is more than blanks in front of them. -/
theorem Reads.skipBlanks_ne_nil {isFirst : Bool} {items : List Item}
    (h : Reads (.alternatives isFirst) field s items rest) (hrest : rest ≠ []) :
    skipBlanks s ≠ [] := by
  cases h with
  | finished h => exact absurd rfl hrest
  | closed h => exact h ▸ List.cons_ne_nil _ _
  | alternative h => exact h ▸ List.cons_ne_nil _ _

/-- What leaves something, or ends with a delimiter, is read off a longer text as before. -/
theorem Reads.append {p : Part} {x : p.Result} (h : Reads p field s x rest) (ht : Interrupts t)
    (hrest : p = .enclosed ∨ rest ≠ []) (hends : p.EndsAt (rest ++ t)) :
    Reads p field (s ++ t) x (rest ++ t) := by
  induction h with
  | finished h => exact absurd rfl (hrest.resolve_left nofun)
  | closed h => exact .closed (skipBlanks_append_cons h t)
  | @alternative isFirst field s u middle rest c item items h hc hitem hitems ihitem ihitems =>
    -- the conjunction leaves something too, since the further alternatives do
    have hmiddle := hitems.skipBlanks_ne_nil (hrest.resolve_left nofun)
    have hitem' := ihitem (.inr (ne_nil_of_skipBlanks_ne_nil hmiddle))
      (dropAnd?_skipBlanks_append hmiddle hitem.endsAt ht)
    rw [← alternative_append (List.cons_ne_nil c u) (hitem.ne_nil trivial) ht] at hitem'
    exact .alternative (skipBlanks_append_cons h t) hc hitem'
      (ihitems (.inr (hrest.resolve_left nofun)) trivial)
  | conjunction hfirst hothers ihfirst ihothers =>
    have hne := hrest.resolve_left nofun
    exact .conjunction (ihfirst (.inr (hothers.ne_nil_of_rest hne)) trivial)
      (ihothers (.inr hne) hends)
  | last h => exact .last hends
  | operand h hoperand hothers ihoperand ihothers =>
    have hne := hrest.resolve_left nofun
    refine .operand ?_ (ihoperand (.inr (hothers.ne_nil_of_rest hne)) trivial)
      (ihothers (.inr hne) hends)
    rw [skipBlanks_append (dropAnd?_some_ne_nil h)]
    exact dropAnd?_append_some h (hoperand.ne_nil trivial) ht
  | sign h hitem ih =>
    refine .sign ?_ (ih (.inr (hrest.resolve_left nofun)) trivial)
    rw [skipBlanks_append (dropSign?_some_ne_nil h)]
    exact dropSign?_append_some h (hitem.ne_nil trivial) ht
  | unsigned h hclause ih =>
    have hs := hclause.ne_nil trivial
    have hclause' := ih (.inr (hrest.resolve_left nofun)) trivial
    rw [← skipBlanks_append hs] at hclause'
    refine .unsigned ?_ hclause'
    rw [skipBlanks_append hs]
    refine dropSign?_append_eq_none hs (fun c hc => ?_) h ht
    -- a plus or minus alone would be the whole clause, which leaves something
    have hlt := hclause.length_lt trivial
    rw [hc] at hlt
    exact absurd (List.eq_nil_of_length_eq_zero (Nat.lt_one_iff.mp hlt))
      (hrest.resolve_left nofun)
  | delimited h ih => exact .delimited (ih (.inl rfl) trivial)
  | qualified hs hstray hw h ih =>
    obtain ⟨c, body, rfl⟩ := exists_cons_of_readWord hw
    exact .qualified (hs.append (List.cons_ne_nil c body) t)
      (strayOperator?_append (List.cons_ne_nil c body) hstray ht)
      (readWord_append hw (List.cons_ne_nil _ _) t)
      (ih (.inr (hrest.resolve_left nofun)) trivial)
  | @word field s rest w hs hstray hw hcolon =>
    obtain ⟨c, body, rfl⟩ := exists_cons_of_readWord hw
    have hne : rest ≠ [] := hrest.resolve_left nofun
    refine .word (hs.append (List.cons_ne_nil c body) t)
      (strayOperator?_append (List.cons_ne_nil c body) hstray ht) (readWord_append hw hne t) ?_
    obtain ⟨d, u, rfl⟩ := List.exists_cons_of_ne_nil hne
    exact hcolon
  | delimitedValue h ih =>
    have h' := ih (.inl rfl) trivial
    rw [← skipBlanks_append (h.ne_nil trivial)] at h'
    exact .delimitedValue h'
  | @wordValue field s rest w hs hw =>
    obtain ⟨c, body, hskip⟩ := exists_cons_of_readWord hw
    have hne : skipBlanks s ≠ [] := hskip ▸ List.cons_ne_nil c body
    refine .wordValue ?_ ?_ <;> rw [skipBlanks_append hne]
    · exact hs.append hne t
    · exact readWord_append hw (hrest.resolve_left nofun) t
  | @group field s middle rest items h hclose ih =>
    have hmiddle : skipBlanks middle ≠ [] := hclose ▸ List.cons_ne_nil _ _
    exact .group (ih (.inr (ne_nil_of_skipBlanks_ne_nil hmiddle)) trivial)
      (skipBlanks_append_cons hclose t)
  | phrase h => exact .phrase (readsUpTo_quoted.append_right h t)
  | regexp h => exact .regexp (readsUpTo_regexp.append_right h t)
  | range h => exact .range (readRange_append h t)

end RegistrySearch.Query
