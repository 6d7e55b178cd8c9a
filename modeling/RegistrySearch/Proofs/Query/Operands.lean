import RegistrySearch.Proofs.Query.Reading
import RegistrySearch.Proofs.Query.Words

/-!
# Operands

An operand begins with a sign, with a parenthesis or with the name of a field (`OpensOperand`), and
by none of these it is taken for an operator. So what is read at the beginning of an operand does
not depend on what has been read before, and the clauses of a query are read one by one.
-/

namespace RegistrySearch.Query

open Unicode (isBlank)

/-- A text begins with an operand: with neither a blank nor a closing parenthesis nor an operator
that stands between operands. -/
structure OpensOperand (s : List Char) : Prop where
  exists_cons : ∃ c t, s = c :: t ∧ isBlank c = false ∧ c ≠ ')'
  dropAnd?_eq : dropAnd? s = none
  dropOr?_eq : dropOr? s = none

/-- A text begins with an operand without sign. -/
structure OpensPrimary (s : List Char) : Prop extends OpensOperand s where
  dropSign?_eq : dropSign? s = none

theorem OpensOperand.skipBlanks_eq {s : List Char} (h : OpensOperand s) : skipBlanks s = s := by
  obtain ⟨c, t, rfl, hc, -⟩ := h.exists_cons
  exact skipBlanks_of_not_isBlank hc

theorem skipBlanks_space (s : List Char) : skipBlanks (' ' :: s) = skipBlanks s := rfl

/-- A conjunction ends in front of a text, and so does its last word. -/
structure EndsConjunction (rest : List Char) : Prop where
  endsWord : EndsWord rest
  dropAnd?_eq : dropAnd? (skipBlanks rest) = none

theorem endsConjunction_nil : EndsConjunction [] := ⟨endsWord_nil, rfl⟩

theorem endsConjunction_paren (rest : List Char) : EndsConjunction (')' :: rest) :=
  ⟨endsWord_cons (by decide), rfl⟩

theorem endsConjunction_space {s : List Char} (h : OpensOperand s) : EndsConjunction (' ' :: s) :=
  ⟨endsWord_cons (by decide), by rw [skipBlanks_space, h.skipBlanks_eq, h.dropAnd?_eq]⟩

theorem opensPrimary_paren (s : List Char) : OpensPrimary ('(' :: s) :=
  ⟨⟨⟨_, _, rfl, rfl, by decide⟩, rfl, rfl⟩, rfl⟩

theorem opensPrimary_quote (s : List Char) : OpensPrimary ('"' :: s) :=
  ⟨⟨⟨_, _, rfl, rfl, by decide⟩, rfl, rfl⟩, rfl⟩

/-- No operator is read off a name in front of a colon. -/
theorem dropOperator?_name {name : String} (h : IsName name) {word symbol : List Char} {d : Char}
    (hword : ':' ∉ word) (hd : isMark d) (s : List Char) :
    dropOperator? word (d :: symbol) (name.toList ++ ':' :: s) = none := by
  rw [dropOperator?, dropKeyword?_name hword h.isNameChar]
  exact dropWord?_name h hd symbol s

theorem dropSign?_name {name : String} (h : IsName name) (s : List Char) :
    dropSign? (name.toList ++ ':' :: s) = none := by
  obtain ⟨c, t, ht, hc⟩ := h.exists_cons
  rw [dropSign?.eq_def, dropOperator?_name h (by decide) (by decide), ht, List.cons_append]
  dsimp only
  split
  · next he => exact absurd (List.cons.inj he).1 (ne_of_isBare hc (by decide))
  · next he => exact absurd (List.cons.inj he).1 (ne_of_isBare hc (by decide))
  · rfl

theorem opensPrimary_name {name : String} (h : IsName name) (s : List Char) :
    OpensPrimary (name.toList ++ ':' :: s) := by
  obtain ⟨c, t, ht, hc⟩ := h.exists_cons
  refine ⟨⟨⟨c, t ++ ':' :: s, by rw [ht, List.cons_append], not_isBlank_of_isBare hc,
    ne_of_isBare hc (by decide)⟩, ?_, ?_⟩, dropSign?_name h s⟩
  · exact dropOperator?_name h (by decide) (by decide) s
  · exact dropOperator?_name h (by decide) (by decide) s

/-! ### Signs -/

theorem opensOperand_plus (s : List Char) : OpensOperand ('+' :: s) :=
  ⟨⟨_, _, rfl, rfl, by decide⟩, rfl, rfl⟩

theorem opensOperand_minus (s : List Char) : OpensOperand ('-' :: s) :=
  ⟨⟨_, _, rfl, rfl, by decide⟩, rfl, rfl⟩

theorem dropSign?_plus {s : List Char} (h : OpensOperand s) :
    dropSign? ('+' :: s) = some (.must, s) := by
  obtain ⟨c, t, rfl, hc, -⟩ := h.exists_cons
  change (if isBlank c then none else some (Occur.must, c :: t)) = _
  rw [hc]
  rfl

theorem dropSign?_minus {s : List Char} (h : OpensOperand s) :
    dropSign? ('-' :: s) = some (.mustNot, s) := by
  obtain ⟨c, t, rfl, hc, -⟩ := h.exists_cons
  change (if isBlank c then none else some (Occur.mustNot, c :: t)) = _
  rw [hc]
  rfl

/-! ### Primaries -/

/-- A bare character opens nothing. -/
theorem opener?_of_isBare {c : Char} (h : isBare c) : Opener.of? c = none := by
  rw [Opener.of?.eq_def]
  split
  case h_6 => rfl
  all_goals exact absurd h (by rw [isBare_of_lt (by decide)]; decide)

section primaries

variable {field : String} {s rest : List Char}

theorem readPrimary_group {items : List Item}
    (h : outcome (readAlternatives true field s) = .ok (items, ')' :: rest)) :
    outcome (readPrimary field ('(' :: s)) = .ok (alternatives? items, rest) := by
  rw [outcome_readPrimary]
  change outcome (readEnclosed field .group ('(' :: s) s) = _
  rw [outcome_readEnclosed]
  simp only [h]
  rfl

theorem readPrimary_phrase {text : List Char} (h : readQuoted? s = some (text, rest)) :
    outcome (readPrimary field ('"' :: s)) = .ok (phrase? field text, rest) := by
  rw [outcome_readPrimary]
  change outcome (readEnclosed field .phrase ('"' :: s) s) = _
  rw [outcome_readEnclosed]
  simp only [h]

theorem strayOperator?_name {name : String} (h : IsName name) (s : List Char) :
    strayOperator? (name.toList ++ ':' :: s) = none := by
  rw [strayOperator?, dropKeyword?_name (by decide) h.isNameChar, dropWord?_name h (by decide),
    dropKeyword?_name (by decide) h.isNameChar, dropWord?_name h (by decide)]
  rfl

/-- A clause with a field is its value for the field. -/
theorem readPrimary_name {name : String} (h : IsName name) (s : List Char) :
    outcome (readPrimary field (name.toList ++ ':' :: s)) = outcome (readValue name s) := by
  obtain ⟨c, t, ht, hc⟩ := h.exists_cons
  have hword : readWord (name.toList ++ ':' :: s) = .ok (name.toList.map .plain, ':' :: s) :=
    readWord_bare h.toList_ne_nil (fun d hd => isBare_of_isNameChar (h.isNameChar d hd))
      (endsWord_cons (by decide))
  have hstray := strayOperator?_name h s
  have hcaret : ¬(c = '^' ∨ c = '~') := by
    rintro (rfl | rfl) <;> exact absurd (not_isSpecial_of_isBare hc) (by decide)
  rw [outcome_readPrimary]
  rw [ht, List.cons_append] at hword hstray ⊢
  simp only [opener?_of_isBare hc, if_neg hcaret, not_isSpecial_of_isBare hc, hstray, hword,
    text_plain, ← ht, String.ofList_toList]
  rfl

/-! ### Values -/

/-- A word of bare characters is read as the value of a field. -/
theorem readValue_word {w : List Char} (hne : w ≠ []) (h : ∀ c ∈ w, isBare c)
    (hrest : EndsWord rest) :
    outcome (readValue field (w ++ rest)) = .ok (Word.clause? field (w.map .plain), rest) := by
  obtain ⟨c, t, rfl⟩ := List.exists_cons_of_ne_nil hne
  have hc := h c List.mem_cons_self
  have hword := readWord_bare hne h hrest
  rw [outcome_readValue]
  rw [List.cons_append] at hword ⊢
  simp only [skipBlanks_of_not_isBlank (not_isBlank_of_isBare hc), opener?_of_isBare hc,
    not_isSpecial_of_isBare hc, hword]
  rfl

/-- So is one behind a minus, which is no sign there. -/
theorem readValue_minus {w : List Char} (h : ∀ c ∈ w, isBare c) (hrest : EndsWord rest) :
    outcome (readValue field ('-' :: (w ++ rest))) =
      .ok (Word.clause? field (('-' :: w).map .plain), rest) := by
  have hblank : isBlank '-' = false := rfl
  have hword : readWord ('-' :: (w ++ rest)) = .ok (('-' :: w).map .plain, rest) := by
    rw [readWord, readTyped_cons (by decide), hblank, readTyped_bare h hrest]
    rfl
  rw [outcome_readValue]
  simp only [skipBlanks_of_not_isBlank hblank, hword]
  rfl

theorem readValue_phrase {text : List Char} (h : readQuoted? s = some (text, rest)) :
    outcome (readValue field ('"' :: s)) = .ok (phrase? field text, rest) := by
  rw [outcome_readValue]
  change outcome (readEnclosed field .phrase ('"' :: s) s) = _
  rw [outcome_readEnclosed]
  simp only [h]

theorem readValue_regexp {pattern : List Char} (h : readRegexp? s = some (pattern, rest)) :
    outcome (readValue field ('/' :: s)) =
      .ok (some (.regexp field (String.ofList pattern)), rest) := by
  rw [outcome_readValue]
  change outcome (readEnclosed field .regexp ('/' :: s) s) = _
  rw [outcome_readEnclosed]
  simp only [h]

theorem readValue_range {clause : Clause} {isInclusive : Bool}
    (h : ∀ t, readRange field t isInclusive s = .ok (clause, rest)) :
    outcome (readValue field ((if isInclusive then '[' else '{') :: s)) =
      .ok (some clause, rest) := by
  have hvalue : outcome (readValue field ((if isInclusive then '[' else '{') :: s)) =
      outcome (readEnclosed field (.range isInclusive)
        ((if isInclusive then '[' else '{') :: s) s) := by
    rw [outcome_readValue]
    cases isInclusive <;> rfl
  rw [hvalue, outcome_readEnclosed]
  simp only [h]
  rfl

end primaries

/-! ### Combinations -/

section combinations

variable {field : String} {s t rest rest' : List Char} {item : Item} {items : List Item}

/-- Blanks in front of an operand do not matter. -/
theorem readSigned_congr (h : skipBlanks s = skipBlanks t) :
    outcome (readSigned field s) = outcome (readSigned field t) := by
  rw [outcome_readSigned, outcome_readSigned field t, h]

theorem readConjunction_congr (h : skipBlanks s = skipBlanks t) :
    outcome (readConjunction field s) = outcome (readConjunction field t) := by
  rw [outcome_readConjunction, outcome_readConjunction field t, readSigned_congr h]

/-- An operand without sign is a primary. -/
theorem readSigned_primary {clause : Clause} (h : OpensPrimary s)
    (hread : outcome (readPrimary field s) = .ok (some clause, rest)) :
    outcome (readSigned field s) = .ok (some ⟨none, clause⟩, rest) := by
  rw [outcome_readSigned, h.skipBlanks_eq]
  simp only [h.dropSign?_eq, hread]
  rfl

/-- An operand with a sign is the operand behind it, with the sign. -/
theorem readSigned_sign {occur : Occur} (h : OpensOperand s) (hsign : dropSign? s = some (occur, t))
    (hread : outcome (readSigned field t) = .ok (some item, rest)) :
    outcome (readSigned field s) = .ok (some ⟨some occur, item.toClause⟩, rest) := by
  rw [outcome_readSigned, h.skipBlanks_eq]
  simp only [hsign, hread]
  rfl

/-- A conjunction ends where no operator follows. -/
theorem readOperands_end (h : dropAnd? (skipBlanks s) = none) :
    outcome (readOperands field s) = .ok ([], s) := by
  rw [outcome_readOperands]
  simp only [h]

theorem readOperands_cons (h : dropAnd? (skipBlanks s) = some t)
    (hread : outcome (readSigned field t) = .ok (some item, rest))
    (hothers : outcome (readOperands field rest) = .ok (items, rest')) :
    outcome (readOperands field s) = .ok (item :: items, rest') := by
  rw [outcome_readOperands]
  simp only [h, hread]
  change (outcome (readOperands field rest) >>= _) = _
  rw [hothers]
  rfl

/-- A conjunction of several operands. -/
theorem readConjunction_eq {others : List Item}
    (hread : outcome (readSigned field s) = .ok (some item, rest))
    (hothers : outcome (readOperands field rest) = .ok (others, rest')) :
    outcome (readConjunction field s) = .ok (conjunction? (item :: others), rest') := by
  rw [outcome_readConjunction, hread]
  change (outcome (readOperands field rest) >>= _) = _
  rw [hothers]
  rfl

theorem readAlternatives_nil (isFirst : Bool) (field : String) :
    outcome (readAlternatives isFirst field []) = .ok ([], []) := by
  rw [outcome_readAlternatives]
  rfl

theorem readAlternatives_paren (isFirst : Bool) (field : String) (rest : List Char) :
    outcome (readAlternatives isFirst field (')' :: rest)) = .ok ([], ')' :: rest) := by
  rw [outcome_readAlternatives]
  rfl

/-- Blanks in front of further alternatives do not matter. -/
theorem readAlternatives_congr {isFirst : Bool} (h : skipBlanks s = skipBlanks t) :
    outcome (readAlternatives isFirst field s) = outcome (readAlternatives isFirst field t) := by
  rw [outcome_readAlternatives, outcome_readAlternatives isFirst field t, h]

/-- What is read where a further alternative begins. -/
theorem readAlternatives_eq {isFirst : Bool} {c : Char} {u : List Char}
    (hskip : skipBlanks s = c :: u) (hparen : c ≠ ')') :
    outcome (readAlternatives isFirst field s) = (do
      let (item, rest) ← outcome (readConjunction field (alternative isFirst (c :: u)))
      let (items, rest) ← outcome (readAlternatives false field rest)
      .ok (item.toList ++ items, rest)) := by
  rw [outcome_readAlternatives, hskip]
  split
  · next he => cases he
  · next he => cases he; exact absurd rfl hparen
  · next he => cases he; rfl

theorem OpensOperand.alternative_eq {isFirst : Bool} (h : OpensOperand s) :
    alternative isFirst s = s := by
  rw [alternative, h.dropOr?_eq]
  cases isFirst <;> rfl

/-- An alternative is read in front of the further ones. -/
theorem readAlternatives_cons {isFirst : Bool} (h : OpensOperand s)
    (hread : outcome (readConjunction field s) = .ok (some item, rest))
    (hothers : outcome (readAlternatives false field rest) = .ok (items, rest')) :
    outcome (readAlternatives isFirst field s) = .ok (item :: items, rest') := by
  have halternative : alternative isFirst s = s := h.alternative_eq
  have hskip := h.skipBlanks_eq
  obtain ⟨c, t, rfl, -, hparen⟩ := h.exists_cons
  rw [readAlternatives_eq hskip hparen, halternative, hread]
  change (outcome (readAlternatives false field rest) >>= _) = _
  rw [hothers]
  rfl

/-- Behind an operator between alternatives the further ones are read as without it. -/
theorem readAlternatives_or {c : Char} {u v : List Char} (hskip : skipBlanks s = c :: u)
    (hparen : c ≠ ')') (hor : dropOr? (c :: u) = some v) (hv : skipBlanks v = t)
    (h : OpensOperand t) :
    outcome (readAlternatives false field s) = outcome (readAlternatives false field t) := by
  have hbehind : alternative false (c :: u) = v := by
    rw [alternative, hor]
    rfl
  have hwithout : alternative false t = t := h.alternative_eq
  have hconjunction : outcome (readConjunction field v) = outcome (readConjunction field t) :=
    readConjunction_congr (hv.trans h.skipBlanks_eq.symm)
  have hskip' := h.skipBlanks_eq
  obtain ⟨d, w, rfl, -, hd⟩ := h.exists_cons
  rw [readAlternatives_eq hskip hparen, readAlternatives_eq hskip' hd, hbehind, hwithout,
    hconjunction]

/-- The clause of a query whose alternatives are read to the end. -/
theorem parse_eq {query : String}
    (h : outcome (readAlternatives true bodyField query.toList) = .ok (items, []))
    (hne : items ≠ []) : Clause.parse query = .ok ((alternatives? items).getD (.boolean [])) := by
  have hskip : (skipBlanks query.toList).isEmpty = false := by
    rw [← Bool.not_eq_true]
    intro hempty
    rw [outcome_readAlternatives, List.isEmpty_iff.mp hempty] at h
    cases h
    exact hne rfl
  obtain ⟨hle, hread⟩ := outcome_eq_ok_iff.mp h
  rw [Clause.parse, Clause.parseWith]
  simp only [hskip, readQuery, hread]
  rfl

end combinations

end RegistrySearch.Query
