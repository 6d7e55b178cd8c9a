import RegistrySearch.Proofs.Query.Operands

/-!
# Texts of clauses

What is read at the beginning of a text does not depend on what follows, if what follows ends a
word, a conjunction or the alternatives of a group. So a query is put together from texts whose
clauses are known: a sign goes in front of a clause, an operator between two of them, parentheses
around alternatives.

There is one notion for each level of the syntax, from `ReadsPrimary` for a clause without a sign to
`ReadsAlternatives` for what stands in a group or is a whole query, and one lemma for each way from
a level to the next, for every spelling of the operator.
-/

namespace RegistrySearch.Query

variable {s t operator rest : List Char} {c : Clause} {item : Item} {items others : List Item}

/-! ### Spellings -/

/-- The spellings of a sign; what is not excluded and not required has none. -/
def signs : Option Occur → List (List Char)
  | none => [[]]
  | some .must => [['+']]
  | some .mustNot => [['N', 'O', 'T', ' '], ['!'], ['-']]
  | some .should => []

/-- The spellings of the operator of conjunctions. -/
def ands : List (List Char) := [[' ', 'A', 'N', 'D', ' '], [' ', '&', '&', ' ']]

/-- The spellings of the operator between alternatives. -/
def ors : List (List Char) := [[' ', 'O', 'R', ' '], [' ', '|', '|', ' '], [' ']]

/-- Behind an operator of conjunctions the text is read on from the next operand. -/
theorem dropAnd?_operator (h : operator ∈ ands) (s : List Char) :
    EndsWord (operator ++ s) ∧ dropAnd? (skipBlanks (operator ++ s)) = some (' ' :: s) := by
  simp only [ands, List.mem_cons, List.not_mem_nil, or_false] at h
  obtain rfl | rfl := h
  · exact ⟨endsWord_cons (by decide), rfl⟩
  · exact ⟨endsWord_cons (by decide), rfl⟩

/-- An operator between alternatives ends the one in front of it and does not matter to the one
behind it. -/
theorem readAlternatives_operator (h : operator ∈ ors) (hs : OpensOperand s) :
    EndsConjunction (operator ++ s) ∧ ∀ field,
      outcome (readAlternatives false field (operator ++ s)) =
        outcome (readAlternatives false field s) := by
  have hskip : skipBlanks (' ' :: s) = s := by rw [skipBlanks_space, hs.skipBlanks_eq]
  simp only [ors, List.mem_cons, List.not_mem_nil, or_false] at h
  obtain rfl | rfl | rfl := h
  · exact ⟨⟨endsWord_cons (by decide), rfl⟩,
      fun field => readAlternatives_or rfl (by decide) rfl hskip hs⟩
  · exact ⟨⟨endsWord_cons (by decide), rfl⟩,
      fun field => readAlternatives_or rfl (by decide) rfl hskip hs⟩
  · exact ⟨endsConjunction_space hs, fun field => readAlternatives_congr (skipBlanks_space s)⟩

/-! ### Clauses and operands -/

/-- A text is read as a clause, in front of whatever ends a word. -/
structure ReadsPrimary (s : List Char) (c : Clause) : Prop where
  opens : ∀ rest, OpensPrimary (s ++ rest)
  read : ∀ field rest, EndsWord rest →
    outcome (readPrimary field (s ++ rest)) = .ok (some c, rest)

/-- A text is read as a clause with its sign, in front of whatever ends a word. -/
structure ReadsOperand (s : List Char) (item : Item) : Prop where
  opens : ∀ rest, OpensOperand (s ++ rest)
  read : ∀ field rest, EndsWord rest →
    outcome (readSigned field (s ++ rest)) = .ok (some item, rest)

/-- A value with a name in front is read as its clause. -/
theorem readsPrimary_of_value {name : String} (h : IsName name)
    (hvalue : ∀ rest, EndsWord rest → outcome (readValue name (s ++ rest)) = .ok (some c, rest)) :
    ReadsPrimary (name.toList ++ ':' :: s) c where
  opens rest := by
    rw [List.append_assoc]
    exact opensPrimary_name h _
  read field rest hrest := by
    rw [List.append_assoc, List.cons_append, readPrimary_name h, hvalue rest hrest]

theorem readsPrimary_term {field text : String} (hname : IsName field) (htext : Text.IsTerm text) :
    ReadsPrimary (field.toList ++ ':' :: text.toList) (.term field text) := by
  refine readsPrimary_of_value hname fun rest hrest => ?_
  rw [readValue_word htext.toList_ne_nil
    (fun c hc => isBare_of_isAlphanumeric (htext.alphanumeric c hc)) hrest, clause?_term htext]

/-- A sign in front of an operand, and the clause that it goes with. -/
theorem ReadsPrimary.signed {sign : List Char} {occur : Occur}
    (hsign : ∀ t, OpensOperand t → OpensOperand (sign ++ t) ∧
      ∃ u, dropSign? (sign ++ t) = some (occur, u) ∧ skipBlanks u = t)
    (h : ReadsPrimary s c) : ReadsOperand (sign ++ s) ⟨some occur, c⟩ where
  opens rest := by
    rw [List.append_assoc]
    exact (hsign _ (h.opens rest).toOpensOperand).1
  read field rest hrest := by
    have hopens := h.opens rest
    obtain ⟨hsigned, u, hdrop, hskip⟩ := hsign _ hopens.toOpensOperand
    have hprimary := readSigned_primary hopens (h.read field rest hrest)
    -- behind a keyword `u` still begins with a blank, which the next operand skips
    rw [← readSigned_congr (s := u) (hskip.trans hopens.skipBlanks_eq.symm)] at hprimary
    rw [List.append_assoc]
    exact readSigned_sign hsigned hdrop hprimary

/-- A clause with a sign in front, in any spelling. -/
theorem ReadsPrimary.operand {sign : List Char} {occur : Option Occur} (hsign : sign ∈ signs occur)
    (h : ReadsPrimary s c) : ReadsOperand (sign ++ s) ⟨occur, c⟩ := by
  match occur with
  | none =>
    obtain rfl := List.mem_singleton.mp hsign
    exact ⟨fun rest => (h.opens rest).toOpensOperand,
      fun field rest hrest => readSigned_primary (h.opens rest) (h.read field rest hrest)⟩
  | some .must =>
    obtain rfl := List.mem_singleton.mp hsign
    exact h.signed fun t ht => ⟨opensOperand_plus t, t, dropSign?_plus ht, ht.skipBlanks_eq⟩
  | some .mustNot =>
    simp only [signs, List.mem_cons, List.not_mem_nil, or_false] at hsign
    obtain rfl | rfl | rfl := hsign
    · exact h.signed fun t ht => ⟨⟨⟨_, _, rfl, rfl, by decide⟩, rfl, rfl⟩, ' ' :: t, rfl,
        ht.skipBlanks_eq⟩
    · exact h.signed fun t ht => ⟨⟨⟨_, _, rfl, rfl, by decide⟩, rfl, rfl⟩, t, rfl,
        ht.skipBlanks_eq⟩
    · exact h.signed fun t ht => ⟨opensOperand_minus t, t, dropSign?_minus ht, ht.skipBlanks_eq⟩
  | some .should => exact absurd hsign List.not_mem_nil

/-! ### Conjunctions -/

/-- A text is read as the operands of a conjunction, in front of whatever ends one. -/
structure ReadsOperands (s : List Char) (items : List Item) : Prop where
  opens : ∀ rest, OpensOperand (s ++ rest)
  read : ∀ field rest, EndsConjunction rest → ∃ first others middle, items = first :: others ∧
    outcome (readSigned field (s ++ rest)) = .ok (some first, middle) ∧
      outcome (readOperands field middle) = .ok (others, rest)

theorem ReadsOperand.operands (h : ReadsOperand s item) : ReadsOperands s [item] where
  opens := h.opens
  read field rest hrest := ⟨item, [], rest, rfl, h.read field rest hrest.endsWord,
    readOperands_end hrest.dropAnd?_eq⟩

/-- An operand in front of further ones. -/
theorem ReadsOperands.cons (h : ReadsOperand s item) (hoperator : operator ∈ ands)
    (ht : ReadsOperands t items) :
    ReadsOperands (s ++ (operator ++ t)) (item :: items) where
  opens rest := by
    rw [List.append_assoc]
    exact h.opens _
  read field rest hrest := by
    obtain ⟨hends, hdrop⟩ := dropAnd?_operator hoperator (t ++ rest)
    obtain ⟨first, others, middle, rfl, hfirst, hothers⟩ := ht.read field rest hrest
    rw [← readSigned_congr (skipBlanks_space (t ++ rest))] at hfirst
    rw [List.append_assoc, List.append_assoc]
    exact ⟨item, first :: others, operator ++ (t ++ rest), rfl, h.read field _ hends,
      readOperands_cons hdrop hfirst hothers⟩

/-- A conjunction is read as the item of its operands. -/
theorem ReadsOperands.readConjunction_eq (h : ReadsOperands s items) (field : String)
    (hrest : EndsConjunction rest) :
    outcome (readConjunction field (s ++ rest)) = .ok (conjunction? items, rest) := by
  obtain ⟨first, others, middle, rfl, hfirst, hothers⟩ := h.read field rest hrest
  exact Query.readConjunction_eq hfirst hothers

/-! ### Alternatives -/

/-- Alternatives end in front of a text. -/
def EndsAlternatives (rest : List Char) : Prop := rest = [] ∨ ∃ t, rest = ')' :: t

theorem EndsAlternatives.endsConjunction (h : EndsAlternatives rest) : EndsConjunction rest := by
  obtain rfl | ⟨t, rfl⟩ := h
  · exact endsConjunction_nil
  · exact endsConjunction_paren t

theorem EndsAlternatives.readAlternatives_eq (h : EndsAlternatives rest) (isFirst : Bool)
    (field : String) : outcome (readAlternatives isFirst field rest) = .ok ([], rest) := by
  obtain rfl | ⟨t, rfl⟩ := h
  · exact readAlternatives_nil isFirst field
  · exact readAlternatives_paren isFirst field t

/-- A text is read as alternatives, in front of whatever ends them. -/
structure ReadsAlternatives (s : List Char) (items : List Item) : Prop where
  opens : ∀ rest, OpensOperand (s ++ rest)
  read : ∀ isFirst field rest, EndsAlternatives rest →
    outcome (readAlternatives isFirst field (s ++ rest)) = .ok (items, rest)

theorem ReadsOperands.alternatives (h : ReadsOperands s items)
    (hitem : conjunction? items = some item) : ReadsAlternatives s [item] where
  opens := h.opens
  read isFirst field rest hrest := by
    have hread := h.readConjunction_eq field hrest.endsConjunction
    rw [hitem] at hread
    exact readAlternatives_cons (h.opens rest) hread (hrest.readAlternatives_eq false field)

/-- An alternative in front of further ones. -/
theorem ReadsAlternatives.cons (h : ReadsOperands s items)
    (hitem : conjunction? items = some item) (hoperator : operator ∈ ors)
    (ht : ReadsAlternatives t others) :
    ReadsAlternatives (s ++ (operator ++ t)) (item :: others) where
  opens rest := by
    rw [List.append_assoc]
    exact h.opens _
  read isFirst field rest hrest := by
    -- an operand follows the operator, so the conjunction in front of it ends there
    obtain ⟨hends, hskip⟩ := readAlternatives_operator hoperator (ht.opens rest)
    have hread := h.readConjunction_eq field hends
    have hothers := (hskip field).trans (ht.read false field rest hrest)
    rw [hitem] at hread
    have hopens := h.opens (operator ++ (t ++ rest))
    rw [List.append_assoc, List.append_assoc]
    exact readAlternatives_cons hopens hread hothers

/-- Alternatives in parentheses are read as their clause. -/
theorem ReadsAlternatives.group (h : ReadsAlternatives s items)
    (hclause : alternatives? items = some c) : ReadsPrimary ('(' :: (s ++ [')'])) c where
  opens rest := opensPrimary_paren _
  read field rest _ := by
    have hread := h.read true field (')' :: rest) (.inr ⟨rest, rfl⟩)
    rw [List.cons_append, List.append_assoc, List.singleton_append, readPrimary_group hread,
      hclause]

/-- A query of alternatives is parsed as their clause. -/
theorem ReadsAlternatives.parse_eq {query : String} (h : ReadsAlternatives query.toList items)
    (hclause : alternatives? items = some c) : Clause.parse query = .ok c := by
  have hread := h.read true bodyField [] (.inl rfl)
  have hne : items ≠ [] := by
    rintro rfl
    cases hclause
  rw [List.append_nil] at hread
  rw [Query.parse_eq hread hne, hclause]
  rfl

/-- A query that is read as one clause is parsed as the clause. -/
theorem ReadsPrimary.parse_eq {query : String} (h : ReadsPrimary query.toList c) :
    Clause.parse query = .ok c := by
  have hsign : [] ∈ signs none := List.mem_singleton_self _
  have hoperand : ReadsOperand query.toList ⟨none, c⟩ := h.operand hsign
  exact (hoperand.operands.alternatives rfl).parse_eq rfl

end RegistrySearch.Query
