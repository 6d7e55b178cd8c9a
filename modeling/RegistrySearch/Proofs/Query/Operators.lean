import RegistrySearch.Proofs.Query.Groups

/-!
# Operators without an operand

An operator at the end of a query is read as one, and the query fails for want of the operand
(`Demands`). In front of a closing parenthesis the symbols are read like that, but the keywords are
not: a keyword has to be followed by a blank, an opening parenthesis or the end, and is a word in
front of anything else.
-/

namespace RegistrySearch.Query

open Unicode (isBlank)
open Text (utf8Length utf8Length_append)

variable {field : String} {s u v rest : List Char} {items : List Item} {e : Failure}

/-- A text begins with an operator, and an operand is read from `v` on next. -/
inductive Demands (u v : List Char) : Prop
  | and (h : dropAnd? u = some v)
  | or (hand : dropAnd? u = none) (h : dropOr? u = some v)
  | sign (hand : dropAnd? u = none) (hor : dropOr? u = none) {occur : Occur}
    (h : dropSign? u = some (occur, v))

/-- A sign or an operator between alternatives in front of what is no operand. -/
theorem readAlternatives_eq_error_of_demands {c : Char} (hskip : skipBlanks s = c :: u)
    (hblank : isBlank c = false) (hparen : c ≠ ')') (hand : dropAnd? (c :: u) = none)
    (h : Demands (c :: u) v) (he : outcome (readSigned field v) = .error e) :
    outcome (readAlternatives false field s) = .error e := by
  have hsigned : outcome (readSigned field (alternative false (c :: u))) = .error e := by
    cases h with
    | and h =>
      rw [hand] at h
      cases h
    | or _ h =>
      rw [alternative, h]
      exact he
    | sign _ hor h =>
      have hbehind : alternative false (c :: u) = c :: u := by
        rw [alternative, hor]
        rfl
      rw [hbehind, outcome_readSigned, skipBlanks_of_not_isBlank hblank, h]
      dsimp only
      rw [he, error_bind]
  rw [readAlternatives_eq hskip hparen, outcome_readConjunction, hsigned]
  rfl

/-- Behind a query that is read, an operator without its operand is the failure of the operand. -/
theorem Reads.alternatives_append_operator {c : Char}
    (h : Reads (.alternatives true) field s items []) (hs : skipBlanks s ≠ [])
    (hblank : isBlank c = false) (hparen : c ≠ ')') (hu : Demands (c :: u) v)
    (he : outcome (readSigned field v) = .error e) :
    outcome (readAlternatives true field (s ++ ' ' :: c :: u)) = .error e := by
  have hskip : skipBlanks (' ' :: c :: u) = c :: u := by
    rw [skipBlanks_space, skipBlanks_of_not_isBlank hblank]
  have hbreak : Extends (' ' :: c :: u) [] (' ' :: c :: u) := extends_of_isBreak rfl _
  cases hand : dropAnd? (c :: u) with
  | some v' =>
    -- the operand belongs to the last conjunction of the query
    have hv : v' = v := by
      cases hu with
      | and h => exact Option.some.inj (hand.symm.trans h)
      | or h _ => rw [hand] at h; cases h
      | sign h _ _ => rw [hand] at h; cases h
    subst hv
    exact h.alternatives_append_error hs hbreak not_touches_space (by rw [hskip, hand]) he
  | none =>
    have hread := h.alternatives_append_space hs (by rw [hskip, hand])
    rw [hread, readAlternatives_eq_error_of_demands hskip hblank hparen hand hu he, prepend_error]

/-! ### Words -/

/-- A text begins with a word and with no operator, and `rest` is left behind the word. -/
structure OpensWord (t : List Char) (w : Word) (rest : List Char) : Prop where
  skipBlanks_eq : skipBlanks t = t
  beginsWord : BeginsWord t
  dropAnd?_eq : dropAnd? t = none
  dropOr?_eq : dropOr? t = none
  dropSign?_eq : dropSign? t = none
  readWord_eq : readWord t = .ok (w, rest)

/-- A single word is a further alternative, up to the end or a closing parenthesis. -/
theorem OpensWord.reads {t : List Char} {w : Word} {clause : Clause} (h : OpensWord t w rest)
    (hclause : w.clause? field = some clause) (hrest : rest = [] ∨ rest = [')']) :
    Reads (.alternatives false) field (' ' :: t) [⟨none, clause⟩] rest := by
  have hprimary : Reads .primary field t (some clause) rest := by
    rw [← hclause]
    refine .word h.beginsWord (strayOperator?_eq_none_iff.mpr ⟨h.dropAnd?_eq, h.dropOr?_eq⟩)
      h.readWord_eq ?_
    obtain rfl | rfl := hrest <;> decide
  have hsigned : Reads .signed field t (some ⟨none, clause⟩) rest :=
    .unsigned (by rw [h.skipBlanks_eq, h.dropSign?_eq]) (by rwa [h.skipBlanks_eq])
  have hlast : Reads .operands field rest [] rest := by
    obtain rfl | rfl := hrest <;> exact .last rfl
  have hbehind : alternative false t = t := by
    rw [alternative, h.dropOr?_eq]
    rfl
  have hconjunction : Reads .conjunction field (alternative false t) (some ⟨none, clause⟩) rest := by
    rw [hbehind]
    exact .conjunction hsigned hlast
  have hend : Reads (.alternatives false) field rest [] rest := by
    obtain rfl | rfl := hrest
    · exact .finished rfl
    · exact .closed rfl
  obtain ⟨c, u, rfl⟩ := exists_cons_of_readWord h.readWord_eq
  have hparen : c ≠ ')' := by
    rintro rfl
    exact absurd (h.beginsWord _ rfl).2 (by decide)
  exact .alternative (by rw [skipBlanks_space, h.skipBlanks_eq]) hparen hconjunction hend

/-- Behind a query that is read, a single word is one more alternative. -/
theorem OpensWord.alternatives_append {t : List Char} {w : Word} {clause : Clause}
    (ht : OpensWord t w rest) (h : Reads (.alternatives true) field s items [])
    (hs : skipBlanks s ≠ []) (hclause : w.clause? field = some clause)
    (hrest : rest = [] ∨ rest = [')']) :
    outcome (readAlternatives true field (s ++ ' ' :: t)) =
      .ok (items ++ [⟨none, clause⟩], rest) := by
  have hend : dropAnd? (skipBlanks (' ' :: t)) = none := by
    rw [skipBlanks_space, ht.skipBlanks_eq, ht.dropAnd?_eq]
  have hword : outcome (readAlternatives false field (' ' :: t)) = .ok ([⟨none, clause⟩], rest) :=
    (ht.reads hclause hrest).read_eq
  rw [h.alternatives_append_space hs hend, hword, prepend_ok]

/-- A clause without sign behind other alternatives is one of the choices, or all there is. -/
theorem eq_or_mem_of_append (items : List Item) (clause : Clause) :
    (alternatives? (items ++ [⟨none, clause⟩])).getD (.boolean []) = clause ∨
      ∃ children, (alternatives? (items ++ [⟨none, clause⟩])).getD (.boolean []) =
        .boolean children ∧ (.should, clause) ∈ children := by
  match items with
  | [] => exact .inl rfl
  | [i] => exact .inr ⟨_, rfl, List.mem_cons_of_mem _ List.mem_cons_self⟩
  | i :: j :: items =>
    refine .inr ⟨_, rfl, List.mem_map.mpr ⟨⟨none, clause⟩, ?_, rfl⟩⟩
    exact List.mem_append_right (i :: j :: items) List.mem_cons_self

/-! ### Queries -/

section queries

variable {q k : String} {c : Char}

/-- An operator at the end of a query. -/
theorem parse_eq_error_of_demands (hs : skipBlanks q.toList ≠ [])
    (h : Reads (.alternatives true) bodyField q.toList items []) (hk : k.toList = c :: u)
    (hblank : isBlank c = false) (hparen : c ≠ ')') (hu : Demands (c :: u) []) :
    Clause.parse (q ++ " " ++ k) = .error ⟨.missingTerm, utf8Length (q ++ " " ++ k).toList⟩ := by
  have hquery : (q ++ " " ++ k).toList = q.toList ++ ' ' :: c :: u := by
    simp only [String.toList_append, hk, List.append_assoc]
    rfl
  have hprimary : outcome (readPrimary bodyField []) = .error ⟨.missingTerm, []⟩ := by
    rw [outcome_readPrimary]
  have hsigned : outcome (readSigned bodyField []) = .error ⟨.missingTerm, []⟩ :=
    outcome_readSigned_eq_error rfl rfl hprimary
  have hread := h.alternatives_append_operator hs hblank hparen hu hsigned
  rw [← hquery] at hread
  have hskip : skipBlanks (q ++ " " ++ k).toList ≠ [] := by
    rw [hquery]
    exact skipBlanks_append_ne_nil hs _
  exact parseWith_eq_error hskip hread

/-- An operator in front of a closing parenthesis. -/
theorem parse_group_eq_error_of_demands (hs : skipBlanks q.toList ≠ [])
    (h : Reads (.alternatives true) bodyField q.toList items []) (hk : k.toList = c :: u)
    (hblank : isBlank c = false) (hparen : c ≠ ')') (hu : Demands (c :: (u ++ [')'])) [')']) :
    Clause.parse ("(" ++ q ++ " " ++ k ++ ")") =
      .error ⟨.unexpected ')', utf8Length ("(" ++ q ++ " " ++ k).toList⟩ := by
  have hquery : ("(" ++ q ++ " " ++ k ++ ")").toList =
      '(' :: (q.toList ++ ' ' :: c :: (u ++ [')'])) := by
    simp only [String.toList_append, hk, List.append_assoc]
    rfl
  have hread := h.alternatives_append_operator hs hblank hparen hu
    (outcome_readSigned_paren bodyField [])
  have hlength : utf8Length ("(" ++ q ++ " " ++ k ++ ")").toList =
      utf8Length ("(" ++ q ++ " " ++ k).toList + 1 := by
    rw [String.toList_append, utf8Length_append]
    rfl
  rw [Clause.parse, parseWith_group_error hquery hread, Failure.toError, hlength]
  rfl

/-- A word in front of a closing parenthesis, and the same term at the end of a query. -/
theorem exists_parse_word {term : String} {w w' : Word} (hs : skipBlanks q.toList ≠ [])
    (h : Reads (.alternatives true) bodyField q.toList items [])
    (hk : OpensWord (k.toList ++ [')']) w [')']) (hterm : OpensWord term.toList w' [])
    (hw : w.clause? bodyField = some (.term bodyField term))
    (hw' : w'.clause? bodyField = some (.term bodyField term)) :
    ∃ c', Clause.parse ("(" ++ q ++ " " ++ k ++ ")") = .ok c' ∧
      Clause.parse (q ++ " " ++ term) = .ok c' ∧ (c' = .term bodyField term ∨
        ∃ children, c' = .boolean children ∧ (.should, .term bodyField term) ∈ children) := by
  have hgroup : ("(" ++ q ++ " " ++ k ++ ")").toList =
      '(' :: (q.toList ++ ' ' :: (k.toList ++ [')'])) := by
    simp only [String.toList_append, List.append_assoc]
    rfl
  have hquery : (q ++ " " ++ term).toList = q.toList ++ ' ' :: term.toList := by
    simp only [String.toList_append, List.append_assoc]
    rfl
  have hreads : Reads (.alternatives true) bodyField (q ++ " " ++ term).toList _ [] :=
    reads_iff.mpr (hquery ▸ hterm.alternatives_append h hs hw' (.inl rfl))
  have hskip : skipBlanks (q ++ " " ++ term).toList ≠ [] := by
    rw [hquery]
    exact skipBlanks_append_ne_nil hs _
  exact ⟨_, parseWith_group hgroup (hk.alternatives_append h hs hw (.inr rfl)),
    parseWith_eq_ok_iff.mpr ⟨hskip, _, hreads, rfl⟩, eq_or_mem_of_append items _⟩

end queries

/-- The keywords, and the words that they are in lower case. -/
def keywords : List (String × String) := [("AND", "and"), ("OR", "or"), ("NOT", "not")]

set_option maxRecDepth 4000 in
/-- A keyword in front of a closing parenthesis is a word, whose term is the word in lower case. -/
theorem opensWord_of_mem_keywords {k : String × String} (hk : k ∈ keywords) :
    OpensWord (k.1.toList ++ [')']) (k.1.toList.map .plain) [')'] ∧
      OpensWord k.2.toList (k.2.toList.map .plain) [] ∧
        Word.clause? bodyField (k.1.toList.map .plain) = some (.term bodyField k.2) ∧
          Word.clause? bodyField (k.2.toList.map .plain) = some (.term bodyField k.2) := by
  simp only [keywords, List.mem_cons, List.not_mem_nil, or_false] at hk
  obtain rfl | rfl | rfl := hk <;>
    exact ⟨⟨rfl, beginsWord_cons rfl rfl, rfl, rfl, rfl, rfl⟩,
      ⟨rfl, beginsWord_cons rfl rfl, rfl, rfl, rfl, rfl⟩, by with_unfolding_all rfl,
      by with_unfolding_all rfl⟩

/-- Behind a query an operator of any spelling is missing its operand. So is a symbol in front of a
closing parenthesis. A keyword in front of one is a word: the query is read as with the word in lower
case, which is one more term to search for. -/
theorem parse_operator {q : String} {c : Clause} (h : Clause.parse q = .ok c) :
    (∀ k ∈ ["AND", "OR", "NOT", "&&", "||", "!"],
      Clause.parse (q ++ " " ++ k) = .error ⟨.missingTerm, utf8Length (q ++ " " ++ k).toList⟩) ∧
    (∀ k ∈ ["&&", "||", "!"], Clause.parse ("(" ++ q ++ " " ++ k ++ ")") =
      .error ⟨.unexpected ')', utf8Length ("(" ++ q ++ " " ++ k).toList⟩) ∧
    ∀ k ∈ keywords, ∃ c', Clause.parse ("(" ++ q ++ " " ++ k.1 ++ ")") = .ok c' ∧
      Clause.parse (q ++ " " ++ k.2) = .ok c' ∧
        (c' = .term bodyField k.2 ∨
          ∃ children, c' = .boolean children ∧ (.should, .term bodyField k.2) ∈ children) := by
  obtain ⟨hs, items, hreads, rfl⟩ := parseWith_eq_ok_iff.mp h
  refine ⟨fun k hk => ?_, fun k hk => ?_, fun k hk => ?_⟩
  · simp only [List.mem_cons, List.not_mem_nil, or_false] at hk
    obtain rfl | rfl | rfl | rfl | rfl | rfl := hk
    · exact parse_eq_error_of_demands hs hreads rfl rfl (by decide) (.and rfl)
    · exact parse_eq_error_of_demands hs hreads rfl rfl (by decide) (.or rfl rfl)
    · exact parse_eq_error_of_demands hs hreads rfl rfl (by decide) (.sign rfl rfl rfl)
    · exact parse_eq_error_of_demands hs hreads rfl rfl (by decide) (.and rfl)
    · exact parse_eq_error_of_demands hs hreads rfl rfl (by decide) (.or rfl rfl)
    · exact parse_eq_error_of_demands hs hreads rfl rfl (by decide) (.sign rfl rfl rfl)
  · simp only [List.mem_cons, List.not_mem_nil, or_false] at hk
    obtain rfl | rfl | rfl := hk
    · exact parse_group_eq_error_of_demands hs hreads rfl rfl (by decide) (.and rfl)
    · exact parse_group_eq_error_of_demands hs hreads rfl rfl (by decide) (.or rfl rfl)
    · exact parse_group_eq_error_of_demands hs hreads rfl rfl (by decide) (.sign rfl rfl rfl)
  · obtain ⟨hword, hterm, hclause, hclause'⟩ := opensWord_of_mem_keywords hk
    exact exists_parse_word hs hreads hword hterm hclause hclause'

set_option maxRecDepth 4000 in
/-- Operators behind a query with signs. -/
theorem parse_operator_signs : ∃ c, Clause.parse "name:cas -sso" = .ok c ∧
    Clause.parse ("name:cas -sso" ++ " " ++ "NOT") = .error ⟨.missingTerm, 17⟩ ∧
      Clause.parse ("(" ++ "name:cas -sso" ++ " " ++ "&&" ++ ")") =
        .error ⟨.unexpected ')', 17⟩ ∧
          ∃ c', Clause.parse ("(" ++ "name:cas -sso" ++ " " ++ "OR" ++ ")") = .ok c' ∧
            Clause.parse ("name:cas -sso" ++ " " ++ "or") = .ok c' := by
  have hparse : Clause.parse "name:cas -sso" =
      .ok (.boolean [(.should, .term "name" "cas"), (.mustNot, .term "body" "sso")]) := by
    with_unfolding_all rfl
  obtain ⟨hend, hgroup, hkeyword⟩ := parse_operator hparse
  obtain ⟨c', hparen, hlower, -⟩ := hkeyword ("OR", "or") (by decide)
  exact ⟨_, hparse, hend "NOT" (by decide), hgroup "&&" (by decide), c', hparen, hlower⟩

set_option maxRecDepth 4000 in
/-- A keyword without its operand is searched for as a word in a group. -/
theorem parse_operator_keyword : Clause.parse "a" = .ok (.term "body" "a") ∧
    Clause.parse ("(" ++ "a" ++ " " ++ "AND" ++ ")") =
      .ok (.boolean [(.should, .term "body" "a"), (.should, .term "body" "and")]) :=
  ⟨by with_unfolding_all rfl, by with_unfolding_all rfl⟩

end RegistrySearch.Query
