import RegistrySearch.Proofs.Query.Ends

/-!
# Queries in parentheses

A query in parentheses is the query, with one exception: a plus or minus that stands alone at the
end of the query is a word there, and in front of the closing parenthesis it is a sign without its
operand. Both readings start from `parseWith_eq_ok_iff`, what is read of a whole query.
-/

namespace RegistrySearch.Query

open Unicode (isBlank)
open Text (utf8Length utf8Length_append)

variable {field query : String} {s rest : List Char} {items : List Item} {c : Clause} {e : Failure}

/-! ### Whole queries -/

/-- Alternatives end at the end of the text or in front of a closing parenthesis. -/
theorem Reads.rest_eq {s : List Char} {isFirst : Bool} {items : List Item}
    (h : Reads (.alternatives isFirst) field s items rest) : rest = [] ∨ ∃ u, rest = ')' :: u := by
  cases h with
  | finished h => exact .inl rfl
  | closed h => exact .inr ⟨_, rfl⟩
  | @alternative _ _ _ u middle _ c item others h hc hitem hothers =>
    have hlt : middle.length < s.length := Nat.lt_of_lt_of_le (hitem.length_lt trivial)
      ((alternative_suffix isFirst (c :: u)).trans (h ▸ skipBlanks_suffix s)).length_le
    exact hothers.rest_eq
termination_by s.length

theorem readQuery_eq (field : String) (s : List Char) :
    readQuery field s = (do
      let (items, rest) ← outcome (readAlternatives true field s)
      match skipBlanks rest with
      | c :: rest => .error ⟨.unexpected c, c :: rest⟩
      | [] => .ok ((alternatives? items).getD (.boolean []))) := by
  rw [readQuery]
  cases readAlternatives true field s <;> rfl

/-- A query is parsed exactly if it is not blank and its alternatives are read to the end. -/
theorem parseWith_eq_ok_iff :
    Clause.parseWith field query = .ok c ↔ skipBlanks query.toList ≠ [] ∧
      ∃ items, Reads (.alternatives true) field query.toList items [] ∧
        (alternatives? items).getD (.boolean []) = c := by
  rw [Clause.parseWith, readQuery_eq]
  by_cases hs : skipBlanks query.toList = []
  · simp [hs]
  · have hempty : ¬(skipBlanks query.toList).isEmpty = true := by rwa [List.isEmpty_iff]
    simp only [hempty]
    constructor
    · intro h
      cases hread : outcome (readAlternatives true field query.toList) with
      | error e =>
        rw [hread] at h
        cases h
      | ok p =>
        obtain ⟨items, rest⟩ := p
        rw [hread, ok_bind] at h
        have hreads : Reads (.alternatives true) field query.toList items rest :=
          reads_iff.mpr hread
        obtain rfl | ⟨u, rfl⟩ := hreads.rest_eq
        · exact ⟨hs, items, hreads, Except.ok.inj h⟩
        · cases h
    · rintro ⟨-, items, hreads, rfl⟩
      have hread : outcome (readAlternatives true field query.toList) = .ok (items, []) :=
        hreads.read_eq
      rw [hread]
      rfl

theorem parseWith_eq_error (hs : skipBlanks query.toList ≠ [])
    (h : outcome (readAlternatives true field query.toList) = .error e) :
    Clause.parseWith field query = .error (e.toError query.toList) := by
  rw [Clause.parseWith, readQuery_eq, h]
  simp only [List.isEmpty_iff, if_neg hs]
  rfl

/-! ### Groups -/

/-- The failure of a clause is that of the operand without sign. -/
theorem outcome_readSigned_eq_error (hskip : skipBlanks s = s) (hsign : dropSign? s = none)
    (h : outcome (readPrimary field s) = .error e) : outcome (readSigned field s) = .error e := by
  rw [outcome_readSigned, hskip, hsign]
  dsimp only
  rw [h, error_bind]

/-- A query that is one clause without sign has this clause. -/
theorem parseWith_primary {clause : Option Clause} (hs : OpensPrimary query.toList)
    (h : outcome (readPrimary field query.toList) = .ok (clause, [])) :
    Clause.parseWith field query = .ok (clause.getD (.boolean [])) := by
  have hskip := hs.skipBlanks_eq
  have hbehind : alternative true query.toList = query.toList := rfl
  have hprimary : Reads .primary field query.toList clause [] := reads_iff.mpr h
  have hsigned : Reads .signed field query.toList (clause.map fun c => ⟨none, c⟩) [] :=
    .unsigned (by rw [hskip, hs.dropSign?_eq]) (by rwa [hskip])
  obtain ⟨c, t, ht, -, hparen⟩ := hs.exists_cons
  have halternatives : Reads (.alternatives true) field query.toList _ [] :=
    .alternative (hskip.trans ht) hparen (by rw [← ht, hbehind]; exact .conjunction hsigned (.last rfl))
      (.finished rfl)
  refine parseWith_eq_ok_iff.mpr ⟨by rw [hskip, ht]; exact List.cons_ne_nil _ _, _, halternatives, ?_⟩
  cases clause <;> rfl

theorem parseWith_primary_error (hs : OpensPrimary query.toList)
    (h : outcome (readPrimary field query.toList) = .error e) :
    Clause.parseWith field query = .error (e.toError query.toList) := by
  have hskip := hs.skipBlanks_eq
  have hbehind : alternative true query.toList = query.toList := rfl
  have hsigned : outcome (readSigned field query.toList) = .error e :=
    outcome_readSigned_eq_error hskip hs.dropSign?_eq h
  obtain ⟨c, t, ht, -, hparen⟩ := hs.exists_cons
  refine parseWith_eq_error (by rw [hskip, ht]; exact List.cons_ne_nil _ _) ?_
  rw [readAlternatives_eq (hskip.trans ht) hparen, ← ht, hbehind, outcome_readConjunction, hsigned]
  rfl

/-- A query in parentheses has the clause of the alternatives in them. -/
theorem parseWith_group (hquery : query.toList = '(' :: s)
    (h : outcome (readAlternatives true field s) = .ok (items, [')'])) :
    Clause.parseWith field query = .ok ((alternatives? items).getD (.boolean [])) := by
  refine parseWith_primary (hquery ▸ opensPrimary_paren s) ?_
  rw [hquery]
  exact readPrimary_group h

theorem readPrimary_group_error (h : outcome (readAlternatives true field s) = .error e) :
    outcome (readPrimary field ('(' :: s)) = .error e := by
  have henclosed : outcome (readEnclosed field .group ('(' :: s) s) = .error e := by
    rw [outcome_readEnclosed]
    simp only [h, error_bind]
  rw [outcome_readPrimary]
  exact henclosed

theorem parseWith_group_error (hquery : query.toList = '(' :: s)
    (h : outcome (readAlternatives true field s) = .error e) :
    Clause.parseWith field query = .error (e.toError query.toList) := by
  refine parseWith_primary_error (hquery ▸ opensPrimary_paren s) ?_
  rw [hquery]
  exact readPrimary_group_error h

/-! ### Parentheses around a query -/

/-- A closing parenthesis is no operand. -/
theorem outcome_readSigned_paren (field : String) (s : List Char) :
    outcome (readSigned field (')' :: s)) = .error ⟨.unexpected ')', ')' :: s⟩ := by
  refine outcome_readSigned_eq_error rfl rfl ?_
  rw [outcome_readPrimary]
  rfl

/-- A query that is read to its end is read to the closing parenthesis, unless a sign is waiting for
its operand there. -/
theorem Reads.alternatives_append_paren {t : List Char}
    (h : Reads (.alternatives true) field s items []) (hs : skipBlanks s ≠ [])
    (ht : Extends t [] t) (hskip : skipBlanks t = [')']) :
    outcome (readAlternatives true field (s ++ t)) = .ok (items, [')']) ∨
      Touches t ∧ Dangles (Part.read (.alternatives true) field) field s := by
  have hend : dropAnd? (skipBlanks t) = none := by
    rw [hskip]
    rfl
  have hclosed : outcome (readAlternatives false field t) = .ok ([], [')']) :=
    (Reads.closed hskip).read_eq
  refine (h.alternatives_append (fun he => absurd he hs) ht hend hend).imp_left ?_
  rintro ⟨items', rest', hrest, hitems, hread⟩
  obtain rfl : rest' = t := or_self_iff.mp hrest
  rw [hread, hitems rfl, hclosed, prepend_ok, List.append_nil]

/-- A word in front of the text goes on with the operator, and the alternative behind it is read. -/
theorem extends_or : Extends ['O', 'R', ' ', 'a'] [.plain 'O', .plain 'R'] [' ', 'a'] :=
  ⟨by decide, rfl, by decide⟩

theorem touches_or : Touches ['O', 'R', ' ', 'a'] := ⟨extends_or.interrupts, _, _, rfl, rfl⟩

theorem touches_paren : Touches [')'] := ⟨(extends_of_isBreak rfl []).interrupts, _, _, rfl, rfl⟩

/-- A single letter is read as an alternative, with an operator in front of it or not. -/
theorem exists_reads_letter {t : List Char} (ht : t = ['O', 'R', ' ', 'a'] ∨ t = [' ', 'a'])
    (field : String) : ∃ items, outcome (readAlternatives false field t) = .ok (items, []) := by
  have hword : Reads .primary field ['a'] (Word.clause? field [.plain 'a']) [] :=
    .word (beginsWord_cons rfl rfl) rfl rfl nofun
  have hsigned : ∀ u, skipBlanks u = ['a'] → Reads .signed field u
      ((Word.clause? field [.plain 'a']).map fun c => ⟨none, c⟩) [] := fun u hu =>
    .unsigned (by rw [hu]; rfl) (by rwa [hu])
  have hconjunction : ∀ u, skipBlanks u = ['a'] → Reads .conjunction field u _ [] := fun u hu =>
    .conjunction (hsigned u hu) (.last rfl)
  obtain rfl | rfl := ht
  · exact ⟨_, (Reads.alternative rfl (by decide) (hconjunction [' ', 'a'] rfl)
      (.finished rfl)).read_eq⟩
  · exact ⟨_, (Reads.alternative rfl (by decide) (hconjunction ['a'] rfl) (.finished rfl)).read_eq⟩

/-- An operator between alternatives is no operand. -/
theorem outcome_readSigned_or (field : String) : outcome (readSigned field ['O', 'R', ' ', 'a']) =
    .error ⟨.missingOperand "OR", ['O', 'R', ' ', 'a']⟩ := by
  refine outcome_readSigned_eq_error rfl rfl ?_
  rw [outcome_readPrimary]
  rfl

section parenthesized

variable {q : String}

/-- The clause of a query whose alternatives are read to a closing parenthesis behind blanks. -/
theorem parse_group (blanks : String)
    (h : outcome (readAlternatives true bodyField (q.toList ++ (blanks.toList ++ [')']))) =
      .ok (items, [')'])) :
    Clause.parse ("(" ++ q ++ blanks ++ ")") = .ok ((alternatives? items).getD (.boolean [])) := by
  refine parseWith_group ?_ h
  simp only [String.toList_append, List.append_assoc]
  rfl

/-- A sign that stands alone at the end of a query has no operand in front of a parenthesis. -/
theorem parseWith_group_of_dangles
    (h : Dangles (Part.read (.alternatives true) field) field q.toList) :
    Clause.parseWith field ("(" ++ q ++ ")") =
      .error ⟨.unexpected ')', utf8Length q.toList + 1⟩ := by
  have hquery : ("(" ++ q ++ ")").toList = '(' :: (q.toList ++ [')']) := by
    simp only [String.toList_append]
    rfl
  have hread := h.read_eq _ _ touches_paren (outcome_readSigned_paren field [])
  have hlength : utf8Length ('(' :: (q.toList ++ [')'])) = utf8Length q.toList + 2 := by
    rw [← List.singleton_append, utf8Length_append, utf8Length_append, Nat.add_left_comm]
    rfl
  rw [parseWith_group_error hquery hread, Failure.toError, hquery, hlength]
  rfl

/-- Nor has it one in front of an operator between alternatives. -/
theorem ne_parse_of_dangles {c : Clause}
    (h : Dangles (Part.read (.alternatives true) bodyField) bodyField q.toList) :
    Clause.parse (q ++ "OR a") ≠ .ok c := by
  intro hok
  obtain ⟨-, items, hreads, -⟩ := parseWith_eq_ok_iff.mp hok
  have hread := h.read_eq _ _ touches_or (outcome_readSigned_or bodyField)
  rw [String.toList_append] at hreads
  cases hread.symm.trans hreads.read_eq

/-- An operator between alternatives can stand right behind a query in which no sign waits for its
operand at the end. -/
theorem exists_parse_or (hs : skipBlanks q.toList ≠ [])
    (h : Reads (.alternatives true) bodyField q.toList items []) :
    (∃ c, Clause.parse (q ++ "OR a") = .ok c) ∨
      Dangles (Part.read (.alternatives true) bodyField) bodyField q.toList := by
  refine (h.alternatives_append (fun he => absurd he hs) extends_or rfl rfl).imp ?_ And.right
  rintro ⟨items', rest', hrest, -, hread⟩
  obtain ⟨more, hmore⟩ := exists_reads_letter hrest bodyField
  rw [hmore, prepend_ok] at hread
  refine ⟨_, parseWith_eq_ok_iff.mpr ⟨?_, items' ++ more, ?_, rfl⟩⟩ <;> rw [String.toList_append]
  · exact skipBlanks_append_ne_nil hs _
  · exact reads_iff.mpr hread

end parenthesized

/-- A query that is parsed has the same clause in parentheses if a blank is in front of the closing
one. Without it, it has the clause exactly if an operator between alternatives can stand right behind
the query; otherwise the query ends with a plus or minus, and its operand is missing. -/
theorem parse_parenthesized {q : String} {c : Clause} (h : Clause.parse q = .ok c) :
    (∀ blanks : String, blanks ≠ "" → (∀ b ∈ blanks.toList, isBlank b) →
      Clause.parse ("(" ++ q ++ blanks ++ ")") = .ok c) ∧
    (Clause.parse ("(" ++ q ++ ")") = .ok c ↔ ∃ c', Clause.parse (q ++ "OR a") = .ok c') ∧
    (Clause.parse ("(" ++ q ++ ")") = .ok c ∨
      (∃ b ∈ q.toList.getLast?, b = '+' ∨ b = '-') ∧
        Clause.parse ("(" ++ q ++ ")") = .error ⟨.unexpected ')', utf8Length q.toList + 1⟩) := by
  obtain ⟨hs, items, hreads, rfl⟩ := parseWith_eq_ok_iff.mp h
  have hparen := hreads.alternatives_append_paren hs (t := [')']) (extends_of_isBreak rfl []) rfl
  have hgroup : outcome (readAlternatives true bodyField (q.toList ++ [')'])) = .ok (items, [')']) →
      Clause.parse ("(" ++ q ++ ")") = .ok ((alternatives? items).getD (.boolean [])) := by
    intro hread
    have hempty := parse_group "" hread
    rwa [String.append_empty] at hempty
  refine ⟨fun blanks hne hblanks => ?_, ⟨fun hok => ?_, fun ⟨c', hok⟩ => ?_⟩, ?_⟩
  · obtain ⟨b, u, hb⟩ := List.exists_cons_of_ne_nil fun he => hne (String.toList_eq_nil_iff.mp he)
    have hblank : isBlank b := hblanks b (hb ▸ List.mem_cons_self)
    have hskip : skipBlanks (blanks.toList ++ [')']) = [')'] := by
      rw [skipBlanks, List.dropWhile_append_of_pos hblanks]
      rfl
    have hbreak : Extends (blanks.toList ++ [')']) [] (blanks.toList ++ [')']) := by
      rw [hb]
      exact extends_of_isBreak (by rw [isBreak, hblank, Bool.true_or]) _
    refine parse_group blanks ((hreads.alternatives_append_paren hs hbreak hskip).resolve_right ?_)
    -- no sign belongs to a blank
    rintro ⟨htouches, -⟩
    obtain ⟨d, v, hd, hnotblank⟩ := htouches.exists_cons
    rw [hb] at hd
    cases hd
    exact Bool.false_ne_true (hnotblank.symm.trans hblank)
  · -- a sign that waits at the end fails in both texts
    refine (exists_parse_or hs hreads).resolve_right fun hdangles => ?_
    cases hok.symm.trans (parseWith_group_of_dangles hdangles)
  · exact hgroup (hparen.resolve_right fun hdangles => ne_parse_of_dangles hdangles.2 hok)
  · refine hparen.imp hgroup ?_
    rintro ⟨-, hdangles⟩
    obtain ⟨b, hb, hsign⟩ := hdangles.sign
    exact ⟨⟨b, hb, isSome_attached?_iff.mp hsign⟩, parseWith_group_of_dangles hdangles⟩

set_option maxRecDepth 4000 in
/-- A minus at the end of a word is no sign. -/
theorem parse_parenthesized_minus : ∃ c, Clause.parse "a -b-" = .ok c ∧
    Clause.parse ("(" ++ "a -b-" ++ " " ++ ")") = .ok c ∧
      Clause.parse ("(" ++ "a -b-" ++ ")") = .ok c := by
  have hparse : Clause.parse "a -b-" =
      .ok (.boolean [(.should, .term "body" "a"), (.mustNot, .term "body" "b")]) := by
    with_unfolding_all rfl
  have hor : Clause.parse ("a -b-" ++ "OR a") =
      .ok (.boolean [(.should, .term "body" "a"), (.mustNot, .boolean [(.should, .term "body" "b"),
        (.should, .term "body" "or")]), (.should, .term "body" "a")]) := by
    with_unfolding_all rfl
  have hblank : (" ".toList.all isBlank) = true := by decide
  obtain ⟨hblanks, hiff, -⟩ := parse_parenthesized hparse
  exact ⟨_, hparse, hblanks " " (by decide) (List.all_eq_true.mp hblank), hiff.mpr ⟨_, hor⟩⟩

set_option maxRecDepth 4000 in
/-- A minus that stands alone at the end of a query is one in front of a parenthesis. -/
theorem parse_parenthesized_lone_minus : Clause.parse "a -" = .ok (.term "body" "a") ∧
    Clause.parse ("(" ++ "a -" ++ ")") = .error ⟨.unexpected ')', 4⟩ :=
  ⟨by with_unfolding_all rfl, by with_unfolding_all rfl⟩

end RegistrySearch.Query
