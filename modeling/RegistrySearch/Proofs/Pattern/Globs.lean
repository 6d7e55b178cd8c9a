import RegistrySearch.Proofs.Pattern.Anchored

/-!
# Wildcards as expressions

The text that a wildcard pattern is translated to is read back item by item: an escape gives the
character behind it, and no item is repeated but by the star that belongs to it, since no item
begins with an operator of repetition. The expression that comes of it, `Glob.regex`, accepts the
texts that the items stand for.
-/

namespace RegistrySearch.Pattern

/-! ### Reading -/

/-- The flags behind the switch of a translated text: the dot takes line breaks. -/
def dotAllFlags : Flags := { Flags.initial with dotAll := true }

/-- Blanks and remarks are not skipped. -/
theorem dotAllFlags_skip (s : List Char) : dotAllFlags.skip s = s := rfl

namespace GlobItem

/-- The expression of an item. -/
def regex : GlobItem → Regex
  | anyRun => .times (.chars .all) 0 none
  | anyChar => .chars .all
  | literal c => .char c

/-- The piece that an item is read as. -/
def piece : GlobItem → Piece
  | anyRun => (Piece.flat (.chars .all)).times 0 none
  | anyChar => .flat (.chars .all)
  | literal c => .flat (.char c)

theorem regex_piece (item : GlobItem) : item.piece.regex = item.regex := by
  cases item <;> rfl

theorem depth_piece_le (item : GlobItem) : item.piece.depth ≤ 1 := by
  cases item
  · exact Nat.le_refl 1
  · exact Nat.zero_le 1
  · exact Nat.zero_le 1

end GlobItem

/-- Parts next to each other are nested one level deeper at most. -/
theorem Piece.depth_concat_le {parts : List Piece} {n : Nat} (h : ∀ p ∈ parts, p.depth ≤ n) :
    (Piece.concat parts).depth ≤ n + 1 := by
  have hmax : (parts.map (·.depth)).foldr max 0 ≤ n := by
    induction parts with
    | nil => exact Nat.zero_le n
    | cons p parts ih =>
      obtain ⟨hp, hparts⟩ := List.forall_mem_cons.mp h
      exact Nat.max_le.mpr ⟨hp, ih hparts⟩
  rw [Piece.concat]
  refine Nat.add_le_add hmax ?_
  split <;> omega

/-- A text does not begin with an operator of repetition. -/
def BeginsPiece (s : List Char) : Prop :=
  ∀ c ∈ s.head?, c ≠ '*' ∧ c ≠ '+' ∧ c ≠ '?' ∧ c ≠ '{'

section reading

variable {s : List Char}

theorem readRounds?_of_beginsPiece (h : BeginsPiece s) (f : Flags) :
    readRounds? f s = some (none, s) := by
  have hnone : readRepetition f s = some none := by
    unfold readRepetition
    split
    · exact absurd rfl (h '*' rfl).1
    · exact absurd rfl (h '+' rfl).2.1
    · exact absurd rfl (h '?' rfl).2.2.1
    · exact absurd rfl (h '{' rfl).2.2.2
    · rfl
  rw [readRounds?, hnone]
  rfl

/-- A piece that is not repeated. -/
theorem readFollowing_of_beginsPiece (h : BeginsPiece s) (p : Piece) (names : List String) :
    readFollowing dotAllFlags p names s = readAfter dotAllFlags p names s := by
  rw [readFollowing, given_readRepetitions, dotAllFlags_skip, readRounds?_of_beginsPiece h]
  rfl

/-- A piece with a star. -/
theorem readFollowing_star (h : BeginsPiece s) (p : Piece) (names : List String) :
    readFollowing dotAllFlags p names ('*' :: s) =
      readAfter dotAllFlags (p.times 0 none) names s := by
  have hlazy : dropLazy s = s := by
    unfold dropLazy
    split
    · exact absurd rfl (h '?' rfl).2.2.1
    · rfl
  have hstar : readRounds? dotAllFlags ('*' :: s) = some (some (0, none), s) := by
    rw [readRounds?, readRepetition, hlazy]
    rfl
  have hfurther : readFurther dotAllFlags p (some (0, none)) s = some (p.times 0 none, s) := by
    rw [readFurther, given_readRepetitions, dotAllFlags_skip, readRounds?_of_beginsPiece h]
    rfl
  rw [readFollowing, given_readRepetitions, dotAllFlags_skip, hstar, Option.bind_some, hfurther]
  rfl

/-- A character as it is written in an expression is read as the character. -/
theorem readBodyFrom_escapeChar (c : Char) (s : List Char) :
    readBodyFrom dotAllFlags (Glob.escapeChar c ++ s) =
      readFollowing dotAllFlags (.flat (.char c)) [] s := by
  rw [Glob.escapeChar]
  split
  · next hmeta =>
    have hne : ∀ d, isMeta d = false → c ≠ d := by
      rintro d hd rfl
      rw [hd] at hmeta
      cases hmeta
    have hescape : readEscape dotAllFlags (c :: s) = some (.char c, s) := by
      rw [readEscape_eq (hne _ rfl) (hne _ rfl) (hne _ rfl) (hne _ rfl) (hne _ rfl) (hne _ rfl),
        simpleEscape?, isEscapable, hmeta]
      rfl
    rw [List.cons_append, List.singleton_append,
      readBodyFrom_eq (by decide) (by decide) (by decide), given_readAtom, readAtomFrom, hescape]
    rfl
  · next hmeta =>
    have hne : ∀ d, isMeta d = true → c ≠ d := by
      rintro d hd rfl
      exact hmeta hd
    have hatom : readAtomFrom dotAllFlags c s = some (.flat (.char c), s) := by
      rw [readAtomFrom]
      · simp only [hne '*' rfl, hne '+' rfl, hne '?' rfl, hne '{' rfl, decide_false, Bool.or_self,
          Bool.false_eq_true, if_false]
        rfl
      · exact hne '[' rfl
      · exact hne '\\' rfl
      · exact hne '.' rfl
      · exact hne '^' rfl
      · exact hne '$' rfl
    rw [List.singleton_append, readBodyFrom_eq (hne _ rfl) (hne _ rfl) (hne _ rfl),
      given_readAtom, hatom]
    rfl

/-- No item begins with an operator of repetition. -/
theorem beginsPiece_regexChars (items : Glob) :
    BeginsPiece (items.flatMap GlobItem.regexChars ++ ['$']) := by
  intro c hc
  cases items with
  | nil =>
    cases hc
    decide
  | cons item items =>
    cases item with
    | anyRun | anyChar =>
      cases hc
      decide
    | literal d =>
      rw [List.flatMap_cons, GlobItem.regexChars, Glob.escapeChar] at hc
      split at hc
      · cases hc
        decide
      · next hmeta =>
        have hne : ∀ b, isMeta b = true → d ≠ b := by
          rintro b hb rfl
          exact hmeta hb
        cases hc
        exact ⟨hne '*' rfl, hne '+' rfl, hne '?' rfl, hne '{' rfl⟩

/-- **Reading.** Items are read one by one. -/
theorem readBody_regexChars (items : Glob) :
    given (readBody dotAllFlags (items.flatMap GlobItem.regexChars ++ ['$'])) =
      some (⟨items.map GlobItem.piece ++ [.flat (.look .textEnd)], [], []⟩, []) := by
  induction items with
  | nil =>
    have hend : given (readBody dotAllFlags []) = some (.empty, []) := by
      rw [given_readBody]
      rfl
    have hnil : BeginsPiece [] := by
      rintro c ⟨⟩
    rw [given_readBody, dotAllFlags_skip, List.flatMap_nil, List.nil_append,
      readBodyFrom_eq (by decide) (by decide) (by decide), given_readAtom]
    change readFollowing dotAllFlags (.flat (.look .textEnd)) [] [] = _
    rw [readFollowing_of_beginsPiece hnil, readAfter, hend]
    rfl
  | cons item items ih =>
    have hbegins := beginsPiece_regexChars items
    have hafter : ∀ p : Piece, readAfter dotAllFlags p []
        (items.flatMap GlobItem.regexChars ++ ['$']) =
          some (⟨p :: (items.map GlobItem.piece ++ [.flat (.look .textEnd)]), [], []⟩, []) := by
      intro p
      rw [readAfter, ih]
      rfl
    rw [given_readBody, dotAllFlags_skip, List.flatMap_cons, List.append_assoc, List.map_cons,
      List.cons_append]
    cases item with
    | anyRun =>
      rw [GlobItem.regexChars, List.cons_append, List.cons_append, List.nil_append,
        readBodyFrom_eq (by decide) (by decide) (by decide), given_readAtom]
      change readFollowing dotAllFlags (.flat (.chars .all)) [] _ = _
      rw [readFollowing_star hbegins, hafter, GlobItem.piece]
    | anyChar =>
      rw [GlobItem.regexChars, List.cons_append, List.nil_append,
        readBodyFrom_eq (by decide) (by decide) (by decide), given_readAtom]
      change readFollowing dotAllFlags (.flat (.chars .all)) [] _ = _
      rw [readFollowing_of_beginsPiece hbegins, hafter, GlobItem.piece]
    | literal c =>
      rw [GlobItem.regexChars, readBodyFrom_escapeChar, readFollowing_of_beginsPiece hbegins,
        hafter, GlobItem.piece]

/-- The items between the ends of the text. -/
theorem readBody_caret (items : Glob) :
    given (readBody dotAllFlags ('^' :: (items.flatMap GlobItem.regexChars ++ ['$']))) =
      some (⟨.flat (.look .textStart) ::
        (items.map GlobItem.piece ++ [.flat (.look .textEnd)]), [], []⟩, []) := by
  rw [given_readBody, dotAllFlags_skip, readBodyFrom_eq (by decide) (by decide) (by decide),
    given_readAtom]
  change readFollowing dotAllFlags (.flat (.look .textStart)) [] _ = _
  rw [readFollowing_of_beginsPiece (beginsPiece_regexChars items), readAfter, readBody_regexChars]
  rfl

/-- The text of a wildcard pattern begins with the switch of the flags. -/
theorem readBody_wildcardRegexText (pattern : String) :
    given (readBody .initial (wildcardRegexText pattern).toList) =
      some (⟨.flat .empty :: .flat (.look .textStart) ::
        ((Glob.read pattern.toList).map GlobItem.piece ++ [.flat (.look .textEnd)]), [], []⟩,
          []) := by
  have htext : (wildcardRegexText pattern).toList = '(' :: '?' :: 's' :: ')' :: '^' ::
      ((Glob.read pattern.toList).flatMap GlobItem.regexChars ++ ['$']) := by
    rw [wildcardRegexText, String.toList_ofList]
    rfl
  have hskip : ∀ t, Flags.initial.skip t = t := fun _ => rfl
  have hswitch : readBodyFrom .initial (wildcardRegexText pattern).toList =
      (given (readBody dotAllFlags ('^' ::
        ((Glob.read pattern.toList).flatMap GlobItem.regexChars ++ ['$'])))).map
          fun x => (x.1.push (.flat .empty) [], x.2) := by
    rw [htext]
    rfl
  rw [given_readBody, hskip, hswitch, readBody_caret]
  rfl

end reading

/-- The expression of a wildcard pattern: behind the switch of the flags, its items between the ends
of the text. -/
def Glob.regex (items : Glob) : Regex :=
  .concat (.empty :: .look .textStart :: (items.map GlobItem.regex ++ [.look .textEnd]))

/-- **Translation.** The text of a wildcard pattern is read as the expression of its items, in which
next to nothing is nested. -/
theorem wholePiece?_wildcardRegexText (pattern : String) :
    ∃ p, wholePiece? (wildcardRegexText pattern) = some p ∧
      p.regex = (Glob.read pattern.toList).regex ∧ p.depth ≤ 2 := by
  refine ⟨_, by rw [wholePiece?, readBody_wildcardRegexText]; rfl, ?_, ?_⟩
  · have hitems : (Glob.read pattern.toList).map GlobItem.regex =
        (Glob.read pattern.toList).map ((·.regex) ∘ GlobItem.piece) :=
      List.map_congr_left fun item _ => item.regex_piece.symm
    rw [Glob.regex, hitems]
    simp only [Body.toPiece, Piece.concat, Piece.flat, Regex.choice, List.map_cons, List.map_append,
      List.map_map, List.map_nil]
  · have hdepth : ∀ p ∈ Piece.flat .empty :: Piece.flat (.look .textStart) ::
        ((Glob.read pattern.toList).map GlobItem.piece ++ [.flat (.look .textEnd)]),
          p.depth ≤ 1 := by
      simp only [List.mem_cons, List.mem_append, List.mem_map, List.not_mem_nil, or_false]
      rintro p (rfl | rfl | ⟨item, -, rfl⟩ | rfl)
      · exact Nat.zero_le 1
      · exact Nat.zero_le 1
      · exact item.depth_piece_le
      · exact Nat.zero_le 1
    exact Piece.depth_concat_le hdepth

/-! ### Matching -/

namespace Glob

variable {items : Glob} {text : List Char}

theorem matches_nil_iff : Matches [] text ↔ text = [] := by
  constructor
  · intro h
    cases h
    rfl
  · rintro rfl
    exact .nil

/-- A star leaves out as many characters as it takes. -/
theorem matches_anyRun_iff :
    Matches (.anyRun :: items) text ↔ ∃ k ≤ text.length, Matches items (text.drop k) := by
  constructor
  · intro h
    cases h with
    | @anyRun items run rest h =>
      refine ⟨run.length, ?_, by rwa [List.drop_left]⟩
      rw [List.length_append]
      exact Nat.le_add_right _ _
  · rintro ⟨k, -, h⟩
    rw [← List.take_append_drop k text]
    exact .anyRun h

theorem matches_anyChar_iff :
    Matches (.anyChar :: items) text ↔ ∃ c rest, text = c :: rest ∧ Matches items rest := by
  constructor
  · intro h
    cases h with
    | anyChar h => exact ⟨_, _, rfl, h⟩
  · rintro ⟨c, rest, rfl, h⟩
    exact .anyChar h

theorem matches_literal_iff {c : Char} :
    Matches (.literal c :: items) text ↔ ∃ rest, text = c :: rest ∧ Matches items rest := by
  constructor
  · intro h
    cases h with
    | literal h => exact ⟨_, rfl, h⟩
  · rintro ⟨rest, rfl, h⟩
    exact .literal h

end Glob

namespace Regex

variable {text : List Char} {i j : Nat}

theorem matches_chars_all :
    (chars .all).Matches text i j ↔ j = i + 1 ∧ i < text.length := by
  have hall : ∀ c : Char, Unicode.Ranges.all.contains c.toNat := by
    intro c
    have hvalid : c.toNat < 0xD800 ∨ 0xDFFF < c.toNat ∧ c.toNat < 0x110000 := c.valid
    simp only [Unicode.Ranges.all, Unicode.Ranges.single, Unicode.Ranges.contains,
      Unicode.lastCodePoint, List.any_cons, List.any_nil, Bool.or_false, Bool.and_eq_true,
      decide_eq_true_eq]
    omega
  refine and_congr_right fun _ => ?_
  constructor
  · rintro ⟨c, hc, -⟩
    exact (List.getElem?_eq_some_iff.mp hc).1
  · intro hlt
    exact ⟨_, List.getElem?_eq_getElem hlt, hall _⟩

theorem matches_char {c : Char} :
    (char c).Matches text i j ↔ j = i + 1 ∧ text[i]? = some c := by
  have hsingle : ∀ d : Char, (Unicode.Ranges.single c.toNat c.toNat).contains d.toNat ↔ d = c := by
    intro d
    simp only [Unicode.Ranges.single, Unicode.Ranges.contains, List.any_cons, List.any_nil,
      Bool.or_false, Bool.and_eq_true, decide_eq_true_eq]
    constructor
    · intro h
      rw [← Char.ofNat_toNat d, ← Char.ofNat_toNat c, Nat.le_antisymm h.2 h.1]
    · rintro rfl
      exact ⟨Nat.le_refl _, Nat.le_refl _⟩
  refine and_congr_right fun _ => ?_
  simp only [hsingle, exists_eq_right]

/-- Any number of characters, up to the end of the text. -/
theorem matches_anyRun (hi : i ≤ text.length) :
    (times (chars .all) 0 none).Matches text i j ↔ i ≤ j ∧ j ≤ text.length := by
  have hsteps : ∀ k i, i ≤ text.length →
      (Steps (fun i j => (chars .all).Matches text i j) k i j ↔
        j = i + k ∧ i + k ≤ text.length) := by
    intro k
    induction k with
    | zero =>
      intro i hi
      rw [Steps.zero_iff, Nat.add_zero]
      exact (and_iff_left hi).symm
    | succ k ih =>
      intro i hi
      rw [Steps.succ_iff]
      constructor
      · rintro ⟨l, hl, h⟩
        obtain ⟨rfl, hlt⟩ := matches_chars_all.mp hl
        have hrest := (ih (i + 1) hlt).mp h
        omega
      · rintro ⟨rfl, hle⟩
        have hlt : i < text.length := by omega
        exact ⟨i + 1, matches_chars_all.mpr ⟨rfl, hlt⟩, (ih (i + 1) hlt).mpr ⟨by omega, by omega⟩⟩
  constructor
  · rintro ⟨k, -, -, h⟩
    have hk := (hsteps k i hi).mp h
    omega
  · rintro ⟨hij, hj⟩
    refine ⟨j - i, Nat.zero_le _, ?_, (hsteps (j - i) i hi).mpr ⟨by omega, by omega⟩⟩
    rintro m ⟨⟩

/-- Of expressions one after the other the first leads to where the others begin. -/
theorem matches_concat_cons {r : Regex} {rs : List Regex} (hne : rs ≠ []) :
    (concat (r :: rs)).Matches text i j ↔
      ∃ k, r.Matches text i k ∧ (concat rs).Matches text k j := by
  cases rs with
  | nil => exact absurd rfl hne
  | cons s rs => rfl

end Regex

/-- **Matching.** Items in front of the end lead to it from where the rest of the text is what they
stand for. -/
theorem Glob.matches_regex {text : List Char} {items : Glob} {i j : Nat} (hi : i ≤ text.length) :
    (Regex.concat (items.map GlobItem.regex ++ [.look .textEnd])).Matches text i j ↔
      j = text.length ∧ Matches items (text.drop i) := by
  induction items generalizing i with
  | nil =>
    rw [matches_nil_iff, List.drop_eq_nil_iff]
    change (Regex.look .textEnd).Matches text i j ↔ _
    rw [Regex.matches_textEnd hi]
    omega
  | cons item items ih =>
    have hne : items.map GlobItem.regex ++ [.look .textEnd] ≠ [] := by simp
    rw [List.map_cons, List.cons_append, Regex.matches_concat_cons hne]
    -- where a character of the text is, the rest begins with it
    have hcons : ∀ {c : Char}, text[i]? = some c → text.drop i = c :: text.drop (i + 1) := by
      intro c hc
      obtain ⟨hlt, rfl⟩ := List.getElem?_eq_some_iff.mp hc
      exact List.drop_eq_getElem_cons hlt
    cases item with
    | anyRun =>
      rw [matches_anyRun_iff, GlobItem.regex]
      constructor
      · rintro ⟨k, hk, h⟩
        obtain ⟨hik, hk⟩ := (Regex.matches_anyRun hi).mp hk
        obtain ⟨hj, h⟩ := (ih hk).mp h
        refine ⟨hj, k - i, ?_, ?_⟩
        · rw [List.length_drop]
          omega
        · rwa [List.drop_drop, Nat.add_sub_cancel' hik]
      · rintro ⟨hj, k, hk, h⟩
        rw [List.length_drop] at hk
        rw [List.drop_drop] at h
        exact ⟨i + k, (Regex.matches_anyRun hi).mpr ⟨by omega, by omega⟩,
          (ih (by omega)).mpr ⟨hj, h⟩⟩
    | anyChar =>
      rw [matches_anyChar_iff, GlobItem.regex]
      constructor
      · rintro ⟨k, hk, h⟩
        obtain ⟨rfl, hlt⟩ := Regex.matches_chars_all.mp hk
        obtain ⟨hj, h⟩ := (ih hlt).mp h
        exact ⟨hj, _, _, List.drop_eq_getElem_cons hlt, h⟩
      · rintro ⟨hj, c, rest, hrest, h⟩
        have hlt : i < text.length := by
          rw [← Nat.not_le, ← List.drop_eq_nil_iff, hrest]
          exact List.cons_ne_nil c rest
        rw [List.drop_eq_getElem_cons hlt] at hrest
        exact ⟨i + 1, Regex.matches_chars_all.mpr ⟨rfl, hlt⟩,
          (ih hlt).mpr ⟨hj, (List.cons.inj hrest).2 ▸ h⟩⟩
    | literal c =>
      rw [matches_literal_iff, GlobItem.regex]
      constructor
      · rintro ⟨k, hk, h⟩
        obtain ⟨rfl, hc⟩ := Regex.matches_char.mp hk
        obtain ⟨hj, h⟩ := (ih (List.getElem?_eq_some_iff.mp hc).1).mp h
        exact ⟨hj, _, hcons hc, h⟩
      · rintro ⟨hj, rest, hrest, h⟩
        have hc : text[i]? = some c := by
          rw [← List.head?_drop, hrest, List.head?_cons]
        have hdrop := (hcons hc).symm.trans hrest
        exact ⟨i + 1, Regex.matches_char.mpr ⟨rfl, hc⟩,
          (ih (List.getElem?_eq_some_iff.mp hc).1).mpr ⟨hj, (List.cons.inj hdrop).2 ▸ h⟩⟩

theorem Glob.isOrdered_regex (items : Glob) : items.regex.IsOrdered := by
  refine Regex.isOrdered_concat fun r hr => ?_
  simp only [List.mem_cons, List.mem_append, List.mem_map, List.not_mem_nil, or_false] at hr
  obtain rfl | rfl | ⟨item, -, rfl⟩ | rfl := hr
  · trivial
  · trivial
  · cases item with
    | anyRun => exact ⟨trivial, fun m hm => by cases hm⟩
    | anyChar | literal => trivial
  · trivial

/-- **Acceptance.** The expression of items accepts the texts that they stand for. -/
theorem Glob.accepts_regex (items : Glob) (text : List Char) :
    items.regex.accepts text ↔ Matches items text := by
  have hne : items.map GlobItem.regex ++ [.look .textEnd] ≠ [] := by simp
  have hwhole : ∀ {i j}, items.regex.Matches text i j ↔ i = 0 ∧
      (Regex.concat (items.map GlobItem.regex ++ [.look .textEnd])).Matches text 0 j := by
    intro i j
    rw [regex, Regex.matches_concat_cons (List.cons_ne_nil _ _)]
    constructor
    · rintro ⟨k, rfl, h⟩
      obtain ⟨l, hl, h⟩ := (Regex.matches_concat_cons hne).mp h
      obtain ⟨rfl, rfl⟩ := Regex.matches_textStart.mp hl
      exact ⟨rfl, h⟩
    · rintro ⟨rfl, h⟩
      exact ⟨0, rfl, (Regex.matches_concat_cons hne).mpr
        ⟨0, Regex.matches_textStart.mpr ⟨rfl, rfl⟩, h⟩⟩
  simp only [Regex.accepts_iff items.isOrdered_regex, hwhole,
    matches_regex (Nat.zero_le text.length), List.drop_zero]
  constructor
  · rintro ⟨i, j, -, -, -, h⟩
    exact h
  · exact fun h => ⟨0, text.length, Nat.zero_le _, rfl, rfl, h⟩

end RegistrySearch.Pattern
