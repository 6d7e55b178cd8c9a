import RegistrySearch.Proofs.Text.Runs
import RegistrySearch.Query.Token

/-!
# Words are read as they are written

A word whose characters stand for themselves (`isBare`) is read up to the character that ends it. A
name in front of a colon is never a keyword, since a keyword has to be followed by a blank, a
parenthesis or the end.
-/

namespace RegistrySearch.Query

open Text (normalize)
open Unicode

/-! ### Characters -/

/-- Whether a character is a letter or digit of ASCII, a point or an underscore. -/
def isNameChar (c : Char) : Bool := c.isAlphanum || c = '.' || c = '_'

/-- A name of a field that needs no escapes. -/
structure IsName (name : String) : Prop where
  toList_ne_nil : name.toList ≠ []
  isNameChar : ∀ c ∈ name.toList, isNameChar c

instance (name : String) : Decidable (IsName name) :=
  decidable_of_iff (name.toList ≠ [] ∧ name.toList.all isNameChar)
    ⟨fun h => ⟨h.1, List.all_eq_true.mp h.2⟩, fun h => ⟨h.1, List.all_eq_true.mpr h.2⟩⟩

/-- Whether a character stands for itself in a word, wherever it is. -/
def isBare (c : Char) : Bool := isAlphanumeric c || c = '.' || c = '_' || c = '*' || c = '?'

theorem toNat_lt_of_isAlphanum {c : Char} (h : c.isAlphanum) : c.toNat < 128 := by
  have hranges : (decide (c.val ≥ 'A'.val ∧ c.val ≤ 'Z'.val) ||
      (c.val ≥ 'a'.val && c.val ≤ 'z'.val) || (c.val ≥ '0'.val && c.val ≤ '9'.val)) = true := h
  simp only [Bool.or_eq_true, Bool.and_eq_true, decide_eq_true_eq, ge_iff_le,
    UInt32.le_iff_toNat_le, Char.reduceVal, UInt32.reduceToNat] at hranges
  change c.val.toNat < 128
  omega

theorem isBare_of_isAlphanumeric {c : Char} (h : isAlphanumeric c) : isBare c := by
  simp only [isBare, h, Bool.true_or]

/-- The bare characters of ASCII. -/
theorem isBare_of_lt {c : Char} (h : c.toNat < 128) :
    isBare c = (isNameChar c || c = '*' || c = '?') := by
  rw [isBare, isAlphanumeric_of_lt h, isNameChar]

theorem isBare_of_isNameChar {c : Char} (h : isNameChar c) : isBare c := by
  have hlt : c.toNat < 128 := by
    simp only [isNameChar, Bool.or_eq_true, decide_eq_true_eq] at h
    obtain (h | rfl) | rfl := h
    · exact toNat_lt_of_isAlphanum h
    · decide
    · decide
  simp only [isBare_of_lt hlt, h, Bool.true_or]

theorem not_isBlank_of_isBare {c : Char} (h : isBare c) : isBlank c = false := by
  simp only [isBare, Bool.or_eq_true, decide_eq_true_eq] at h
  obtain (((h | rfl) | rfl) | rfl) | rfl := h
  · exact not_isBlank_of_isAlphanumeric h
  all_goals rfl

theorem not_isSpecial_of_isBare {c : Char} (h : isBare c) : isSpecial c = false := by
  rw [← Bool.not_eq_true]
  intro hspecial
  simp only [isSpecial, Bool.or_eq_true, decide_eq_true_eq] at hspecial
  have hlt : c.toNat < 128 := by
    obtain ((((((((rfl | rfl) | rfl) | rfl) | rfl) | rfl) | rfl) | rfl) | rfl) | rfl := hspecial
    all_goals decide
  rw [isBare_of_lt hlt] at h
  obtain ((((((((rfl | rfl) | rfl) | rfl) | rfl) | rfl) | rfl) | rfl) | rfl) | rfl := hspecial
  all_goals exact absurd h (by decide)

/-- Whether a character is one of ASCII and not bare. -/
def isMark (d : Char) : Bool := d.toNat < 128 && !(isNameChar d || d = '*' || d = '?')

/-- A bare character is no mark. -/
theorem ne_of_isBare {c d : Char} (h : isBare c) (hd : isMark d) : c ≠ d := by
  rintro rfl
  rw [isMark, Bool.and_eq_true, decide_eq_true_eq, Bool.not_eq_true'] at hd
  rw [isBare_of_lt hd.1, hd.2] at h
  cases h

/-- A name begins with a bare character. -/
theorem IsName.exists_cons {name : String} (h : IsName name) :
    ∃ c t, name.toList = c :: t ∧ isBare c := by
  obtain ⟨c, t, ht⟩ := List.exists_cons_of_ne_nil h.toList_ne_nil
  exact ⟨c, t, ht, isBare_of_isNameChar (h.isNameChar c (ht ▸ List.mem_cons_self))⟩

/-! ### Words -/

theorem skipBlanks_of_not_isBlank {c : Char} {s : List Char} (h : isBlank c = false) :
    skipBlanks (c :: s) = c :: s := by
  rw [skipBlanks, List.dropWhile_cons, h]
  rfl

/-- A word ends in front of a text. -/
def EndsWord (rest : List Char) : Prop := ∀ c ∈ rest.head?, isBlank c || isSpecial c

theorem endsWord_nil : EndsWord [] := by
  intro c hc
  cases hc

theorem endsWord_cons {c : Char} {rest : List Char} (h : isBlank c || isSpecial c) :
    EndsWord (c :: rest) := by
  intro d hd
  obtain rfl := Option.some.inj hd
  exact h

/-- A character that is no escape of another one and does not stand alone is no escape. -/
theorem ne_escape {c : Char} {s : List Char} (hlone : c = '\\' → s = [] → False)
    (hpair : ∀ d u, c = '\\' → s = d :: u → False) : c ≠ '\\' := by
  intro hc
  cases s with
  | nil => exact hlone hc rfl
  | cons d u => exact hpair d u hc rfl

theorem readTyped_cons {c : Char} {s : List Char} (hc : c ≠ '\\') :
    readTyped (c :: s) = if isBlank c || isSpecial c then .ok ([], c :: s) else (do
      let (w, rest) ← readTyped s
      .ok (.plain c :: w, rest)) := by
  rw [readTyped.eq_def]
  split
  · next h => cases h
  · next h => cases h; exact absurd rfl hc
  · next h => cases h; exact absurd rfl hc
  · next h => cases h; rfl

/-- Bare characters are read up to the end of the word. -/
theorem readTyped_bare {w rest : List Char} (h : ∀ c ∈ w, isBare c) (hrest : EndsWord rest) :
    readTyped (w ++ rest) = .ok (w.map .plain, rest) := by
  induction w with
  | nil =>
    cases rest with
    | nil => rfl
    | cons c rest =>
      have hend : (isBlank c || isSpecial c) = true := hrest c rfl
      have hescape : c ≠ '\\' := by
        rintro rfl
        exact absurd hend (by decide)
      rw [List.nil_append, readTyped_cons hescape, if_pos hend, List.map_nil]
  | cons c w ih =>
    have hc := h c List.mem_cons_self
    rw [List.cons_append, readTyped_cons (ne_of_isBare hc (by decide)),
      not_isBlank_of_isBare hc, not_isSpecial_of_isBare hc,
      ih fun d hd => h d (List.mem_cons_of_mem c hd)]
    rfl

/-- A word of bare characters is read in front of a text that ends it. -/
theorem readWord_bare {w rest : List Char} (hne : w ≠ []) (h : ∀ c ∈ w, isBare c)
    (hrest : EndsWord rest) : readWord (w ++ rest) = .ok (w.map .plain, rest) := by
  obtain ⟨c, w, rfl⟩ := List.exists_cons_of_ne_nil hne
  rw [readWord, readTyped_bare h hrest]
  rfl

theorem text_plain (w : List Char) : Word.text (w.map .plain) = String.ofList w := by
  rw [Word.text, List.map_map]
  exact congrArg String.ofList (List.map_id' w)

theorem pattern_plain (w : List Char) : Word.pattern (w.map .plain) = String.ofList w := by
  rw [Word.pattern, List.flatMap_map]
  exact congrArg String.ofList (List.flatMap_singleton' w)

theorem isWildcard_plain (w : List Char) :
    Word.isWildcard (w.map .plain) = w.any fun c => c = '*' || c = '?' := by
  rw [Word.isWildcard, List.any_map]
  rfl

/-- A word without operators that has one term is the clause of the term. -/
theorem clause?_of_analyze {w : List Char} {t : String}
    (hwild : (w.any fun c => c = '*' || c = '?') = false) (h : Text.analyze (String.ofList w) = [t])
    (field : String) : Word.clause? field (w.map .plain) = some (.term field t) := by
  rw [Word.clause?, isWildcard_plain, hwild, text_plain, h]
  rfl

/-- The clause of a term. -/
theorem clause?_term {t : String} (h : Text.IsTerm t) (field : String) :
    Word.clause? field (t.toList.map .plain) = some (.term field t) := by
  refine clause?_of_analyze ?_ (by rw [String.ofList_toList, h.analyze_eq]) field
  rw [List.any_eq_false]
  intro c hc
  have halnum := h.alphanumeric c hc
  simp only [ne_of_isAlphanumeric halnum (d := '*') (by decide) (by decide),
    ne_of_isAlphanumeric halnum (d := '?') (by decide) (by decide), decide_false, Bool.or_self,
    Bool.false_eq_true, not_false_eq_true]

/-- The clause of a pattern in normal form. -/
theorem clause?_wildcard {p : String} (hwild : p.toList.any fun c => c = '*' || c = '?')
    (h : normalize p = p) (field : String) :
    Word.clause? field (p.toList.map .plain) = some (.wildcard field p) := by
  rw [Word.clause?, isWildcard_plain, if_pos hwild, pattern_plain, String.ofList_toList, h]

/-! ### Names and keywords -/

theorem not_isBlank_of_isNameChar {c : Char} (h : isNameChar c) : isBlank c = false :=
  not_isBlank_of_isBare (isBare_of_isNameChar h)

/-- A text without colon in front of a name and a colon is in front of the name. -/
theorem isPrefix_of_isPrefix_colon {word name s : List Char} (hword : ':' ∉ word)
    (h : word <+: name ++ ':' :: s) : word <+: name := by
  refine List.prefix_of_prefix_length_le h (List.prefix_append _ _) ?_
  rw [← Nat.not_lt]
  intro hlt
  obtain ⟨t, ht⟩ := h
  have hget : (word ++ t)[name.length]? = some ':' := by
    rw [ht, List.getElem?_append_right (Nat.le_refl _), Nat.sub_self]
    rfl
  rw [List.getElem?_append_left hlt] at hget
  exact hword (List.mem_of_getElem? hget)

theorem dropWord?_eq_some_iff {word s rest : List Char} :
    dropWord? word s = some rest ↔ s = word ++ rest := by
  rw [dropWord?]
  constructor
  · intro h
    split at h
    · next hprefix =>
      cases h
      exact List.prefix_iff_eq_append.mp (List.isPrefixOf_iff_prefix.mp hprefix)|>.symm
    · cases h
  · rintro rfl
    rw [if_pos (List.isPrefixOf_iff_prefix.mpr (List.prefix_append _ _)), List.drop_left]

/-- No keyword is read off a name: a colon follows it. -/
theorem dropKeyword?_name {word name s : List Char} (hword : ':' ∉ word)
    (hname : ∀ c ∈ name, isNameChar c) : dropKeyword? word (name ++ ':' :: s) = none := by
  cases hdrop : dropWord? word (name ++ ':' :: s) with
  | none => rw [dropKeyword?, hdrop]
  | some rest =>
    have htext := dropWord?_eq_some_iff.mp hdrop
    obtain ⟨t, rfl⟩ := isPrefix_of_isPrefix_colon hword ⟨rest, htext.symm⟩
    rw [List.append_assoc, List.append_cancel_left_eq] at htext
    subst htext
    -- what follows is a character of the name or the colon
    cases t with
    | nil =>
      rw [dropKeyword?, hdrop]
      rfl
    | cons c t =>
      have hc := hname c (List.mem_append_right _ List.mem_cons_self)
      have hparen : c ≠ '(' := ne_of_isBare (isBare_of_isNameChar hc) (by decide)
      rw [dropKeyword?, hdrop, List.cons_append]
      simp only [not_isBlank_of_isNameChar hc, hparen, decide_false, Bool.or_self,
        Bool.false_eq_true, if_false]

theorem dropWord?_of_ne {c d : Char} {word s : List Char} (h : c ≠ d) :
    dropWord? (d :: word) (c :: s) = none := by
  rw [dropWord?, List.isPrefixOf, beq_false_of_ne (Ne.symm h)]
  rfl

/-- No symbol is read off a name. -/
theorem dropWord?_name {name : String} (h : IsName name) {d : Char} (hd : isMark d)
    (symbol s : List Char) : dropWord? (d :: symbol) (name.toList ++ ':' :: s) = none := by
  obtain ⟨c, t, ht, hc⟩ := h.exists_cons
  rw [ht, List.cons_append]
  exact dropWord?_of_ne (ne_of_isBare hc hd)

end RegistrySearch.Query
