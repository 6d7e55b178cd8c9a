import RegistrySearch.Proofs.Pattern.Wildcards
import RegistrySearch.Proofs.Query.Continuation
import RegistrySearch.Proofs.Text.Stability

/-!
# Wildcard characters of words

The pattern of a word is brought into normal form as a text, with its escapes in it. Nearly
everything that normalization does to a text leaves its wildcard characters and what escapes them
alone: decomposition, lower case and single blanks neither make nor take away an operator or a
backslash. But a character of which nothing is left leaves its backslash behind, and that takes the
next character that is left.

A text is read by an automaton with one state, whether the next character is escaped (`wilds`), and
two texts play the same role if they drive it alike (`SameRoles`).
-/

namespace RegistrySearch

open Pattern (Glob GlobItem)
open Query (TypedChar Word)
open Unicode

/-- Whether a typed character is a wildcard character, an operator or an escaped one. -/
def Query.TypedChar.isWild (t : TypedChar) : Bool := t.char = '*' || t.char = '?'

/-- The wildcard character that an item of a pattern is written with. -/
def Pattern.GlobItem.wild? : GlobItem → Option TypedChar
  | anyRun => some (.plain '*')
  | anyChar => some (.plain '?')
  | literal c => if c = '*' ∨ c = '?' then some (.escaped c) else none

namespace Text

/-! ### Roles of characters -/

/-- Whether a text escapes what follows it, if it is escaped itself or not. -/
def escapes (isEscaped : Bool) (s : List Char) : Bool :=
  s.foldl (fun isEscaped c => !isEscaped && c = '\\') isEscaped

/-- A character as a wildcard character, if it is one. -/
def wildOf? (isEscaped : Bool) (c : Char) : Option TypedChar :=
  if c = '*' ∨ c = '?' then some (if isEscaped then .escaped c else .plain c) else none

/-- The wildcard characters of a text, in order. -/
def wilds (isEscaped : Bool) : List Char → List TypedChar
  | [] => []
  | c :: s => (wildOf? isEscaped c).toList ++ wilds (!isEscaped && c = '\\') s

variable {e : Bool} {c d : Char} {s t u v : List Char}

theorem escapes_append : escapes e (s ++ t) = escapes (escapes e s) t := List.foldl_append

theorem wilds_append : wilds e (s ++ t) = wilds e s ++ wilds (escapes e s) t := by
  induction s generalizing e with
  | nil => rfl
  | cons c s ih =>
    rw [List.cons_append, wilds, wilds, ih, List.append_assoc]
    rfl

theorem wilds_cons_escape : wilds e ('\\' :: s) = wilds (!e) s := by
  cases e <;> rfl

theorem wilds_cons_of_ne (h : c ≠ '\\') :
    wilds e (c :: s) = (wildOf? e c).toList ++ wilds false s := by
  rw [wilds, decide_eq_false h, Bool.and_false]

/-- The wildcard characters of a text are those of the items that it is read as. -/
theorem wilds_eq_filterMap_read (s : List Char) :
    wilds false s = (Glob.read s).filterMap GlobItem.wild? := by
  fun_induction Glob.read s with
  | case1 => rfl
  | case2 => rfl
  | case3 c rest ih =>
    have hnext : wilds true (c :: rest) = (wildOf? true c).toList ++ wilds false rest := rfl
    rw [wilds_cons_escape, Bool.not_false, hnext, ih, List.filterMap_cons, wildOf?, GlobItem.wild?]
    split <;> rfl
  | case4 c rest hlone hpair ih =>
    have hescape : c ≠ '\\' := by
      rintro rfl
      cases rest with
      | nil => exact hlone rfl rfl
      | cons d rest => exact hpair d rest rfl rfl
    rw [wilds_cons_of_ne hescape, ih, List.filterMap_cons]
    by_cases hstar : c = '*'
    · subst hstar
      rfl
    · rw [if_neg hstar]
      by_cases hquestion : c = '?'
      · subst hquestion
        rfl
      · have hwild : ¬(c = '*' ∨ c = '?') := not_or.mpr ⟨hstar, hquestion⟩
        rw [if_neg hquestion, wildOf?, if_neg hwild, GlobItem.wild?, if_neg hwild]
        rfl

/-! ### Texts that play the same role -/

/-- Two texts have the same wildcard characters, and escape alike what follows them. -/
def SameRoles (s t : List Char) : Prop := ∀ e, wilds e s = wilds e t ∧ escapes e s = escapes e t

namespace SameRoles

theorem refl (s : List Char) : SameRoles s s := fun _ => ⟨rfl, rfl⟩

theorem symm (h : SameRoles s t) : SameRoles t s := fun e => ⟨(h e).1.symm, (h e).2.symm⟩

theorem trans (h : SameRoles s t) (h' : SameRoles t u) : SameRoles s u := fun e =>
  ⟨(h e).1.trans (h' e).1, (h e).2.trans (h' e).2⟩

theorem append (h : SameRoles s t) (h' : SameRoles u v) : SameRoles (s ++ u) (t ++ v) := by
  intro e
  rw [wilds_append, wilds_append, escapes_append, escapes_append, (h e).1, (h e).2,
    (h' (escapes e t)).1, (h' (escapes e t)).2]
  exact ⟨rfl, rfl⟩

/-- Characters that play the same roles make texts that do. -/
theorem of_forall₂ (h : List.Forall₂ (fun c d => SameRoles [c] [d]) s t) : SameRoles s t := by
  induction h with
  | nil => exact refl []
  | cons hcd _ ih => exact hcd.append ih

end SameRoles

/-- A text of characters that stand for themselves has no wildcard character, and escapes what
follows if it is empty and escaped itself. -/
theorem wilds_of_forall (h : ∀ c ∈ s, c ∉ operators) (e : Bool) :
    wilds e s = [] ∧ escapes e s = (e && s.isEmpty) := by
  induction s generalizing e with
  | nil => exact ⟨rfl, (Bool.and_true e).symm⟩
  | cons c s ih =>
    have hc := h c List.mem_cons_self
    simp only [operators, List.mem_cons, List.not_mem_nil, or_false, not_or] at hc
    obtain ⟨hwilds, hescapes⟩ := ih (fun d hd => h d (List.mem_cons_of_mem c hd)) false
    have hwild : wildOf? e c = none := if_neg (not_or.mpr ⟨hc.1, hc.2.1⟩)
    have hnext : escapes e (c :: s) = escapes (!e && c = '\\') s := rfl
    rw [wilds_cons_of_ne hc.2.2, hwild, hwilds, hnext, decide_eq_false hc.2.2, Bool.and_false,
      hescapes]
    exact ⟨rfl, (Bool.and_false e).symm⟩

/-- Texts of characters that stand for themselves play the same role, if both have some or none. -/
theorem sameRoles_of_forall (hs : ∀ c ∈ s, c ∉ operators) (ht : ∀ c ∈ t, c ∉ operators)
    (h : s.isEmpty = t.isEmpty) : SameRoles s t := by
  intro e
  rw [(wilds_of_forall hs e).1, (wilds_of_forall ht e).1, (wilds_of_forall hs e).2,
    (wilds_of_forall ht e).2, h]
  exact ⟨rfl, rfl⟩

/-! ### Decomposition -/

/-- Whether nothing of a character is left in normal form. -/
def vanishes (c : Char) : Bool := (decompose c).all isDiacritic

/-- What stands for something else in patterns is left as it is by all steps of normalization. -/
theorem spec_of_mem_operators (h : c ∈ operators) :
    decompose c = [c] ∧ isDiacritic c = false ∧ combiningClass c = 0 ∧ isBlank c = false ∧
      lowercase c = [c] ∧ c ≠ 'Σ' := by
  simp only [operators, List.mem_cons, List.not_mem_nil, or_false] at h
  have hclass : c.toNat < 0x80 ∧ (c.toNat < 0x41 ∨ 0x5A < c.toNat) := by
    obtain rfl | rfl | rfl := h <;> decide
  have hsettled : IsSettled [c] := isSettled_of_lt fun d hd => List.mem_singleton.mp hd ▸ hclass
  have hc : c ∈ [c] := List.mem_singleton_self c
  refine ⟨hsettled.decompose_eq c hc, hsettled.not_isDiacritic c hc, ?_, ?_, hsettled.lower_eq c hc⟩
  · rw [combiningClass, if_pos (by omega)]
  · obtain rfl | rfl | rfl := h <;> rfl

theorem not_vanishes_of_mem_operators (h : c ∈ operators) : vanishes c = false := by
  obtain ⟨hdecompose, hdiacritic, -⟩ := spec_of_mem_operators h
  rw [vanishes, hdecompose, List.all_cons, hdiacritic, Bool.false_and]

/-- What is left of a character plays the role of the character, unless it vanishes. -/
theorem sameRoles_filter_decompose (c : Char) :
    SameRoles ((decompose c).filter fun d => !isDiacritic d) ([c].filter fun d => !vanishes d) := by
  by_cases hoperator : c ∈ operators
  · obtain ⟨hdecompose, hdiacritic, -⟩ := spec_of_mem_operators hoperator
    rw [hdecompose, List.filter_cons_of_pos (by rw [hdiacritic]; rfl),
      List.filter_cons_of_pos (by rw [not_vanishes_of_mem_operators hoperator]; rfl)]
    exact SameRoles.refl [c]
  · refine sameRoles_of_forall (fun d hd hd' => ?_) (fun d hd hd' => ?_) ?_
    · rw [eq_of_mem_decompose (List.mem_of_mem_filter hd) hd'] at hd'
      exact hoperator hd'
    · rw [List.mem_singleton.mp (List.mem_of_mem_filter hd)] at hd'
      exact hoperator hd'
    · rw [Bool.eq_iff_iff, List.isEmpty_iff, List.isEmpty_iff, List.filter_eq_nil_iff,
        List.filter_eq_nil_iff]
      simp [vanishes]

theorem sameRoles_filter_flatMap (s : List Char) :
    SameRoles ((s.flatMap decompose).filter fun d => !isDiacritic d)
      (s.filter fun c => !vanishes c) := by
  induction s with
  | nil => exact SameRoles.refl []
  | cons c s ih =>
    have hcons : (c :: s).filter (fun c => !vanishes c) =
        [c].filter (fun c => !vanishes c) ++ s.filter fun c => !vanishes c :=
      List.filter_append [c] s
    rw [List.flatMap_cons, List.filter_append, hcons]
    exact (sameRoles_filter_decompose c).append ih

/-! ### Order, case and blanks -/

/-- Marks that change places stand for themselves. -/
theorem notMem_operators_of_combiningClass_ne_zero (h : combiningClass c ≠ 0) : c ∉ operators :=
  fun hc => h (spec_of_mem_operators hc).2.2.1

/-- A mark plays the same role wherever it is put in. -/
theorem sameRoles_filter_insertMark (p : Char → Bool) (c : Char) (s : List Char) :
    SameRoles ((insertMark c s).filter p) ((c :: s).filter p) := by
  induction s with
  | nil => exact SameRoles.refl _
  | cons d s ih =>
    rw [insertMark]
    split
    · next hlt =>
      have hd : d ∉ operators := notMem_operators_of_combiningClass_ne_zero hlt.1
      have hc : c ∉ operators := notMem_operators_of_combiningClass_ne_zero (by omega)
      have hinert : ∀ {a b : Char}, a ∉ operators → b ∉ operators →
          ∀ x ∈ [a, b].filter p, x ∉ operators := by
        intro a b ha hb x hx
        obtain rfl | hx := List.mem_cons.mp (List.mem_of_mem_filter hx)
        · exact ha
        · exact List.mem_singleton.mp hx ▸ hb
      have hswap : SameRoles ([d, c].filter p) ([c, d].filter p) := by
        refine sameRoles_of_forall (hinert hd hc) (hinert hc hd) ?_
        rw [Bool.eq_iff_iff, List.isEmpty_iff, List.isEmpty_iff, List.filter_eq_nil_iff,
          List.filter_eq_nil_iff]
        simp [and_comm]
      have hfirst : SameRoles ((d :: insertMark c s).filter p) ((d :: c :: s).filter p) := by
        have happend := (SameRoles.refl ([d].filter p)).append ih
        rwa [← List.filter_append, ← List.filter_append] at happend
      have hsecond : SameRoles ((d :: c :: s).filter p) ((c :: d :: s).filter p) := by
        have happend := hswap.append (SameRoles.refl (s.filter p))
        rwa [← List.filter_append, ← List.filter_append] at happend
      exact hfirst.trans hsecond
    · exact SameRoles.refl _

theorem sameRoles_filter_orderMarks (p : Char → Bool) (s : List Char) :
    SameRoles ((orderMarks s).filter p) (s.filter p) := by
  induction s with
  | nil => exact SameRoles.refl _
  | cons c s ih =>
    refine (sameRoles_filter_insertMark p c (orderMarks s)).trans ?_
    have happend := (SameRoles.refl ([c].filter p)).append ih
    rwa [← List.filter_append, ← List.filter_append] at happend

/-- A character plays the role of its lower-case form. -/
theorem sameRoles_of_isLower (hc : decompose c = [c]) (h : IsLower c d) : SameRoles [c] [d] := by
  by_cases hoperator : c ∈ operators
  · obtain ⟨-, -, -, -, hlower, hsigma⟩ := spec_of_mem_operators hoperator
    obtain rfl : c = d := by
      obtain heq | ⟨heq, -⟩ := h
      · exact List.singleton_inj.mp (hlower.symm.trans heq)
      · exact absurd heq hsigma
    exact SameRoles.refl [c]
  · refine sameRoles_of_forall (fun a ha => ?_) (fun a ha hd => ?_) rfl
    · rwa [List.mem_singleton.mp ha]
    · rw [List.mem_singleton.mp ha] at hd
      rw [h.eq_of_not_isAlphanumeric hc (not_isAlphanumeric_of_mem_operators hd)] at hd
      exact hoperator hd

/-- The lower-case form of the letters of a text plays the role of the characters that are left. -/
theorem sameRoles_lower_letters (s : List Char) :
    SameRoles (lower (letters s)) (s.filter fun c => !vanishes c) := by
  have hlower : SameRoles (letters s) (lower (letters s)) :=
    SameRoles.of_forall₂ <| forall₂_imp_of_mem (forall₂_lower_letters s) fun c d hc h =>
      sameRoles_of_isLower (decompose_of_mem_decomposed (List.mem_of_mem_filter hc)) h
  have hletters : SameRoles (letters s) ((s.flatMap decompose).filter fun d => !isDiacritic d) :=
    sameRoles_filter_orderMarks _ _
  exact hlower.symm.trans (hletters.trans (sameRoles_filter_flatMap s))

/-- A blank ends an escape, and is nothing else. -/
theorem wilds_cons_blank (h : isBlank c) (e : Bool) (s : List Char) :
    wilds e (c :: s) = wilds false s := by
  have hc : c ∉ operators := by
    intro hoperator
    rw [(spec_of_mem_operators hoperator).2.2.2.1] at h
    cases h
  have hsingle : ∀ d ∈ [c], d ∉ operators := fun d hd => List.mem_singleton.mp hd ▸ hc
  have happend : wilds e ([c] ++ s) = wilds e [c] ++ wilds (escapes e [c]) s := wilds_append
  rw [List.singleton_append] at happend
  rw [happend, (wilds_of_forall hsingle e).1, (wilds_of_forall hsingle e).2, List.isEmpty_cons,
    Bool.and_false, List.nil_append]

/-- Single blanks between the words of a text leave its wildcard characters as they are. -/
theorem wilds_intercalate_words (s : List Char) :
    wilds false ([' '].intercalate (words s)) = wilds false s := by
  -- the characters of the current run are in front of what is still to be cut
  have hfrom : ∀ current,
      wilds false ([' '].intercalate (runsFrom (fun c => !isBlank c) current s)) =
        wilds false (current.reverse ++ s) := by
    induction s with
    | nil =>
      intro current
      rw [runsFrom, List.append_nil]
      split
      · next h =>
        rw [List.isEmpty_iff.mp h]
        rfl
      · rw [List.intercalate_singleton]
    | cons c s ih =>
      intro current
      rw [runsFrom]
      split
      · next hc =>
        rw [ih (c :: current), List.reverse_cons, List.append_assoc, List.singleton_append]
      · next hc =>
        have hblank : isBlank c := by simpa using hc
        split
        · next h => rw [ih [], List.isEmpty_iff.mp h, List.reverse_nil, List.nil_append,
            List.nil_append, wilds_cons_blank hblank]
        · have hrest := ih []
          rw [List.reverse_nil, List.nil_append] at hrest
          rw [wilds_append, wilds_cons_blank hblank, ← hrest]
          cases runsFrom (fun c => !isBlank c) [] s with
          | nil =>
            rw [List.intercalate_singleton]
            exact (List.append_nil _).symm
          | cons w ws =>
            rw [List.intercalate_cons_cons, List.append_assoc, wilds_append, List.singleton_append,
              wilds_cons_blank (by rfl)]
  exact hfrom []

/-- **Normalization.** The wildcard characters of a text in normal form are those of the characters
that do not vanish. -/
theorem wilds_normalizeChars (s : List Char) :
    wilds false (normalizeChars s) = wilds false (s.filter fun c => !vanishes c) := by
  have hnormal : normalizeChars s = [' '].intercalate (words (lower (letters s))) := rfl
  rw [hnormal, wilds_intercalate_words, (sameRoles_lower_letters s false).1]

end Text

/-! ### Words -/

namespace Query

open Text (escapes wilds wildOf? vanishes)

/-- What is left of a word in its pattern, before the case is lowered. -/
def Word.kept (w : Word) : List Char := (w.flatMap TypedChar.typed).filter fun c => !vanishes c

/-- Whether what is left of a word escapes what follows it. -/
def Word.leavesEscape (w : Word) : Bool := escapes false w.kept

variable {w : Word} {t : TypedChar} {e : Bool}

theorem Word.kept_cons (t : TypedChar) (w : Word) :
    Word.kept (t :: w) = Word.kept [t] ++ w.kept := by
  rw [Word.kept, List.flatMap_cons, List.filter_append, Word.kept, List.flatMap_singleton,
    Word.kept]

theorem TypedChar.char_of_isWild (h : t.isWild) : t.char = '*' ∨ t.char = '?' := by
  rwa [isWild, Bool.or_eq_true, decide_eq_true_eq, decide_eq_true_eq] at h

/-- A wildcard character is left as it was typed. -/
theorem kept_of_isWild (h : t.isWild) : Word.kept [t] = t.typed := by
  have hoperator : t.char ∈ Unicode.operators := by
    obtain hc | hc := t.char_of_isWild h <;> rw [hc] <;> decide
  rw [Word.kept, List.flatMap_singleton, List.filter_eq_self]
  intro d hd
  rw [Bool.not_eq_true']
  cases t with
  | plain c =>
    rw [List.mem_singleton.mp hd]
    exact Text.not_vanishes_of_mem_operators hoperator
  | escaped c =>
    obtain rfl | hd := List.mem_cons.mp hd
    · exact Text.not_vanishes_of_mem_operators (by decide)
    · rw [List.mem_singleton.mp hd]
      exact Text.not_vanishes_of_mem_operators hoperator

/-- A wildcard character is read as some wildcard character, and as the one that was typed exactly
if nothing in front of it escapes what was typed. Behind it nothing is escaped. -/
theorem exists_wilds_of_isWild (h : t.isWild) (e : Bool) :
    ∃ u, wilds e (Word.kept [t]) = [u] ∧ (u = t ↔ e = false) ∧
      escapes e (Word.kept [t]) = false := by
  rw [kept_of_isWild h]
  cases t with
  | plain c =>
    have hchar : c = '*' ∨ c = '?' := TypedChar.char_of_isWild h
    obtain rfl | rfl := hchar <;> cases e
    all_goals exact ⟨_, rfl, by decide, rfl⟩
  | escaped c =>
    have hchar : c = '*' ∨ c = '?' := TypedChar.char_of_isWild h
    obtain rfl | rfl := hchar <;> cases e
    all_goals exact ⟨_, rfl, by decide, rfl⟩

/-- Of any other character that was typed nothing is read as a wildcard character. -/
theorem wilds_kept_eq_nil (h : t.isWild = false) (e : Bool) : wilds e (Word.kept [t]) = [] := by
  have hwild : ¬(t.char = '*' ∨ t.char = '?') := by
    intro hchar
    rw [TypedChar.isWild, Bool.or_eq_false_iff, decide_eq_false_iff_not,
      decide_eq_false_iff_not] at h
    exact hchar.elim h.1 h.2
  have hone : ∀ (e : Bool) (s : List Char), (∀ d ∈ s, d = '\\' ∨ d = t.char) → wilds e s = [] := by
    intro e s hs
    induction s generalizing e with
    | nil => rfl
    | cons d s ih =>
      have hd : wildOf? e d = none := by
        refine if_neg ?_
        obtain rfl | rfl := hs d List.mem_cons_self
        · decide
        · exact hwild
      rw [wilds, hd, ih _ fun d hd => hs d (List.mem_cons_of_mem _ hd)]
      rfl
  refine hone e _ fun d hd => ?_
  have htyped := List.mem_of_mem_filter hd
  rw [List.flatMap_singleton] at htyped
  cases t with
  | plain c => exact .inr (List.mem_singleton.mp htyped)
  | escaped c =>
    obtain hd | hd := List.mem_cons.mp htyped
    · exact .inl hd
    · exact .inr (List.mem_singleton.mp hd)

/-- The cuts of a word in front of its wildcard characters, of one with another character in front.
-/
theorem forall_cuts_cons (t : TypedChar) (w : Word) (P : Word → Prop) :
    (∀ (front : Word) u back, t :: w = front ++ u :: back → u.isWild → P front) ↔
      (t.isWild → P []) ∧
        ∀ (front : Word) u back, w = front ++ u :: back → u.isWild → P (t :: front) := by
  constructor
  · intro h
    refine ⟨h [] t w rfl, fun front u back hw => h (t :: front) u back ?_⟩
    rw [hw, List.cons_append]
  · rintro ⟨hnil, hcons⟩ front u back hw hu
    cases front with
    | nil =>
      cases hw
      exact hnil hu
    | cons v front =>
      cases hw
      exact hcons front u back rfl hu

/-- **Words.** When characters are lost, the wildcard characters of a word are still those that were
typed exactly if what is left in front of each of them does not escape it. -/
theorem wilds_kept_iff (w : Word) (e : Bool) :
    wilds e w.kept = w.filter TypedChar.isWild ↔
      ∀ (front : Word) u back, w = front ++ u :: back → u.isWild →
        escapes e front.kept = false := by
  induction w generalizing e with
  | nil =>
    refine iff_of_true rfl fun front t back h => ?_
    exact absurd h.symm (List.append_ne_nil_of_right_ne_nil front (List.cons_ne_nil t back))
  | cons t w ih =>
    have hrest : ∀ front : Word, escapes (escapes e (Word.kept [t])) front.kept =
        escapes e (Word.kept (t :: front)) := by
      intro front
      rw [Word.kept_cons t front, Text.escapes_append]
    have ih := ih (escapes e (Word.kept [t]))
    simp only [hrest] at ih
    rw [forall_cuts_cons t w fun front => escapes e front.kept = false, ← ih, Word.kept_cons,
      Text.wilds_append]
    cases ht : t.isWild with
    | true =>
      obtain ⟨u, hu, hsame, hescapes⟩ := exists_wilds_of_isWild ht e
      have hnil : escapes e (Word.kept []) = e := rfl
      rw [hu, hescapes, List.filter_cons_of_pos ht, List.singleton_append, List.cons.injEq, hsame,
        hnil]
      simp only [forall_const]
    | false =>
      rw [wilds_kept_eq_nil ht, List.nil_append, List.filter_cons_of_neg (by simp [ht])]
      simp only [Bool.false_eq_true, false_imp_iff, true_and]

/-- A word that escapes no character that vanishes escapes nothing behind it. -/
theorem leavesEscape_eq_false (hplain : .plain '\\' ∉ w)
    (h : ∀ c, .escaped c ∈ w → vanishes c = false) : w.leavesEscape = false := by
  rw [Word.leavesEscape]
  induction w with
  | nil => rfl
  | cons t w ih =>
    have ih := ih (fun hw => hplain (List.mem_cons_of_mem t hw))
      fun c hc => h c (List.mem_cons_of_mem t hc)
    have hfirst : escapes false (Word.kept [t]) = false := by
      cases t with
      | plain c =>
        have hc : c ≠ '\\' := by
          rintro rfl
          exact hplain List.mem_cons_self
        have hnone : escapes false [c] = false := decide_eq_false hc
        rw [Word.kept, List.flatMap_singleton, TypedChar.typed, List.filter_cons]
        split
        · exact hnone
        · rfl
      | escaped c =>
        have hkept : ['\\', c].filter (fun d => !vanishes d) = ['\\', c] := by
          rw [List.filter_eq_self]
          intro d hd
          rw [Bool.not_eq_true']
          obtain rfl | hd := List.mem_cons.mp hd
          · exact Text.not_vanishes_of_mem_operators (by decide)
          · exact List.mem_singleton.mp hd ▸ h c List.mem_cons_self
        rw [Word.kept, List.flatMap_singleton, TypedChar.typed, hkept]
        rfl
    rw [Word.kept_cons, Text.escapes_append, hfirst, ih]

/-- What is read of a text is what was typed of it, and no backslash stands for itself. -/
theorem eq_typed_append_of_readTyped {s rest : List Char} (h : readTyped s = .ok (w, rest)) :
    s = w.flatMap TypedChar.typed ++ rest ∧ .plain '\\' ∉ w := by
  fun_induction readTyped s generalizing w rest with
  | case1 =>
    cases h
    exact ⟨rfl, List.not_mem_nil⟩
  | case2 => cases h
  | case3 c s ih =>
    obtain ⟨⟨w, r⟩, hread, h⟩ := bind_eq_ok_iff.mp h
    cases h
    obtain ⟨htext, hplain⟩ := ih hread
    refine ⟨congrArg (fun s => '\\' :: c :: s) htext, fun hmem => ?_⟩
    obtain hmem | hmem := List.mem_cons.mp hmem
    · cases hmem
    · exact hplain hmem
  | case4 c s hlone hpair hends =>
    cases h
    exact ⟨rfl, List.not_mem_nil⟩
  | case5 c s hlone hpair hends ih =>
    obtain ⟨⟨w, r⟩, hread, h⟩ := bind_eq_ok_iff.mp h
    cases h
    obtain ⟨htext, hplain⟩ := ih hread
    refine ⟨congrArg (c :: ·) htext, fun hmem => ?_⟩
    obtain hmem | hmem := List.mem_cons.mp hmem
    · cases hmem
      exact ne_escape hlone hpair rfl
    · exact hplain hmem

/-- The wildcard characters of the pattern of a word are those of what is left of it. -/
theorem filterMap_wild?_read_pattern (w : Word) :
    (Glob.read (Text.normalize w.pattern).toList).filterMap GlobItem.wild? =
      wilds false w.kept := by
  rw [← Text.wilds_eq_filterMap_read, Text.normalize, String.toList_ofList,
    Text.wilds_normalizeChars, Word.pattern, String.toList_ofList, Word.kept]

/-- **Wildcard characters.** A word with an operator is a clause with a pattern. The pattern has the
wildcard characters that were typed, operators and escaped ones, exactly if what is left in front of
each of them does not escape it, so always if no character is escaped that vanishes. -/
theorem wilds_of_readWord {s rest : List Char} (h : readWord s = .ok (w, rest))
    (hwild : w.isWildcard) (field : String) :
    s = w.flatMap TypedChar.typed ++ rest ∧
      ∃ pattern, w.clause? field = some (.wildcard field pattern) ∧
        ((Glob.read pattern.toList).filterMap GlobItem.wild? = w.filter TypedChar.isWild ↔
          ∀ (front : Word) t back, w = front ++ t :: back → t.isWild → front.leavesEscape = false) ∧
        ((∀ c, .escaped c ∈ w → vanishes c = false) →
          (Glob.read pattern.toList).filterMap GlobItem.wild? = w.filter TypedChar.isWild) := by
  obtain ⟨htyped, -⟩ := readWord_eq_ok_iff.mp h
  obtain ⟨htext, hplain⟩ := eq_typed_append_of_readTyped htyped
  have hclause : w.clause? field = some (.wildcard field (Text.normalize w.pattern)) := by
    rw [Word.clause?, if_pos hwild]
  refine ⟨htext, Text.normalize w.pattern, hclause, ?_, fun hvanishes => ?_⟩
  · rw [filterMap_wild?_read_pattern]
    exact wilds_kept_iff w false
  · rw [filterMap_wild?_read_pattern, wilds_kept_iff]
    rintro front t back rfl -
    refine leavesEscape_eq_false (fun hmem => hplain (List.mem_append_left _ hmem)) fun c hc => ?_
    exact hvanishes c (List.mem_append_left _ hc)

set_option maxRecDepth 4000 in
/-- A word with two operators and an escaped star. -/
theorem wilds_of_readWord_portal :
    readWord "Por?al\\*s*".toList = .ok ([.plain 'P', .plain 'o', .plain 'r', .plain '?',
        .plain 'a', .plain 'l', .escaped '*', .plain 's', .plain '*'], []) ∧
      ∃ pattern, Word.clause? "name" [.plain 'P', .plain 'o', .plain 'r', .plain '?',
        .plain 'a', .plain 'l', .escaped '*', .plain 's', .plain '*'] =
          some (.wildcard "name" pattern) ∧
        (Glob.read pattern.toList).filterMap GlobItem.wild? =
          [.plain '?', .escaped '*', .plain '*'] := by
  have hread : readWord "Por?al\\*s*".toList = .ok ([.plain 'P', .plain 'o', .plain 'r', .plain '?',
      .plain 'a', .plain 'l', .escaped '*', .plain 's', .plain '*'], []) := by
    with_unfolding_all rfl
  obtain ⟨-, pattern, hclause, -, hwilds⟩ := wilds_of_readWord hread (by decide) "name"
  refine ⟨hread, pattern, hclause, hwilds fun c hc => ?_⟩
  simp only [List.mem_cons, List.not_mem_nil, or_false, reduceCtorEq, false_or,
    TypedChar.escaped.injEq] at hc
  subst hc
  exact Text.not_vanishes_of_mem_operators (by decide)

set_option maxRecDepth 8000 in
/-- The backslash of an accent takes what stands behind the accent: in one pattern an operator that
was typed is a literal, in the other one an escaped star is an operator. -/
theorem wilds_of_escaped_accent :
    (readWord "cafe\\\u0301*".toList = .ok ([.plain 'c', .plain 'a', .plain 'f', .plain 'e',
        .escaped '\u0301', .plain '*'], []) ∧
      Clause.parse "name:cafe\\\u0301*" = .ok (.wildcard "name" "cafe\\*") ∧
      (Glob.read "cafe\\*".toList).filterMap GlobItem.wild? = [.escaped '*']) ∧
    readWord "?\\\u0301\\*".toList = .ok ([.plain '?', .escaped '\u0301', .escaped '*'], []) ∧
      Clause.parse "name:?\\\u0301\\*" = .ok (.wildcard "name" "?\\\\*") ∧
      (Glob.read "?\\\\*".toList).filterMap GlobItem.wild? = [.plain '?', .plain '*'] := by
  refine ⟨⟨?_, ?_, by decide⟩, ?_, ?_, by decide⟩
  all_goals with_unfolding_all rfl

end Query

end RegistrySearch
