import RegistrySearch.Proofs.Text.Runs
import RegistrySearch.Proofs.Unicode.Ordering

/-!
# Terms that are analyzed again

A term is in normal form: analyzed again, none of its characters changes (`IsSettled`). It is cut,
though, where normalizing has left a mark that is no part of words: the decompositions of some
letters have a mark that is neither alphanumeric nor taken off as a diacritic, such as the voiced
mark of kana or the nukta of Devanagari. A text whose letters have no such mark has terms that are
their own terms.
-/

namespace RegistrySearch.Text

open Unicode

/-! ### Lower-case forms -/

/-- What stands on the right of a relation of lists has a partner on the left. -/
private theorem exists_of_forall₂_right {α β : Type} {related : α → β → Prop} {xs : List α}
    {ys : List β} (h : List.Forall₂ related xs ys) {y : β} (hy : y ∈ ys) :
    ∃ x ∈ xs, related x y := by
  induction h with
  | nil => cases hy
  | cons hxy _ ih =>
    rcases List.mem_cons.mp hy with rfl | hy
    · exact ⟨_, List.mem_cons_self, hxy⟩
    · obtain ⟨x, hx, hr⟩ := ih hy
      exact ⟨x, List.mem_cons_of_mem _ hx, hr⟩

/-- A relation of lists may be replaced by what it says of their elements. -/
theorem forall₂_imp_of_mem {α β : Type} {related related' : α → β → Prop} {xs : List α}
    {ys : List β} (h : List.Forall₂ related xs ys)
    (himp : ∀ x y, x ∈ xs → related x y → related' x y) : List.Forall₂ related' xs ys := by
  induction h with
  | nil => exact .nil
  | cons hxy _ ih =>
    exact .cons (himp _ _ List.mem_cons_self hxy)
      (ih fun x y hx => himp x y (List.mem_cons_of_mem _ hx))

/-- The lower-case form of a decomposed text, character by character. -/
theorem forall₂_lower {s : List Char} (h : ∀ c ∈ s, decompose c = [c]) :
    List.Forall₂ IsLower s (lower s) := by
  have hfrom : ∀ afterCased, List.Forall₂ IsLower s (lowerFrom afterCased s) := by
    induction s with
    | nil => exact fun _ => .nil
    | cons c s ih =>
      intro afterCased
      have hs := ih fun d hd => h d (List.mem_cons_of_mem c hd)
      rw [lowerFrom]
      split
      · next hsigma =>
        refine .cons ?_ (hs _)
        split
        · exact .inr ⟨hsigma, rfl⟩
        · exact .inl (hsigma ▸ lowercase_sigma)
      · obtain ⟨d, hd⟩ := exists_lowercase (h c List.mem_cons_self)
        rw [hd]
        exact .cons (.inl hd) (hs _)
  exact hfrom false

/-- A text of lower-case characters is its own lower-case form. -/
theorem lower_eq_self {s : List Char} (h : ∀ c ∈ s, lowercase c = [c] ∧ c ≠ 'Σ') : lower s = s := by
  have hfrom : ∀ afterCased, lowerFrom afterCased s = s := by
    induction s with
    | nil => exact fun _ => rfl
    | cons c s ih =>
      intro afterCased
      obtain ⟨hlower, hsigma⟩ := h c List.mem_cons_self
      rw [lowerFrom, if_neg hsigma, hlower, ih fun d hd => h d (List.mem_cons_of_mem c hd),
        List.singleton_append]
  exact hfrom false

/-! ### Settled texts -/

/-- A text that is its own normal form, blanks aside. -/
structure IsSettled (s : List Char) : Prop where
  decompose_eq : ∀ c ∈ s, decompose c = [c]
  ordered : IsOrdered s
  not_isDiacritic : ∀ c ∈ s, isDiacritic c = false
  lower_eq : ∀ c ∈ s, lowercase c = [c] ∧ c ≠ 'Σ'

theorem IsSettled.of_part {s t : List Char} (h : IsSettled s) (ht : t <:+: s) : IsSettled t where
  decompose_eq c hc := h.decompose_eq c (ht.subset hc)
  ordered := h.ordered.infix ht
  not_isDiacritic c hc := h.not_isDiacritic c (ht.subset hc)
  lower_eq c hc := h.lower_eq c (ht.subset hc)

/-- A text of ASCII without capital letters is settled. -/
theorem isSettled_of_lt {s : List Char}
    (h : ∀ c ∈ s, c.toNat < 0x80 ∧ (c.toNat < 0x41 ∨ 0x5A < c.toNat)) : IsSettled s where
  decompose_eq c hc := decompose_of_lt (by have := h c hc; omega)
  ordered := by
    refine (List.pairwise_of_forall_mem_list fun _ _ d hd => .inl ?_).isChain
    have hlt := (h d hd).1
    rw [combiningClass, if_pos (by omega)]
  not_isDiacritic c hc := by
    have hlt := (h c hc).1
    rw [← Bool.not_eq_true]
    simp only [isDiacritic, Bool.or_eq_true, Bool.and_eq_true, decide_eq_true_eq]
    omega
  lower_eq c hc := by
    obtain ⟨hlt, hcapital⟩ := h c hc
    refine ⟨lowercase_of_lt hlt hcapital, ?_⟩
    rintro rfl
    exact absurd hlt (by decide)

/-- The letters of a text: its decomposed form without diacritics. -/
def letters (s : List Char) : List Char := (decomposed s).filter fun c => !isDiacritic c

theorem mem_letters {s : List Char} {e : Char} :
    e ∈ letters s ↔ (∃ c ∈ s, e ∈ decompose c) ∧ isDiacritic e = false := by
  rw [letters, List.mem_filter, mem_decomposed, Bool.not_eq_true']

/-- The normal form of a text without blanks is the lower-case form of its letters. -/
theorem normalizeChars_eq {s : List Char} (h : ∀ c ∈ lower (letters s), isBlank c = false) :
    normalizeChars s = lower (letters s) := by
  have hwords : ∀ c ∈ lower (letters s), (fun c => !isBlank c) c := fun c hc => by
    simpa using h c hc
  rw [normalizeChars, ← letters, words]
  by_cases hne : lower (letters s) = []
  · rw [hne]
    rfl
  · rw [runs_word hne hwords, List.intercalate_singleton]

/-- A settled text without blanks is its own normal form. -/
theorem IsSettled.normalizeChars_eq_of_not_isBlank {s : List Char} (h : IsSettled s)
    (hblank : ∀ c ∈ s, isBlank c = false) : normalizeChars s = s := by
  have hletters : letters s = s := by
    rw [letters, decomposed_eq_self h.decompose_eq h.ordered, List.filter_eq_self]
    intro c hc
    rw [h.not_isDiacritic c hc]
    rfl
  have hlower : lower (letters s) = s := by rw [hletters, lower_eq_self h.lower_eq]
  rw [Text.normalizeChars_eq, hlower]
  rwa [hlower]

/-- A settled word is its own normal form. -/
theorem IsSettled.normalizeChars_eq {s : List Char} (h : IsSettled s)
    (halnum : ∀ c ∈ s, isAlphanumeric c) : normalizeChars s = s :=
  h.normalizeChars_eq_of_not_isBlank fun c hc => not_isBlank_of_isAlphanumeric (halnum c hc)

/-! ### Normal forms of words -/

/-- The letters of a text have a lower-case form character by character. -/
theorem forall₂_lower_letters (s : List Char) :
    List.Forall₂ IsLower (letters s) (lower (letters s)) :=
  forall₂_lower fun _ hc => decompose_of_mem_decomposed (List.mem_of_mem_filter hc)

section word

variable {w : List Char}

/-- A character of a lower-case form is that of a letter. -/
theorem exists_of_mem_lower_letters {d : Char} (h : d ∈ lower (letters w)) :
    ∃ e ∈ letters w, IsLower e d :=
  exists_of_forall₂_right (forall₂_lower_letters w) h

/-- Every letter has a lower-case form. -/
theorem exists_mem_lower_letters {e : Char} (h : e ∈ letters w) :
    ∃ d ∈ lower (letters w), IsLower e d :=
  exists_of_forall₂_right (forall₂_lower_letters w).flip h

/-- Nothing in the lower-case form of the letters of a word is blank. -/
theorem not_isBlank_of_mem_lower_letters (hw : ∀ c ∈ w, isAlphanumeric c) {d : Char}
    (hd : d ∈ lower (letters w)) : isBlank d = false := by
  obtain ⟨e, he, hlower⟩ := exists_of_mem_lower_letters hd
  obtain ⟨⟨c, hc, hec⟩, -⟩ := mem_letters.mp he
  have hblank := (decompose_of_isAlphanumeric (hw c hc) hec).1
  obtain ⟨-, -, -, -, -, -, hd⟩ := hlower.spec (decompose_of_mem_decompose hec)
  rw [← Bool.not_eq_true] at hblank ⊢
  exact mt hd hblank

/-- The normal form of a word is the lower-case form of its letters. -/
theorem normalizeChars_word (hw : ∀ c ∈ w, isAlphanumeric c) :
    normalizeChars w = lower (letters w) :=
  normalizeChars_eq fun _ => not_isBlank_of_mem_lower_letters hw

/-- The letters of a word are in order. -/
theorem isOrdered_letters (hw : ∀ c ∈ w, isAlphanumeric c) : IsOrdered (letters w) := by
  -- what is taken out are diacritics, and they have a class
  refine (isOrdered_orderMarks _).filter fun e he hdiacritic => ?_
  obtain ⟨c, hc, hec⟩ := mem_decomposed.mp he
  exact combiningClass_ne_zero_of_mem_decompose (hw c hc) hec (by simpa using hdiacritic)

/-- **Normal forms.** The normal form of a word is settled. -/
theorem isSettled_normalizeChars (hw : ∀ c ∈ w, isAlphanumeric c) :
    IsSettled (normalizeChars w) := by
  rw [normalizeChars_word hw]
  have hspec {d : Char} (hd : d ∈ lower (letters w)) :
      decompose d = [d] ∧ lowercase d = [d] ∧ d ≠ 'Σ' ∧ isDiacritic d = false := by
    obtain ⟨e, he, hlower⟩ := exists_of_mem_lower_letters hd
    obtain ⟨⟨c, -, hec⟩, hdiacritic⟩ := mem_letters.mp he
    obtain ⟨hdecompose, hd, hsigma, -, -, hmark, -⟩ :=
      hlower.spec (decompose_of_mem_decompose hec)
    refine ⟨hdecompose, hd, hsigma, ?_⟩
    rw [← Bool.not_eq_true] at hdiacritic ⊢
    exact mt hmark hdiacritic
  exact {
    decompose_eq := fun d hd => (hspec hd).1
    ordered := by
      refine (isOrdered_letters hw).of_forall₂ ?_
      refine forall₂_imp_of_mem (forall₂_lower_letters w) fun e d he hlower => ?_
      obtain ⟨⟨c, -, hec⟩, -⟩ := mem_letters.mp he
      exact (hlower.spec (decompose_of_mem_decompose hec)).2.2.2.2.1
    not_isDiacritic := fun d hd => (hspec hd).2.2.2
    lower_eq := fun d hd => ⟨(hspec hd).2.1, (hspec hd).2.2.1⟩ }

end word

/-- A character of ASCII that is no capital letter and not blank is left in the normal form. -/
theorem mem_normalizeChars_of_lt {s : List Char} {c : Char} (h : c ∈ s)
    (hlt : c.toNat < 0x80 ∧ (c.toNat < 0x41 ∨ 0x5A < c.toNat)) (hblank : isBlank c = false) :
    c ∈ normalizeChars s := by
  have hsettled : IsSettled [c] := isSettled_of_lt fun d hd => List.mem_singleton.mp hd ▸ hlt
  have hc : c ∈ [c] := List.mem_singleton_self c
  have hletter : c ∈ letters s := by
    refine mem_letters.mpr ⟨⟨c, h, ?_⟩, hsettled.not_isDiacritic c hc⟩
    rw [hsettled.decompose_eq c hc]
    exact hc
  obtain ⟨hlowercase, hsigma⟩ := hsettled.lower_eq c hc
  obtain ⟨d, hd, hlower⟩ := exists_mem_lower_letters hletter
  obtain rfl : c = d := by
    obtain heq | ⟨heq, -⟩ := hlower
    · exact List.singleton_inj.mp (hlowercase.symm.trans heq)
    · exact absurd heq hsigma
  have hflat : c ∈ (words (lower (letters s))).flatten := by
    rw [words, flatten_runs]
    exact List.mem_filter.mpr ⟨hd, by rw [hblank]; rfl⟩
  obtain ⟨w, hw, hcw⟩ := List.mem_flatten.mp hflat
  exact mem_intercalate_of_mem hw hcw

/-! ### Terms of terms -/

variable {s t : String}

/-- The terms of a settled text are its runs. -/
theorem IsSettled.analyze_eq {t : List Char} (h : IsSettled t) :
    analyze (String.ofList t) = (runs isAlphanumeric t).map String.ofList := by
  have hnormal : (runs isAlphanumeric t).map normalizeChars = runs isAlphanumeric t := by
    refine (List.map_congr_left fun r hr => ?_).trans (List.map_id _)
    obtain ⟨-, hall, hpart⟩ := mem_runs hr
    exact (h.of_part hpart).normalizeChars_eq hall
  have hne : (runs isAlphanumeric t).filter (fun r => !r.isEmpty) = runs isAlphanumeric t := by
    rw [List.filter_eq_self]
    intro r hr
    simpa using (mem_runs hr).1
  rw [analyze, String.toList_ofList, analyzeChars, hnormal, hne]

/-- A term is the normal form of a run of its text, of which something is left. -/
theorem mem_analyze_iff : t ∈ analyze s ↔
    ∃ w ∈ runs isAlphanumeric s.toList, t.toList = normalizeChars w ∧ t.toList ≠ [] := by
  simp only [analyze, analyzeChars, List.mem_map, List.mem_filter]
  constructor
  · rintro ⟨_, ⟨⟨w, hw, rfl⟩, hne⟩, rfl⟩
    refine ⟨w, hw, ?_, ?_⟩
    · rw [String.toList_ofList]
    · rw [String.toList_ofList]
      simpa using hne
  · rintro ⟨w, hw, ht, hne⟩
    refine ⟨_, ⟨⟨w, hw, rfl⟩, ?_⟩, ?_⟩
    · simpa [← ht] using hne
    · rw [← ht, String.ofList_toList]

/-- A word has no term but its normal form. -/
theorem eq_of_mem_analyze_word {w : List Char} (hne : w ≠ []) (hw : ∀ c ∈ w, isAlphanumeric c)
    (h : t ∈ analyze (String.ofList w)) : t.toList = normalizeChars w ∧ t.toList ≠ [] := by
  obtain ⟨u, hu, hterm, hterm'⟩ := mem_analyze_iff.mp h
  rw [String.toList_ofList, runs_word hne hw] at hu
  rw [List.mem_singleton.mp hu] at hterm
  exact ⟨hterm, hterm'⟩

/-- **Terms.** Analyzing a term again changes no character of it: its terms are its runs. -/
theorem analyze_of_mem_analyze (h : t ∈ analyze s) :
    analyze t = (runs isAlphanumeric t.toList).map String.ofList := by
  obtain ⟨w, hw, ht, -⟩ := mem_analyze_iff.mp h
  have hsettled : IsSettled t.toList := ht ▸ isSettled_normalizeChars (mem_runs hw).2.1
  rw [← hsettled.analyze_eq, String.ofList_toList]

/-- A term is its only term if it has no mark that cuts it. -/
theorem analyze_eq_singleton_of_mem_analyze (h : t ∈ analyze s) :
    analyze t = [t] ↔ ∀ c ∈ t.toList, isAlphanumeric c := by
  rw [analyze_of_mem_analyze h]
  constructor
  · intro hruns
    have hmem : t ∈ (runs isAlphanumeric t.toList).map String.ofList := by
      rw [hruns]
      exact List.mem_singleton_self t
    obtain ⟨r, hr, rfl⟩ := List.mem_map.mp hmem
    rw [String.toList_ofList] at hr ⊢
    exact (mem_runs hr).2.1
  · intro hall
    obtain ⟨-, -, -, hne⟩ := mem_analyze_iff.mp h
    rw [runs_word hne hall, List.map_singleton, String.ofList_toList]

/-- **Stability.** The terms of a text are their own terms exactly if each of its letters and digits
decomposes to alphanumeric characters and diacritics alone. -/
theorem analyze_eq_singleton_iff (s : String) :
    (∀ t ∈ analyze s, analyze t = [t]) ↔
      ∀ c ∈ s.toList, isAlphanumeric c → ∀ e ∈ decompose c, isAlphanumeric e ∨ isDiacritic e := by
  constructor
  · intro h c hc halnum e he
    by_contra hmark
    rw [not_or, Bool.not_eq_true, Bool.not_eq_true] at hmark
    -- the word of the character has a term with the mark in it
    have hflat : c ∈ (runs isAlphanumeric s.toList).flatten := by
      rw [flatten_runs]
      exact List.mem_filter.mpr ⟨hc, halnum⟩
    obtain ⟨w, hw, hcw⟩ := List.mem_flatten.mp hflat
    obtain ⟨d, hd, hlower⟩ := exists_mem_lower_letters (mem_letters.mpr ⟨⟨c, hcw, he⟩, hmark.2⟩)
    have hterm := normalizeChars_word (mem_runs hw).2.1
    have hmem : String.ofList (normalizeChars w) ∈ analyze s := by
      refine mem_analyze_iff.mpr ⟨w, hw, String.toList_ofList, ?_⟩
      rw [String.toList_ofList, hterm]
      exact List.ne_nil_of_mem hd
    have hall := (analyze_eq_singleton_of_mem_analyze hmem).mp (h _ hmem) d
    rw [String.toList_ofList, hterm] at hall
    have hsame := (hlower.spec (decompose_of_mem_decompose he)).2.2.2.1
    rw [hall hd, hmark.1] at hsame
    cases hsame
  · intro h t ht
    rw [analyze_eq_singleton_of_mem_analyze ht]
    obtain ⟨w, hw, htw, -⟩ := mem_analyze_iff.mp ht
    obtain ⟨-, halnum, hpart⟩ := mem_runs hw
    intro d hd
    rw [htw, normalizeChars_word halnum] at hd
    obtain ⟨e, he, hlower⟩ := exists_of_mem_lower_letters hd
    obtain ⟨⟨c, hc, hec⟩, hdiacritic⟩ := mem_letters.mp he
    rw [(hlower.spec (decompose_of_mem_decompose hec)).2.2.2.1]
    refine (h c (hpart.subset hc) (halnum c hc) e hec).resolve_right ?_
    rw [hdiacritic]
    decide

/-- The voiced mark of a kana: a term that is cut, and loses the mark, when it is analyzed again. -/
theorem analyze_voiced :
    analyze "\u304C" = ["\u304B\u3099"] ∧ analyze "\u304B\u3099" = ["\u304B"] := by
  decide +kernel

end RegistrySearch.Text
