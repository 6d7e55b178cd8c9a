import RegistrySearch.Proofs.Unicode.Alphanumeric
import RegistrySearch.Text.Token

/-!
# Runs and terms

A text that is put together from words and separators is cut into these words again: the runs of
texts that do not run together (`IsCut`) are those of the parts. A run stands between what is in
front of it and behind it (`IsRun`), and its normal form is a term of the text.

A text that is its only term (`IsTerm`) is alphanumeric and in normal form, so that terms with
blanks between them are the terms of that text.
-/

namespace RegistrySearch.Text

open Unicode (isAlphanumeric)

section runs

variable {inWord : Char → Bool} {w s : List Char} {c : Char}

theorem runsFrom_append (h : ∀ c ∈ w, inWord c) (current : List Char) :
    runsFrom inWord current (w ++ s) = runsFrom inWord (w.reverse ++ current) s := by
  induction w generalizing current with
  | nil => rfl
  | cons c w ih =>
    have hc := h c List.mem_cons_self
    rw [List.cons_append, runsFrom, if_pos hc, ih fun d hd => h d (List.mem_cons_of_mem c hd),
      List.reverse_cons, List.append_assoc, List.singleton_append]

/-- A word is its only run. -/
theorem runs_word (hne : w ≠ []) (h : ∀ c ∈ w, inWord c) : runs inWord w = [w] := by
  have happend := runsFrom_append (s := []) h []
  rw [List.append_nil, List.append_nil] at happend
  rw [runs, happend, runsFrom, if_neg (by simpa using hne), List.reverse_reverse]

/-- A word in front of a separator is the first run. -/
theorem runs_word_append (hne : w ≠ []) (h : ∀ c ∈ w, inWord c) (hc : inWord c = false) :
    runs inWord (w ++ c :: s) = w :: runs inWord s := by
  rw [runs, runsFrom_append h, runsFrom, hc, if_neg (by decide), List.append_nil,
    if_neg (by simpa using hne), List.reverse_reverse, runs]

/-- A separator cuts a text in two. -/
theorem runs_append_cons (hc : inWord c = false) (t : List Char) :
    runs inWord (s ++ c :: t) = runs inWord s ++ runs inWord t := by
  have hfrom : ∀ current, runsFrom inWord current (s ++ c :: t) =
      runsFrom inWord current s ++ runs inWord t := by
    induction s with
    | nil =>
      intro current
      simp only [List.nil_append, runsFrom, hc, Bool.false_eq_true, if_false]
      split <;> rfl
    | cons d s ih =>
      intro current
      rw [List.cons_append, runsFrom, runsFrom]
      split
      · exact ih (d :: current)
      · split
        · exact ih []
        · rw [ih [], List.cons_append]
  exact hfrom []

/-- Two texts do not run together: not both characters at the cut between them are of words. -/
def IsCut (inWord : Char → Bool) (s t : List Char) : Prop :=
  ∀ c ∈ s.getLast?, ∀ d ∈ t.head?, inWord c → inWord d = false

/-- The runs of texts that do not run together are those of one and then those of the other. -/
theorem runs_append {t : List Char} (h : IsCut inWord s t) :
    runs inWord (s ++ t) = runs inWord s ++ runs inWord t := by
  obtain rfl | ⟨s, c, rfl⟩ := List.eq_nil_or_concat s
  · rfl
  rw [List.concat_eq_append] at h ⊢
  cases hc : inWord c with
  | false =>
    have hlast : runs inWord (s ++ [c]) = runs inWord s ++ [] := runs_append_cons hc []
    rw [List.append_assoc, List.singleton_append, runs_append_cons hc, hlast, List.append_nil]
  | true =>
    cases t with
    | nil => rw [List.append_nil]; exact (List.append_nil _).symm
    | cons d t =>
      have hd : inWord d = false := h c List.getLast?_concat d rfl hc
      have hfirst : runs inWord (d :: t) = runs inWord t := runs_append_cons (s := []) hd t
      rw [runs_append_cons hd, hfirst]

private theorem mem_runsFrom {current r : List Char} (h : ∀ c ∈ current, inWord c)
    (hr : r ∈ runsFrom inWord current s) :
    r ≠ [] ∧ (∀ c ∈ r, inWord c) ∧ r <:+: current.reverse ++ s := by
  induction s generalizing current with
  | nil =>
    rw [runsFrom] at hr
    split at hr
    · cases hr
    · next hne =>
      rw [List.mem_singleton.mp hr, List.append_nil]
      exact ⟨by simpa using hne, fun c hc => h c (List.mem_reverse.mp hc), List.infix_rfl⟩
  | cons c s ih =>
    rw [runsFrom] at hr
    split at hr
    · next hc =>
      have hrun := ih (List.forall_mem_cons.mpr ⟨hc, h⟩) hr
      rwa [List.reverse_cons, List.append_assoc, List.singleton_append] at hrun
    · have hrest : r ∈ runsFrom inWord [] s →
          r ≠ [] ∧ (∀ c ∈ r, inWord c) ∧ r <:+: current.reverse ++ c :: s := fun hr => by
        obtain ⟨hne, hall, hpart⟩ := ih (fun c hc => absurd hc List.not_mem_nil) hr
        refine ⟨hne, hall, hpart.trans ?_⟩
        exact (List.suffix_cons c s).isInfix.trans (List.suffix_append _ _).isInfix
      split at hr
      · exact hrest hr
      · next hne =>
        rcases List.mem_cons.mp hr with rfl | hr
        · exact ⟨by simpa using hne, fun c hc => h c (List.mem_reverse.mp hc),
            (List.prefix_append _ _).isInfix⟩
        · exact hrest hr

/-- A run is a word that is a part of the text. -/
theorem mem_runs {r : List Char} (hr : r ∈ runs inWord s) :
    r ≠ [] ∧ (∀ c ∈ r, inWord c) ∧ r <:+: s :=
  mem_runsFrom (fun _ hc => absurd hc List.not_mem_nil) hr

/-- The runs have all characters of words. -/
theorem flatten_runs : (runs inWord s).flatten = s.filter inWord := by
  have hfrom : ∀ current, (runsFrom inWord current s).flatten =
      current.reverse ++ s.filter inWord := by
    induction s with
    | nil =>
      intro current
      rw [runsFrom]
      split
      · next h => simp [List.isEmpty_iff.mp h]
      · simp
    | cons c s ih =>
      intro current
      rw [runsFrom]
      split
      · next hc => rw [ih, List.filter_cons_of_pos hc]; simp
      · next hc =>
        rw [List.filter_cons_of_neg hc]
        split
        · next h => rw [ih, List.isEmpty_iff.mp h]
        · rw [List.flatten_cons, ih]; simp
  exact hfrom []

/-- A run of a text: a word that goes on neither in front of it nor behind it. -/
structure IsRun (inWord : Char → Bool) (before w after : List Char) : Prop where
  ne_nil : w ≠ []
  all : ∀ c ∈ w, inWord c
  before : ∀ c ∈ before.getLast?, inWord c = false
  after : ∀ c ∈ after.head?, inWord c = false

theorem IsRun.mem_runs {before after : List Char} (h : IsRun inWord before w after) :
    w ∈ runs inWord (before ++ (w ++ after)) := by
  have hafter : w ∈ runs inWord (w ++ after) := by
    cases after with
    | nil =>
      rw [List.append_nil, runs_word h.ne_nil h.all]
      exact List.mem_singleton_self w
    | cons c after =>
      rw [runs_word_append h.ne_nil h.all (h.after c rfl)]
      exact List.mem_cons_self
  obtain rfl | ⟨before, c, rfl⟩ := List.eq_nil_or_concat before
  · exact hafter
  · rw [List.concat_eq_append] at h ⊢
    rw [List.append_assoc, List.singleton_append,
      runs_append_cons (h.before c List.getLast?_concat)]
    exact List.mem_append_right _ hafter

/-- The runs of words with separators between them are these words. -/
theorem runs_intercalate (hc : inWord c = false) {words : List (List Char)}
    (h : ∀ w ∈ words, w ≠ [] ∧ ∀ c ∈ w, inWord c) :
    runs inWord ([c].intercalate words) = words := by
  induction words with
  | nil => rfl
  | cons w words ih =>
    obtain ⟨hne, hw⟩ := h w List.mem_cons_self
    have hwords := ih fun v hv => h v (List.mem_cons_of_mem w hv)
    cases words with
    | nil => rw [List.intercalate_singleton, runs_word hne hw]
    | cons v words =>
      rw [List.intercalate_cons_cons, List.append_assoc, List.singleton_append,
        runs_word_append hne hw hc, hwords]

/-- A character of words with separators between them is a separator or stands in a word. -/
theorem mem_intercalate {d : Char} {words : List (List Char)} (h : d ∈ [c].intercalate words) :
    d = c ∨ ∃ w ∈ words, d ∈ w := by
  induction words with
  | nil => cases h
  | cons w words ih =>
    cases words with
    | nil =>
      rw [List.intercalate_singleton] at h
      exact .inr ⟨w, List.mem_cons_self, h⟩
    | cons v words =>
      rw [List.intercalate_cons_cons, List.mem_append, List.mem_append, List.mem_singleton] at h
      obtain (hd | hd) | hd := h
      · exact .inr ⟨w, List.mem_cons_self, hd⟩
      · exact .inl hd
      · obtain rfl | ⟨u, hu, hmem⟩ := ih hd
        · exact .inl rfl
        · exact .inr ⟨u, List.mem_cons_of_mem w hu, hmem⟩

theorem mem_intercalate_of_mem {d : Char} {words : List (List Char)} (hw : w ∈ words) (hd : d ∈ w) :
    d ∈ [c].intercalate words := by
  induction words with
  | nil => cases hw
  | cons v words ih =>
    cases words with
    | nil => rwa [List.intercalate_singleton, ← List.mem_singleton.mp hw]
    | cons u words =>
      rw [List.intercalate_cons_cons]
      rcases List.mem_cons.mp hw with rfl | hw
      · exact List.mem_append_left _ (List.mem_append_left _ hd)
      · exact List.mem_append_right _ (ih hw)

end runs

/-! ### Terms -/

/-- The terms of the tokens of a text are its terms. -/
theorem map_term_tokenize (s : String) : (tokenize s).map (·.term) = analyze s := by
  rw [tokenize, List.map_map]
  exact List.zipIdx_map_fst 0 _

/-- A text is its only term, and alphanumeric. -/
structure IsTerm (t : String) : Prop where
  alphanumeric : ∀ c ∈ t.toList, isAlphanumeric c
  analyze_eq : analyze t = [t]

instance (t : String) : Decidable (IsTerm t) :=
  decidable_of_iff (t.toList.all isAlphanumeric ∧ analyze t = [t])
    ⟨fun h => ⟨List.all_eq_true.mp h.1, h.2⟩, fun h => ⟨List.all_eq_true.mpr h.1, h.2⟩⟩

namespace IsTerm

variable {t : String}

theorem toList_ne_nil (h : IsTerm t) : t.toList ≠ [] := by
  intro hnil
  have hanalyze := h.analyze_eq
  rw [analyze, hnil] at hanalyze
  cases hanalyze

/-- A term is in normal form. -/
theorem normalizeChars_eq (h : IsTerm t) : normalizeChars t.toList = t.toList := by
  have hanalyze := h.analyze_eq
  rw [analyze, analyzeChars, runs_word h.toList_ne_nil h.alphanumeric, List.map_singleton,
    List.filter_cons] at hanalyze
  split at hanalyze
  · have hnormal : String.ofList (normalizeChars t.toList) = t := (List.cons.inj hanalyze).1
    rw [← String.toList_inj, String.toList_ofList] at hnormal
    exact hnormal
  · cases hanalyze

end IsTerm

/-- The normal form of a run is a term of its text, unless nothing is left of it. -/
theorem mem_analyze {before w after : List Char} (h : IsRun isAlphanumeric before w after)
    (hnormal : normalizeChars w ≠ []) :
    String.ofList (normalizeChars w) ∈ analyze (String.ofList (before ++ (w ++ after))) := by
  rw [analyze, String.toList_ofList, analyzeChars]
  refine List.mem_map_of_mem (List.mem_filter.mpr ⟨List.mem_map_of_mem h.mem_runs, ?_⟩)
  simpa using hnormal

/-- A word is its only term. -/
theorem analyze_word {w : List Char} (hne : w ≠ []) (h : ∀ c ∈ w, isAlphanumeric c)
    (hnormal : normalizeChars w ≠ []) :
    analyze (String.ofList w) = [String.ofList (normalizeChars w)] := by
  rw [analyze, String.toList_ofList, analyzeChars, runs_word hne h, List.map_singleton,
    List.filter_cons_of_pos (by simpa using hnormal), List.filter_nil, List.map_singleton]

/-- **Concatenation.** Where no word is cut in two, the terms of a text are those of its parts. -/
theorem analyze_append {s t : List Char} (h : IsCut isAlphanumeric s t) :
    analyze (String.ofList (s ++ t)) =
      analyze (String.ofList s) ++ analyze (String.ofList t) := by
  simp only [analyze, analyzeChars, String.toList_ofList, runs_append h, List.map_append,
    List.filter_append]

/-- Terms with blanks between them are the terms of that text. -/
theorem analyze_intercalate {terms : List String} (h : ∀ t ∈ terms, IsTerm t) :
    analyze (String.ofList ([' '].intercalate (terms.map String.toList))) = terms := by
  have hruns : runs isAlphanumeric ([' '].intercalate (terms.map String.toList)) =
      terms.map String.toList := by
    refine runs_intercalate (by rw [Unicode.isAlphanumeric_of_lt (by decide)]; rfl) ?_
    intro w hw
    obtain ⟨t, ht, rfl⟩ := List.mem_map.mp hw
    exact ⟨(h t ht).toList_ne_nil, (h t ht).alphanumeric⟩
  have hnormal : (terms.map String.toList).map normalizeChars = terms.map String.toList := by
    rw [List.map_map]
    exact List.map_congr_left fun t ht => (h t ht).normalizeChars_eq
  have hne : (terms.map String.toList).filter (fun t => !t.isEmpty) = terms.map String.toList := by
    rw [List.filter_eq_self]
    intro w hw
    obtain ⟨t, ht, rfl⟩ := List.mem_map.mp hw
    simpa using (h t ht).toList_ne_nil
  rw [analyze, String.toList_ofList, analyzeChars, hruns, hnormal, hne, List.map_map]
  simp [Function.comp_def]

end RegistrySearch.Text
