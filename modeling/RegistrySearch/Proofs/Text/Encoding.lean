import RegistrySearch.Proofs.Text.Stability
import RegistrySearch.Proofs.Text.Stretches

/-!
# Encodings of accents

The normal form of a text does not depend on how its accents are encoded. Its terms do, as words are
cut before they are normalized: an accent that is encoded as a character of its own is no part of a
word and cuts it. So a text has the terms of its decomposed form exactly if no word of it is cut in
two when it is decomposed (`IsWhole`), and none has a mark that is taken off only as a character of
its own.

All of this is said of texts that are decomposed stretch by stretch.
-/

namespace RegistrySearch.Text

open Unicode

/-- **Normal forms.** A text and its decomposed form have one normal form. -/
theorem normalizeChars_decomposed (s : List Char) :
    normalizeChars (decomposed s) = normalizeChars s := by
  rw [normalizeChars, decomposed_decomposed, normalizeChars]

/-! ### Decomposed words -/

section word

variable {w : List Char}

/-- The pieces of a word with letters: the runs of its decomposed form that have more than
diacritics. -/
def pieces (w : List Char) : List (List Char) :=
  (runs isAlphanumeric (decomposed w)).filter fun r => r.any fun c => !isDiacritic c

/-- A word that is in one piece when it is decomposed, and of which nothing else is left then. -/
structure IsWhole (w : List Char) : Prop where
  marks : ∀ c ∈ decomposed w, isAlphanumeric c ∨ isDiacritic c
  length_pieces_le : (pieces w).length ≤ 1

instance (w : List Char) : Decidable (IsWhole w) :=
  decidable_of_iff
    (((decomposed w).all fun c => isAlphanumeric c || isDiacritic c) ∧ (pieces w).length ≤ 1) <| by
      simp only [List.all_eq_true, Bool.or_eq_true]
      exact ⟨fun h => ⟨h.1, h.2⟩, fun h => ⟨h.marks, h.length_pieces_le⟩⟩

/-- The letters of a piece are those of its characters that are no diacritics. -/
theorem letters_of_mem_runs {r : List Char} (hr : r ∈ runs isAlphanumeric (decomposed w)) :
    letters r = r.filter fun c => !isDiacritic c := by
  obtain ⟨-, -, hpart⟩ := mem_runs hr
  have hordered : IsOrdered r := List.IsChain.infix (isOrdered_orderMarks _) hpart
  rw [letters, decomposed_eq_self
    (fun c hc => decompose_of_mem_decomposed (hpart.subset hc)) hordered]

theorem letters_ne_nil_of_mem_pieces {r : List Char} (hr : r ∈ pieces w) : letters r ≠ [] := by
  obtain ⟨hrun, hany⟩ := List.mem_filter.mp hr
  rw [letters_of_mem_runs hrun, ne_eq, List.filter_eq_nil_iff]
  simpa using hany

/-- The letters of a piece are alphanumeric, as all of the piece is. -/
theorem isAlphanumeric_of_mem_pieces {r : List Char} {e : Char} (hr : r ∈ pieces w)
    (he : e ∈ letters r) : isAlphanumeric e := by
  have hrun := List.mem_of_mem_filter hr
  rw [letters_of_mem_runs hrun] at he
  exact (mem_runs hrun).2.1 e (List.mem_of_mem_filter he)

/-- Nothing is left of a text in lower case only if it has no letters. -/
theorem lower_letters_eq_nil_iff {s : List Char} : lower (letters s) = [] ↔ letters s = [] := by
  rw [← List.length_eq_zero_iff, ← (forall₂_lower_letters s).length_eq, List.length_eq_zero_iff]

/-- A letter in lower case is alphanumeric if the letter is. -/
theorem isAlphanumeric_eq_of_isLower {s : List Char} {c d : Char} (hc : c ∈ letters s)
    (h : IsLower c d) : isAlphanumeric d = isAlphanumeric c :=
  (h.spec (decompose_of_mem_decomposed (List.mem_of_mem_filter hc))).2.2.2.1

/-- The terms of a decomposed text are those of its pieces. -/
theorem analyzeChars_decomposed (w : List Char) :
    analyzeChars (decomposed w) = (pieces w).map fun r => lower (letters r) := by
  have hnormal : (runs isAlphanumeric (decomposed w)).map normalizeChars =
      (runs isAlphanumeric (decomposed w)).map fun r => lower (letters r) :=
    List.map_congr_left fun r hr => normalizeChars_word (mem_runs hr).2.1
  have hempty : ∀ r ∈ runs isAlphanumeric (decomposed w),
      (!(lower (letters r)).isEmpty) = r.any fun c => !isDiacritic c := by
    intro r hr
    rw [Bool.eq_iff_iff, Bool.not_eq_true', List.isEmpty_eq_false_iff, ne_eq,
      lower_letters_eq_nil_iff, letters_of_mem_runs hr, List.filter_eq_nil_iff, List.any_eq_true]
    push Not
    rfl
  rw [analyzeChars, hnormal, List.filter_map, pieces, ← List.filter_congr hempty]
  rfl

/-- A word has one term at most, the one of its letters. -/
theorem analyzeChars_word (hne : w ≠ []) (hw : ∀ c ∈ w, isAlphanumeric c) :
    analyzeChars w = if letters w = [] then [] else [lower (letters w)] := by
  rw [analyzeChars, runs_word hne hw, List.map_singleton, normalizeChars_word hw]
  split
  · next h =>
    have hnil := lower_letters_eq_nil_iff.mpr h
    rw [List.filter_cons_of_neg (by simpa using hnil), List.filter_nil]
  · next h =>
    have hnil := mt lower_letters_eq_nil_iff.mp h
    rw [List.filter_cons_of_pos (by simpa using hnil), List.filter_nil]

/-- A word with letters has a piece. -/
theorem pieces_ne_nil (hw : ∀ c ∈ w, isAlphanumeric c) (h : letters w ≠ []) : pieces w ≠ [] := by
  -- a letter of the word that is alphanumeric, and so in a piece
  obtain ⟨d, hd, halnum, hdiacritic⟩ :
      ∃ d ∈ decomposed w, isAlphanumeric d ∧ isDiacritic d = false := by
    obtain ⟨e, he⟩ := List.exists_mem_of_ne_nil _ h
    obtain ⟨⟨c, hc, hec⟩, hdiacritic⟩ := mem_letters.mp he
    cases halnum : isAlphanumeric e with
    | true => exact ⟨e, mem_decomposed.mpr ⟨c, hc, hec⟩, halnum, hdiacritic⟩
    | false =>
      obtain ⟨d, hd, hspec⟩ := (decompose_of_isAlphanumeric (hw c hc) hec).2 halnum
      exact ⟨d, mem_decomposed.mpr ⟨c, hc, hd⟩, hspec⟩
  have hflat : d ∈ (runs isAlphanumeric (decomposed w)).flatten := by
    rw [flatten_runs]
    exact List.mem_filter.mpr ⟨hd, halnum⟩
  obtain ⟨r, hr, hdr⟩ := List.mem_flatten.mp hflat
  refine List.ne_nil_of_mem (List.mem_filter.mpr ⟨hr, List.any_eq_true.mpr ⟨d, hdr, ?_⟩⟩)
  rw [hdiacritic]
  rfl

theorem length_analyzeChars_le (hne : w ≠ []) (hw : ∀ c ∈ w, isAlphanumeric c) :
    (analyzeChars w).length ≤ (analyzeChars (decomposed w)).length := by
  rw [analyzeChars_word hne hw, analyzeChars_decomposed, List.length_map]
  split
  · exact Nat.zero_le _
  · next h => exact List.length_pos_of_ne_nil (pieces_ne_nil hw h)

/-- The letters of the pieces of a word are its alphanumeric letters. -/
theorem flatMap_letters_pieces (w : List Char) :
    (pieces w).flatMap letters = (letters w).filter isAlphanumeric := by
  have hletters : (pieces w).flatMap letters =
      (pieces w).flatMap fun r => r.filter fun c => !isDiacritic c :=
    List.flatMap_congr fun r hr => letters_of_mem_runs (List.mem_of_mem_filter hr)
  rw [hletters, pieces, letters, List.filter_comm, ← flatten_runs (s := decomposed w)]
  induction runs isAlphanumeric (decomposed w) with
  | nil => rfl
  | cons r rs ih =>
    rw [List.flatten_cons, List.filter_append, ← ih, List.filter_cons]
    split
    · rw [List.flatMap_cons]
    · next hr =>
      have hnil : (r.filter fun c => !isDiacritic c) = [] :=
        List.filter_eq_nil_iff.mpr (by simpa using hr)
      rw [hnil, List.nil_append]

/-- A word is whole if the letters of all its pieces are those of one. -/
theorem IsWhole.letters_eq (h : IsWhole w) : (pieces w).flatMap letters = letters w := by
  rw [flatMap_letters_pieces, List.filter_eq_self]
  intro e he
  obtain ⟨hmem, hdiacritic⟩ := List.mem_filter.mp he
  exact (h.marks e hmem).resolve_right (by simpa using hdiacritic)

/-- A word that has the terms of its decomposed form has no mark but diacritics: another one would
be in the term of the word, and in no term of its pieces. -/
theorem isAlphanumeric_or_isDiacritic_of_analyzeChars_eq (hne : w ≠ [])
    (hw : ∀ c ∈ w, isAlphanumeric c) (heq : analyzeChars w = analyzeChars (decomposed w)) {e : Char}
    (he : e ∈ decomposed w) : isAlphanumeric e ∨ isDiacritic e := by
  by_contra hmark
  rw [not_or, Bool.not_eq_true, Bool.not_eq_true] at hmark
  have hletter : e ∈ letters w := mem_letters.mpr ⟨mem_decomposed.mp he, hmark.2⟩
  obtain ⟨d, hd, hlower⟩ := exists_mem_lower_letters hletter
  have hterm : lower (letters w) ∈ (pieces w).map fun r => lower (letters r) := by
    rw [← analyzeChars_decomposed, ← heq, analyzeChars_word hne hw,
      if_neg (List.ne_nil_of_mem hletter)]
    exact List.mem_singleton_self _
  obtain ⟨r, hr, hsame⟩ := List.mem_map.mp hterm
  obtain ⟨c, hc, hlower'⟩ := exists_of_mem_lower_letters (hsame ▸ hd)
  have hsame := isAlphanumeric_eq_of_isLower hletter hlower
  have halnum := isAlphanumeric_of_mem_pieces hr hc
  rw [isAlphanumeric_eq_of_isLower hc hlower', halnum, hmark.1] at hsame
  cases hsame

/-- A whole word has the terms of its decomposed form. -/
theorem IsWhole.analyzeChars_eq (h : IsWhole w) (hne : w ≠ []) (hw : ∀ c ∈ w, isAlphanumeric c) :
    analyzeChars w = analyzeChars (decomposed w) := by
  rw [analyzeChars_word hne hw, analyzeChars_decomposed]
  have hletters := h.letters_eq
  have hlength := h.length_pieces_le
  cases hpieces : pieces w with
  | nil =>
    rw [hpieces, List.flatMap_nil] at hletters
    rw [if_pos hletters.symm, List.map_nil]
  | cons r rs =>
    have hrs : rs = [] := by
      rw [hpieces, List.length_cons] at hlength
      exact List.eq_nil_of_length_eq_zero (by omega)
    have hr : letters r ≠ [] := letters_ne_nil_of_mem_pieces (hpieces ▸ List.mem_cons_self)
    rw [hpieces, hrs, List.flatMap_singleton] at hletters
    rw [if_neg (hletters ▸ hr), hrs, List.map_singleton, hletters]

/-- **Words.** A word has the terms of its decomposed form exactly if it is whole. -/
theorem analyzeChars_word_eq_iff (hne : w ≠ []) (hw : ∀ c ∈ w, isAlphanumeric c) :
    analyzeChars w = analyzeChars (decomposed w) ↔ IsWhole w := by
  refine ⟨fun heq => ?_, fun h => h.analyzeChars_eq hne hw⟩
  refine ⟨fun e he => isAlphanumeric_or_isDiacritic_of_analyzeChars_eq hne hw heq he, ?_⟩
  have hterms : (analyzeChars w).length ≤ 1 := by
    rw [analyzeChars_word hne hw]
    split <;> simp
  rwa [heq, analyzeChars_decomposed, List.length_map] at hterms

end word

/-! ### Texts -/

private theorem length_flatMap_le {α β : Type} {f g : α → List β} {xs : List α}
    (h : ∀ x ∈ xs, (f x).length ≤ (g x).length) :
    (xs.flatMap f).length ≤ (xs.flatMap g).length := by
  induction xs with
  | nil => exact Nat.le_refl 0
  | cons x xs ih =>
    obtain ⟨hx, hxs⟩ := List.forall_mem_cons.mp h
    simp only [List.flatMap_cons, List.length_append]
    exact Nat.add_le_add hx (ih hxs)

/-- Lists are put together from the same parts if they are equal and the parts of one are not
longer. -/
theorem flatMap_eq_flatMap_iff {α β : Type} {f g : α → List β} {xs : List α}
    (h : ∀ x ∈ xs, (f x).length ≤ (g x).length) :
    xs.flatMap f = xs.flatMap g ↔ ∀ x ∈ xs, f x = g x := by
  refine ⟨fun heq => ?_, List.flatMap_congr⟩
  induction xs with
  | nil => exact fun x hx => absurd hx List.not_mem_nil
  | cons x xs ih =>
    obtain ⟨hx, hxs⟩ := List.forall_mem_cons.mp h
    have hrest := length_flatMap_le hxs
    simp only [List.flatMap_cons] at heq
    have hlengths := congrArg List.length heq
    rw [List.length_append, List.length_append] at hlengths
    obtain ⟨hhead, htail⟩ := List.append_inj heq (by omega)
    exact List.forall_mem_cons.mpr ⟨hhead, ih hxs htail⟩

/-- Texts have the same tokens if they have the same terms. -/
theorem tokenize_eq_iff {s t : String} :
    tokenize s = tokenize t ↔ analyzeChars s.toList = analyzeChars t.toList := by
  have hterms : tokenize s = tokenize t ↔ analyze s = analyze t := by
    refine ⟨fun h => ?_, fun h => by rw [tokenize, h, tokenize]⟩
    rw [← map_term_tokenize, h, map_term_tokenize]
  rw [hterms, analyze, analyze]
  refine ⟨fun h => ?_, congrArg _⟩
  exact List.map_injective_iff.mpr (fun _ _ h => String.ofList_injective h) h

/-- What is put for the stretches of a text has terms stretch by stretch. -/
theorem analyzeChars_flatMap {f : List Char → List Char} (hne : ∀ p ≠ [], f p ≠ [])
    (hf : ∀ p, (∀ c ∈ p, isAlphanumeric c = false) → ∀ c ∈ f p, isAlphanumeric c = false)
    (s : List Char) :
    analyzeChars ((stretches s).flatMap f) = (stretches s).flatMap fun p => analyzeChars (f p) := by
  rw [analyzeChars, runs_flatMap hne hf (fun p hp => isStretch_of_mem_stretches hp)
    (isChain_stretches s), List.map_flatMap, List.filter_flatMap]
  rfl

theorem analyzeChars_eq_nil {p : List Char} (h : ∀ c ∈ p, isAlphanumeric c = false) :
    analyzeChars p = [] := by
  rw [analyzeChars, runs_eq_nil h]
  rfl

/-- A decomposed separator is a separator. -/
theorem not_isAlphanumeric_of_mem_decomposed {p : List Char}
    (h : ∀ c ∈ p, isAlphanumeric c = false) : ∀ c ∈ decomposed p, isAlphanumeric c = false := by
  intro e he
  obtain ⟨c, hc, hec⟩ := mem_decomposed.mp he
  exact not_isAlphanumeric_of_mem_decompose (h c hc) hec

/-- A text that is decomposed stretch by stretch has the terms of its decomposed form exactly if its
words are whole. -/
theorem analyzeChars_eq_decomposed_iff {s : List Char} (h : KeepsStretches s) :
    analyzeChars s = analyzeChars (decomposed s) ↔ ∀ w ∈ runs isAlphanumeric s, IsWhole w := by
  have hterms := analyzeChars_flatMap (f := id) (fun _ hp => hp) (fun _ hp => hp) s
  rw [List.flatMap_id, flatten_stretches] at hterms
  -- no stretch loses a term, so that no other one can make up for a stretch that is cut
  have hlengths : ∀ p ∈ stretches s,
      (analyzeChars p).length ≤ (analyzeChars (decomposed p)).length := by
    intro p hp
    have hstretch := isStretch_of_mem_stretches hp
    obtain hword | hnone := hstretch.uniform
    · exact length_analyzeChars_le hstretch.ne_nil hword
    · rw [analyzeChars_eq_nil hnone]
      exact Nat.zero_le _
  rw [hterms, h, analyzeChars_flatMap (fun _ hp => decomposed_ne_nil hp)
    (fun _ hp => not_isAlphanumeric_of_mem_decomposed hp)]
  refine (flatMap_eq_flatMap_iff hlengths).trans ⟨fun heq w hw => ?_, fun hwhole p hp => ?_⟩
  · obtain ⟨hmem, hword⟩ := mem_runs_iff_mem_stretches.mp hw
    exact (analyzeChars_word_eq_iff (isStretch_of_mem_stretches hmem).ne_nil hword).mp (heq w hmem)
  · obtain hword | hnone := (isStretch_of_mem_stretches hp).uniform
    · exact (analyzeChars_word_eq_iff (isStretch_of_mem_stretches hp).ne_nil hword).mpr
        (hwhole p (mem_runs_iff_mem_stretches.mpr ⟨hp, hword⟩))
    · exact (analyzeChars_eq_nil hnone).trans
        (analyzeChars_eq_nil (not_isAlphanumeric_of_mem_decomposed hnone)).symm

/-- **Texts.** A text that is decomposed stretch by stretch has the tokens of its decomposed form
exactly if its words are whole. -/
theorem tokenize_decomposed_iff {s : String} (h : KeepsStretches s.toList) :
    tokenize s = tokenize (String.ofList (decomposed s.toList)) ↔
      ∀ w ∈ runs isAlphanumeric s.toList, IsWhole w := by
  rw [tokenize_eq_iff, String.toList_ofList, analyzeChars_eq_decomposed_iff h]

/-- Accents at the end of words may be encoded either way. -/
theorem tokenize_decomposed_cafe :
    KeepsStretches "Caf\u00E9, ol\u00E9!".toList ∧
      tokenize "Caf\u00E9, ol\u00E9!" =
        tokenize (String.ofList (decomposed "Caf\u00E9, ol\u00E9!".toList)) := by
  -- no word begins with a mark, and nothing between words does
  have hkeeps : KeepsStretches "Caf\u00E9, ol\u00E9!".toList :=
    keepsStretches_of_head (by decide +kernel)
  exact ⟨hkeeps, (tokenize_decomposed_iff hkeeps).mpr (by decide +kernel)⟩

/-- An accent within a word, encoded as a character of its own, cuts it in two. -/
theorem analyze_naive :
    String.ofList (decomposed "na\u00EFve".toList) = "nai\u0308ve" ∧
      analyze "na\u00EFve" = ["naive"] ∧ analyze "nai\u0308ve" = ["nai", "ve"] := by
  decide +kernel

/-- **Encodings.** Texts with the same decomposed form have the same tokens, however their accents
are encoded, if the words of both are whole. -/
theorem tokenize_eq_of_decomposed_eq {s t : String} (hs : KeepsStretches s.toList)
    (ht : KeepsStretches t.toList) (hsw : ∀ w ∈ runs isAlphanumeric s.toList, IsWhole w)
    (htw : ∀ w ∈ runs isAlphanumeric t.toList, IsWhole w)
    (h : decomposed s.toList = decomposed t.toList) : tokenize s = tokenize t := by
  rw [tokenize_eq_iff, (analyzeChars_eq_decomposed_iff hs).mpr hsw,
    (analyzeChars_eq_decomposed_iff ht).mpr htw, h]

end RegistrySearch.Text
