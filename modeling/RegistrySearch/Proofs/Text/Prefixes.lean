import RegistrySearch.Proofs.Text.Stability

/-!
# Beginnings of words in normal form

Normalizing looks beyond a character in two places only. Marks are ordered, so a mark of what is
added to a word can move in front of a mark of the word. And a capital sigma becomes the final one
if nothing cased follows (`EndsInSigma`). In all other cases what is added changes nothing in front
of it (`KeepsPrefix`), and the normal form of the beginning of a word begins that of the word.
-/

namespace RegistrySearch.Text

open Unicode

/-! ### Lower-case forms -/

section lower

variable {s t : List Char}

/-- Whether the last character that case does not ignore is cased, given the same of what stands in
front. -/
def casedAfter (afterCased : Bool) (s : List Char) : Bool :=
  s.foldl (fun afterCased c => if isCaseIgnorable c then afterCased else isCased c) afterCased

theorem casedAfter_cons (afterCased : Bool) (c : Char) : casedAfter afterCased (c :: s) =
    casedAfter (if isCaseIgnorable c then afterCased else isCased c) s := by
  rw [casedAfter, List.foldl_cons, casedAfter]

/-- A text ends in a capital sigma behind something cased, characters that case ignores left out of
account: what follows decides which form the sigma takes. -/
def EndsInSigma (afterCased : Bool) (s : List Char) : Prop :=
  ∃ front back, s = front ++ 'Σ' :: back ∧ casedAfter afterCased front ∧
    back.all isCaseIgnorable

theorem EndsInSigma.cons {afterCased : Bool} {c : Char}
    (h : EndsInSigma (if isCaseIgnorable c then afterCased else isCased c) s) :
    EndsInSigma afterCased (c :: s) := by
  obtain ⟨front, back, rfl, hfront, hback⟩ := h
  exact ⟨c :: front, back, rfl, (casedAfter_cons afterCased c).symm ▸ hfront, hback⟩

theorem beginsCased_cons (c : Char) :
    beginsCased (c :: s) = if isCaseIgnorable c then beginsCased s else isCased c := by
  simp only [beginsCased, List.dropWhile_cons]
  cases isCaseIgnorable c with
  | true => simp only [if_true]
  | false => simp only [Bool.false_eq_true, if_false]

/-- Characters that case ignores do not decide whether something cased follows. -/
theorem beginsCased_append :
    beginsCased (s ++ t) = if s.all isCaseIgnorable then beginsCased t else beginsCased s := by
  induction s with
  | nil => rfl
  | cons c s ih =>
    rw [List.cons_append, List.all_cons, beginsCased_cons, beginsCased_cons, ih]
    cases isCaseIgnorable c with
    | true => simp only [if_true, Bool.true_and]
    | false => simp only [Bool.false_eq_true, if_false, Bool.false_and]

theorem beginsCased_of_all (h : s.all isCaseIgnorable) : beginsCased s = false := by
  have happend : beginsCased (s ++ []) = beginsCased [] := by rw [beginsCased_append, if_pos h]
  rw [List.append_nil] at happend
  exact happend

/-- A star decides on no sigma. -/
theorem beginsCased_star : beginsCased ['*'] = false := by
  rw [beginsCased_cons, lettersFit.ascii.2.1, lettersFit.ascii.2.2]
  rfl

theorem lowerFrom_star (afterCased : Bool) : lowerFrom afterCased ['*'] = ['*'] := by
  rw [lowerFrom, if_neg (by decide), lowercase_of_lt (by decide) (by decide)]
  rfl

/-- **Lower case.** What follows a text changes nothing of its lower-case form, unless it decides on
a sigma. -/
theorem lowerFrom_append {afterCased : Bool}
    (h : EndsInSigma afterCased s → beginsCased t = false) :
    lowerFrom afterCased (s ++ t) =
      lowerFrom afterCased s ++ lowerFrom (casedAfter afterCased s) t := by
  induction s generalizing afterCased with
  | nil => rfl
  | cons c s ih =>
    have hs := ih fun hsigma => h hsigma.cons
    have hletters : c = 'Σ' → afterCased → beginsCased (s ++ t) = beginsCased s := by
      rintro rfl hcased
      rw [beginsCased_append]
      split
      · next hall => rw [h ⟨[], s, rfl, hcased, hall⟩, beginsCased_of_all hall]
      · rfl
    rw [List.cons_append, lowerFrom, lowerFrom, hs, List.append_assoc, casedAfter_cons]
    congr 1
    split
    · next hc =>
      cases afterCased with
      | false => rfl
      | true => rw [hletters hc rfl]
    · rfl

/-- Something cased behind a text decides on its sigma otherwise than the end. -/
theorem not_isPrefix_lowerFrom {afterCased : Bool} (hsigma : EndsInSigma afterCased s)
    (ht : beginsCased t) : ¬lowerFrom afterCased s <+: lowerFrom afterCased (s ++ t) := by
  obtain ⟨front, back, rfl, hfront, hback⟩ := hsigma
  induction front generalizing afterCased with
  | nil =>
    have hcased : afterCased = true := hfront
    have hnone : beginsCased back = false := beginsCased_of_all hback
    have hsome : beginsCased (back ++ t) = true := by rwa [beginsCased_append, if_pos hback]
    rw [List.nil_append, List.cons_append, lowerFrom, lowerFrom, hcased, hnone, hsome]
    simp only [if_true, Bool.not_false, Bool.not_true, Bool.and_true, Bool.and_false,
      Bool.false_eq_true, if_false, List.singleton_append, List.cons_prefix_cons]
    rintro ⟨hne, -⟩
    exact absurd hne (by decide)
  | cons c front ih =>
    rw [casedAfter_cons] at hfront
    have hrest := ih hfront
    -- the sigma stands between this character and what follows
    have hbetween : beginsCased (front ++ 'Σ' :: back ++ t) =
        beginsCased (front ++ 'Σ' :: back) := by
      rw [beginsCased_append, if_neg]
      simp [lettersFit.sigma.2.2]
    rw [List.cons_append, List.cons_append, lowerFrom, lowerFrom, hbetween,
      List.prefix_append_right_inj]
    exact hrest

end lower

/-! ### Letters -/

section letters

variable {w s : List Char}

/-- The letters of a word are its decompositions without diacritics, in order. -/
theorem letters_eq_orderMarks (hw : ∀ c ∈ w, isAlphanumeric c) :
    letters w = orderMarks ((w.flatMap decompose).filter fun c => !isDiacritic c) := by
  refine filter_orderMarks fun e he hdiacritic => ?_
  obtain ⟨c, hc, hec⟩ := List.mem_flatMap.mp he
  exact combiningClass_ne_zero_of_mem_decompose (hw c hc) hec (by simpa using hdiacritic)

/-- **Letters.** The letters of a word in two parts are those of its parts, or part at a mark from
those of the first. -/
theorem letters_append_or (hw : ∀ c ∈ w, isAlphanumeric c) (hs : ∀ c ∈ s, isAlphanumeric c) :
    letters (w ++ s) = letters w ++ letters s ∨ PartsAtMark (letters w) (letters (w ++ s)) := by
  have hws : ∀ c ∈ w ++ s, isAlphanumeric c := List.forall_mem_append.mpr ⟨hw, hs⟩
  rw [letters_eq_orderMarks hw, letters_eq_orderMarks hs, letters_eq_orderMarks hws,
    List.flatMap_append, List.filter_append]
  exact orderMarks_append_or _ _

theorem letters_append_eq_iff (hw : ∀ c ∈ w, isAlphanumeric c) (hs : ∀ c ∈ s, isAlphanumeric c) :
    letters (w ++ s) = letters w ++ letters s ↔ InOrderAcross (letters w) (letters s) := by
  have hws : ∀ c ∈ w ++ s, isAlphanumeric c := List.forall_mem_append.mpr ⟨hw, hs⟩
  rw [letters_eq_orderMarks hw, letters_eq_orderMarks hs, letters_eq_orderMarks hws,
    List.flatMap_append, List.filter_append]
  exact orderMarks_append_eq_iff

/-- Lower case keeps all classes. -/
theorem map_combiningClass_lower_letters (w : List Char) :
    (lower (letters w)).map combiningClass = (letters w).map combiningClass := by
  have hclass : List.Forall₂ (fun e d => combiningClass d = combiningClass e) (letters w)
      (lower (letters w)) :=
    forall₂_imp_of_mem (forall₂_lower_letters w) fun e d he hlower =>
      (hlower.spec (decompose_of_mem_decomposed (List.mem_of_mem_filter he))).2.2.2.2.1
  generalize letters w = s at hclass
  generalize lower s = t at hclass ⊢
  induction hclass with
  | nil => rfl
  | cons h _ ih => rw [List.map_cons, List.map_cons, h, ih]

end letters

/-! ### Normal forms -/

section normal

variable {w s : List Char}

/-- What is added to a word changes nothing in front of it: neither does a mark of it move there,
nor does it decide on a sigma. -/
structure KeepsPrefix (w s : List Char) : Prop where
  inOrderAcross : InOrderAcross (letters w) (letters s)
  beginsCased_eq : EndsInSigma false (letters w) → beginsCased (letters s) = false

/-- **Beginnings.** A word begins in normal form with the normal form of its beginning exactly if
the rest of it changes nothing there. -/
theorem normalizeChars_isPrefix_iff (hw : ∀ c ∈ w, isAlphanumeric c)
    (hs : ∀ c ∈ s, isAlphanumeric c) :
    normalizeChars w <+: normalizeChars (w ++ s) ↔ KeepsPrefix w s := by
  have hws : ∀ c ∈ w ++ s, isAlphanumeric c := List.forall_mem_append.mpr ⟨hw, hs⟩
  rw [normalizeChars_word hw, normalizeChars_word hws]
  constructor
  · intro h
    have hclasses := h.map combiningClass
    rw [map_combiningClass_lower_letters, map_combiningClass_lower_letters] at hclasses
    have hletters := (letters_append_or hw hs).resolve_right fun hparts =>
      hparts.not_isPrefix hclasses
    refine ⟨(letters_append_eq_iff hw hs).mp hletters, fun hsigma => ?_⟩
    rw [hletters] at h
    rw [← Bool.not_eq_true]
    exact fun hcased => not_isPrefix_lowerFrom hsigma hcased h
  · intro h
    rw [(letters_append_eq_iff hw hs).mpr h.inOrderAcross, lower, lower,
      lowerFrom_append h.beginsCased_eq]
    exact List.prefix_append _ _

/-- The star of a pattern stays behind the normal form of the word in front of it. -/
theorem normalizeChars_star (hw : ∀ c ∈ w, isAlphanumeric c) :
    normalizeChars (w ++ ['*']) = normalizeChars w ++ ['*'] := by
  have hletters : letters (w ++ ['*']) = letters w ++ ['*'] := by
    have hstar : decomposed ['*'] = ['*'] := rfl
    have happend : decomposed (w ++ ['*']) = decomposed w ++ decomposed ['*'] := by
      refine decomposed_append fun c hc d hd => ?_
      obtain rfl : '*' = c := Option.some.inj hc
      obtain rfl : '*' = d := Option.some.inj hd
      rfl
    rw [letters, happend, hstar, List.filter_append]
    rfl
  have hlower : lower (letters w ++ ['*']) = lower (letters w) ++ ['*'] := by
    rw [lower, lowerFrom_append fun _ => beginsCased_star, lowerFrom_star, lower]
  rw [normalizeChars_word hw, ← hlower, ← hletters]
  refine normalizeChars_eq fun c hc => ?_
  rw [hletters, hlower] at hc
  obtain hc | hc := List.mem_append.mp hc
  · exact not_isBlank_of_mem_lower_letters hw hc
  · rw [List.mem_singleton.mp hc]
    rfl

/-- The normal form of a word has no character that stands for something else in a pattern. -/
theorem notMem_operators_of_mem_normalizeChars (hw : ∀ c ∈ w, isAlphanumeric c) {d : Char}
    (hd : d ∈ normalizeChars w) : d ∉ operators := by
  intro hoperator
  rw [normalizeChars_word hw] at hd
  obtain ⟨e, he, hlower⟩ := exists_of_mem_lower_letters hd
  obtain ⟨⟨c, hc, hec⟩, -⟩ := mem_letters.mp he
  -- lower case makes none either: what it makes is alphanumeric
  obtain rfl := hlower.eq_of_not_isAlphanumeric (decompose_of_mem_decompose hec)
    (not_isAlphanumeric_of_mem_operators hoperator)
  exact notMem_operators_of_mem_decompose (hw c hc) hec hoperator

end normal

end RegistrySearch.Text
