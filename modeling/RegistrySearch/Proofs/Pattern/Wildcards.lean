import RegistrySearch.Proofs.Pattern.Globs

/-!
# Wildcard patterns

A wildcard pattern accepts exactly the texts that its characters stand for (`WildcardMatches`). It
is refused only for its size, to which every item contributes on its own: a literal by the bytes it
is encoded in, a wildcard by the automaton of all characters.
-/

namespace RegistrySearch.Pattern

open Unicode (Ranges)

/-! ### Texts -/

/-- The texts that a pattern stands for: `*` for any characters, `?` for any one, a character behind
a backslash for itself, a backslash at the end for nothing, and every other character for itself. -/
inductive WildcardMatches : List Char → List Char → Prop
  | nil : WildcardMatches [] []
  | backslash : WildcardMatches ['\\'] []
  | star {pattern run rest : List Char} :
    WildcardMatches pattern rest → WildcardMatches ('*' :: pattern) (run ++ rest)
  | question {pattern rest : List Char} {c : Char} :
    WildcardMatches pattern rest → WildcardMatches ('?' :: pattern) (c :: rest)
  | escaped {pattern rest : List Char} {c : Char} :
    WildcardMatches pattern rest → WildcardMatches ('\\' :: c :: pattern) (c :: rest)
  | plain {pattern rest : List Char} {c : Char} (hstar : c ≠ '*') (hquestion : c ≠ '?')
    (hescape : c ≠ '\\') :
    WildcardMatches pattern rest → WildcardMatches (c :: pattern) (c :: rest)

theorem Glob.read_cons {c : Char} {pattern : List Char} (h : c ≠ '\\') :
    Glob.read (c :: pattern) =
      (if c = '*' then .anyRun else if c = '?' then .anyChar else .literal c) ::
        Glob.read pattern := by
  rw [Glob.read]
  · exact fun he _ => h he
  · exact fun d rest he _ => h he

/-- **Items.** A pattern and its items stand for the same texts. -/
theorem wildcardMatches_iff {pattern text : List Char} :
    WildcardMatches pattern text ↔ Glob.Matches (Glob.read pattern) text := by
  constructor
  · intro h
    induction h with
    | nil => exact .nil
    | backslash => exact .nil
    | star _ ih => exact .anyRun ih
    | question _ ih => exact .anyChar ih
    | escaped _ ih => exact .literal ih
    | plain hstar hquestion hescape _ ih =>
      rw [Glob.read_cons hescape, if_neg hstar, if_neg hquestion]
      exact .literal ih
  · intro h
    fun_induction Glob.read pattern generalizing text with
    | case1 =>
      cases h
      exact .nil
    | case2 =>
      cases h
      exact .backslash
    | case3 c pattern ih =>
      cases h with
      | literal h => exact .escaped (ih h)
    | case4 c pattern hlone hpair ih =>
      have hescape : c ≠ '\\' := by
        rintro rfl
        cases pattern with
        | nil => exact hlone rfl rfl
        | cons d pattern => exact hpair d pattern rfl rfl
      split at h
      · next hstar =>
        subst hstar
        cases h with
        | anyRun h => exact .star (ih h)
      · next hstar =>
        split at h
        · next hquestion =>
          subst hquestion
          cases h with
          | anyChar h => exact .question (ih h)
        · next hquestion =>
          cases h with
          | literal h => exact .plain hstar hquestion hescape (ih h)

/-- A star at the end makes a pattern of all texts that begin with what stands in front of it. -/
theorem wildcardMatches_star_iff {t text : List Char} (ht : ∀ c ∈ t, c ∉ ['*', '?', '\\']) :
    WildcardMatches (t ++ ['*']) text ↔ t <+: text := by
  induction t generalizing text with
  | nil =>
    refine iff_of_true ?_ List.nil_prefix
    have hstar : WildcardMatches ['*'] (text ++ []) := .star .nil
    rwa [List.append_nil] at hstar
  | cons c t ih =>
    have hc := ht c List.mem_cons_self
    simp only [List.mem_cons, List.not_mem_nil, or_false, not_or] at hc
    have ih : ∀ {text}, WildcardMatches (t ++ ['*']) text ↔ t <+: text :=
      ih fun d hd => ht d (List.mem_cons_of_mem c hd)
    constructor
    · intro h
      rw [List.cons_append] at h
      generalize t ++ ['*'] = pattern at h ih
      cases h with
      | backslash => exact absurd rfl hc.2.2
      | star => exact absurd rfl hc.1
      | question => exact absurd rfl hc.2.1
      | escaped => exact absurd rfl hc.2.2
      | plain _ _ _ h => exact List.cons_prefix_cons.mpr ⟨rfl, ih.mp h⟩
    · rintro ⟨rest, rfl⟩
      exact .plain hc.1 hc.2.1 hc.2.2 (ih.mpr (List.prefix_append t rest))

/-! ### Sizes -/

/-- The number of bytes that the automaton of an item needs. -/
def GlobItem.size (isBackward : Bool) : GlobItem → Nat
  | anyRun => if isBackward then 1004 else 456
  | anyChar => if isBackward then 964 else 416
  | literal c => 32 * c.utf8Size

/-- The number of bytes that the automaton of a pattern needs. -/
def Glob.size (isBackward : Bool) (items : Glob) : Nat :=
  (items.map (GlobItem.size isBackward)).sum + if isBackward then 160 else 224

/-- One value has one sequence of bytes. -/
theorem exists_sequencesBetween (base further n : Nat) :
    ∃ s, sequencesBetween base further n n = [s] ∧ s.length = further + 1 := by
  induction further generalizing base n with
  | zero => exact ⟨_, rfl, rfl⟩
  | succ further ih =>
    obtain ⟨s, hs, hlength⟩ := ih 0x80 (n % 64 ^ (further + 1))
    have hlead : sequencesBetween base (further + 1) n n =
        [(base + n / 64 ^ (further + 1), base + n / 64 ^ (further + 1)) :: s] := by
      rw [sequencesBetween]
      simp only [if_true, hs, List.map_cons, List.map_nil]
    exact ⟨_, hlead, congrArg Nat.succ hlength⟩

/-- The values of one encoded length that are one given value. -/
private theorem sequences_of_length (base further first last n : Nat) :
    (if max n first ≤ min n last then
      sequencesBetween base further (max n first) (min n last) else []) =
    if first ≤ n ∧ n ≤ last then sequencesBetween base further n n else [] := by
  by_cases h : first ≤ n ∧ n ≤ last
  · rw [if_pos h, Nat.max_eq_left h.1, Nat.min_eq_left h.2, if_pos (Nat.le_refl n)]
  · rw [if_neg h, if_neg (by omega)]

theorem utf8Size_eq (c : Char) : c.utf8Size =
    if c.toNat ≤ 0x7F then 1 else if c.toNat ≤ 0x7FF then 2 else if c.toNat ≤ 0xFFFF then 3
    else 4 := by
  simp only [Char.utf8Size, UInt32.le_iff_toNat_le]
  rfl

/-- A character has one sequence of bytes, as long as the character is encoded. -/
theorem exists_byteSequences (c : Char) :
    ∃ s, byteSequences (.single c.toNat c.toNat) = [s] ∧ s.length = c.utf8Size := by
  have hvalid : c.toNat < 0xD800 ∨ 0xDFFF < c.toNat ∧ c.toNat < 0x110000 := c.valid
  have hsequences := exists_sequencesBetween (n := c.toNat)
  rw [utf8Size_eq]
  simp only [byteSequences, Ranges.single, encodedLengths, List.flatMap_cons, List.flatMap_nil,
    List.append_nil, sequences_of_length]
  generalize c.toNat = n at *
  -- of the five lengths one has the value
  rcases (by omega : n ≤ 0x7F ∨ (0x7F < n ∧ n ≤ 0x7FF) ∨ (0x7FF < n ∧ n ≤ 0xD7FF) ∨
    (0xDFFF < n ∧ n ≤ 0xFFFF) ∨ (0xFFFF < n ∧ n ≤ 0x10FFFF)) with h | h | h | h | h
  · obtain ⟨s, hs, hlength⟩ := hsequences 0x00 0
    refine ⟨s, ?_, ?_⟩ <;>
      simp (disch := omega) only [if_pos, if_neg, hs, hlength, List.append_nil]
  · obtain ⟨s, hs, hlength⟩ := hsequences 0xC0 1
    refine ⟨s, ?_, ?_⟩ <;>
      simp (disch := omega) only [if_pos, if_neg, hs, hlength, List.append_nil, List.nil_append]
  · obtain ⟨s, hs, hlength⟩ := hsequences 0xE0 2
    refine ⟨s, ?_, ?_⟩ <;>
      simp (disch := omega) only [if_pos, if_neg, hs, hlength, List.append_nil, List.nil_append]
  · obtain ⟨s, hs, hlength⟩ := hsequences 0xE0 2
    refine ⟨s, ?_, ?_⟩ <;>
      simp (disch := omega) only [if_pos, if_neg, hs, hlength, List.append_nil, List.nil_append]
  · obtain ⟨s, hs, hlength⟩ := hsequences 0xF0 3
    refine ⟨s, ?_, ?_⟩ <;>
      simp (disch := omega) only [if_pos, if_neg, hs, hlength, List.nil_append]

/-- The automaton of one character has a state for each byte. -/
theorem setSize_single (isBackward : Bool) (c : Char) :
    setSize isBackward (.single c.toNat c.toNat) = 32 * c.utf8Size := by
  obtain ⟨s, hs, hlength⟩ := exists_byteSequences c
  have hrows : (Ranges.single c.toNat c.toNat).rows = [(c.toNat, c.toNat)] := rfl
  rw [setSize, hrows]
  dsimp only
  split
  · next hascii =>
    have hone : c.utf8Size = 1 := by
      have hle : c.toNat ≤ 0x7F := by simpa [Ranges.isAscii, hrows] using hascii
      rw [utf8Size_eq, if_pos hle]
    rw [hone]
    rfl
  · rw [hs]
    exact congrArg (32 * ·) hlength

theorem GlobItem.sizeFrom_regex (isBackward : Bool) (item : GlobItem) :
    item.regex.sizeFrom isBackward false = item.size isBackward := by
  have hall : ∀ b, anyRun.regex.sizeFrom b false = anyRun.size b ∧
      anyChar.regex.sizeFrom b false = anyChar.size b := by with_unfolding_all decide
  cases item with
  | anyRun => exact (hall isBackward).1
  | anyChar => exact (hall isBackward).2
  | literal c => exact setSize_single isBackward c

/-- The automata of expressions one after the other stand side by side. -/
theorem Regex.sizeFrom_concat (isBackward : Bool) {rs : List Regex} (hne : rs ≠ []) :
    (concat rs).sizeFrom isBackward false = (rs.map (·.sizeFrom isBackward false)).sum := by
  induction rs with
  | nil => exact absurd rfl hne
  | cons r rs ih =>
    cases rs with
    | nil => exact (Nat.add_zero _).symm
    | cons s rs =>
      rw [List.map_cons, List.sum_cons, ← ih (List.cons_ne_nil s rs)]
      rfl

theorem Glob.size_regex (isBackward : Bool) (items : Glob) :
    items.regex.size isBackward = items.size isBackward := by
  have hitems : items.map ((·.sizeFrom isBackward false) ∘ GlobItem.regex) =
      items.map (GlobItem.size isBackward) :=
    List.map_congr_left fun item _ => item.sizeFrom_regex isBackward
  rw [Regex.size, regex, Regex.sizeFrom_concat isBackward (List.cons_ne_nil _ _), List.map_cons,
    List.map_cons, List.map_append, List.map_map, hitems, size]
  simp only [List.sum_cons, List.sum_append, List.map_cons, List.map_nil, List.sum_nil,
    Regex.sizeFrom, stateSize]
  cases isBackward <;> simp <;> omega

/-- **Limits.** A pattern is the expression of its items, and refused for its size alone. -/
theorem wildcard?_eq_some_iff {pattern : String} {r : Regex} :
    wildcard? pattern = some r ↔ r = (Glob.read pattern.toList).regex ∧
      ∀ isBackward, (Glob.read pattern.toList).size isBackward ≤ Regex.sizeLimit := by
  obtain ⟨p, hp, hregex, hdepth⟩ := wholePiece?_wildcardRegexText pattern
  simp only [← Glob.size_regex, ← Regex.isWithinLimit_iff, ← hregex]
  rw [wildcard?, compile?_eq_some_iff, hp]
  constructor
  · rintro ⟨q, hq, -, hsize, rfl⟩
    cases hq
    exact ⟨rfl, hsize⟩
  · rintro ⟨rfl, hsize⟩
    exact ⟨p, rfl, Nat.le_trans hdepth (by decide), hsize, rfl⟩

theorem isSome_wildcard?_iff {pattern : String} : (wildcard? pattern).isSome ↔
    ∀ isBackward, (Glob.read pattern.toList).size isBackward ≤ Regex.sizeLimit := by
  rw [Option.isSome_iff_exists]
  simp only [wildcard?_eq_some_iff, exists_eq_left]

theorem Glob.length_read_le (pattern : List Char) : (read pattern).length ≤ pattern.length := by
  fun_induction read pattern with
  | case1 => exact Nat.le_refl 0
  | case2 => exact Nat.zero_le _
  | case3 c pattern ih =>
    simp only [List.length_cons]
    omega
  | case4 c pattern _ _ ih => exact Nat.succ_le_succ ih

/-- No item needs more than the wildcard for any characters. -/
theorem Glob.size_le (isBackward : Bool) (items : Glob) :
    items.size isBackward ≤ 1004 * items.length + 224 := by
  have hitem : ∀ item : GlobItem, item.size isBackward ≤ 1004 := by
    intro item
    cases item with
    | anyRun | anyChar => cases isBackward <;> decide
    | literal c =>
      have hlength := Char.utf8Size_le_four c
      rw [GlobItem.size]
      omega
  have hsum : (items.map (GlobItem.size isBackward)).sum ≤ 1004 * items.length := by
    induction items with
    | nil => exact Nat.le_refl 0
    | cons item items ih =>
      have hle := hitem item
      rw [List.map_cons, List.sum_cons, List.length_cons]
      omega
  rw [size]
  cases isBackward <;> simp <;> omega

/-- Patterns of up to ten thousand characters are not too large. -/
theorem isSome_wildcard?_of_length_le {pattern : String} (h : pattern.length ≤ 10000) :
    (wildcard? pattern).isSome := by
  rw [isSome_wildcard?_iff]
  intro isBackward
  have hlength : (Glob.read pattern.toList).length ≤ 10000 :=
    Nat.le_trans (Glob.length_read_le _) (by rwa [String.length_toList])
  have hsize := Glob.size_le isBackward (Glob.read pattern.toList)
  have hlimit : 1004 * 10000 + 224 ≤ Regex.sizeLimit := by decide
  omega

/-- A wildcard pattern accepts the texts that its characters stand for. -/
theorem accepts_wildcard?_iff {pattern : String} {r : Regex} (h : wildcard? pattern = some r)
    (text : List Char) : r.accepts text ↔ WildcardMatches pattern.toList text := by
  obtain ⟨rfl, -⟩ := wildcard?_eq_some_iff.mp h
  rw [Glob.accepts_regex, wildcardMatches_iff]

/-- **Wildcards.** Every pattern whose automata are small enough, as those of up to ten thousand
characters are, is an expression that accepts exactly the texts that the characters of the pattern
stand for. -/
theorem wildcard_exact (pattern : String) :
    ((wildcard? pattern).isSome ↔
      ∀ isBackward, (Glob.read pattern.toList).size isBackward ≤ Regex.sizeLimit) ∧
    (pattern.length ≤ 10000 → (wildcard? pattern).isSome) ∧
    ∀ r, wildcard? pattern = some r → ∀ term : String,
      r.accepts term.toList ↔ WildcardMatches pattern.toList term.toList :=
  ⟨isSome_wildcard?_iff, isSome_wildcard?_of_length_le,
    fun _ h term => accepts_wildcard?_iff h term.toList⟩

/-- A dot is no wildcard, a star takes line breaks, and a backslash takes the meaning from the next
character and means nothing at the end. -/
theorem wildcard_exact_lineBreak :
    ∃ r, wildcard? "a.*\\?\\" = some r ∧ r.accepts "a.\n\n?".toList ∧
      ¬r.accepts "ab?".toList := by
  obtain ⟨-, hsome, haccepts⟩ := wildcard_exact "a.*\\?\\"
  obtain ⟨r, hr⟩ := Option.isSome_iff_exists.mp (hsome (by decide))
  refine ⟨r, hr, (haccepts r hr _).mpr ?_, fun h => ?_⟩
  · have hrest : WildcardMatches ['\\', '?', '\\'] ['?'] := .escaped .backslash
    have hrun : WildcardMatches ['*', '\\', '?', '\\'] (['\n', '\n'] ++ ['?']) := .star hrest
    exact .plain (by decide) (by decide) (by decide)
      (.plain (by decide) (by decide) (by decide) hrun)
  · have hmatches := (haccepts r hr _).mp h
    have hread : Glob.read "a.*\\?\\".toList =
        [.literal 'a', .literal '.', .anyRun, .literal '?'] := by decide
    rw [wildcardMatches_iff, hread, Glob.matches_literal_iff] at hmatches
    obtain ⟨rest, hrest, hmatches⟩ := hmatches
    obtain ⟨rest', hrest', -⟩ := Glob.matches_literal_iff.mp hmatches
    rw [hrest'] at hrest
    have hdot : some 'b' = some '.' := congrArg (·[1]?) hrest
    exact absurd hdot (by decide)

end RegistrySearch.Pattern
