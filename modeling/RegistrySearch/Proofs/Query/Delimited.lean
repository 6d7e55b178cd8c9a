import RegistrySearch.Proofs.Query.Words
import RegistrySearch.Query.Printer

/-!
# Texts in delimiters are read as they are written

A quoted text, a regular expression and the bounds of a range are read up to their delimiters, if
they have no character that is taken for the delimiter. Escaping makes that so for every text
between quotes (`readQuoted?_escaped`); for a pattern it depends on its own escapes, which must not
reach past the end (`isClosed`); and a bound is read as it is only if it is in normal form
(`Bound.IsPlain`).

Quoted texts and regular expressions have their reader in common, up to the closing character. What
it reads does not depend on what follows that character (`ReadsUpTo.exists_front`).
-/

namespace RegistrySearch.Query

open Text (normalize)
open Unicode

/-! ### Quoted texts and regular expressions -/

theorem readQuoted?_cons {c : Char} {s : List Char} (hquote : c ≠ '"') (hescape : c ≠ '\\') :
    readQuoted? (c :: s) = (readQuoted? s).map fun (text, rest) => (c :: text, rest) := by
  rw [readQuoted?.eq_def]
  split
  · next h => cases h
  · next h => cases h; exact absurd rfl hquote
  · next h => cases h; exact absurd rfl hescape
  · next h => cases h; exact absurd rfl hescape
  · next h => cases h; rfl

/-- A text without quotes and backslashes is read up to the closing quote. -/
theorem readQuoted?_append {text rest : List Char} (h : ∀ c ∈ text, c ≠ '"' ∧ c ≠ '\\') :
    readQuoted? (text ++ '"' :: rest) = some (text, rest) := by
  induction text with
  | nil => rfl
  | cons c text ih =>
    obtain ⟨hquote, hescape⟩ := h c List.mem_cons_self
    rw [List.cons_append, readQuoted?_cons hquote hescape,
      ih fun d hd => h d (List.mem_cons_of_mem c hd)]
    rfl

/-- A text as it is typed between quotes: with a backslash in front of quotes and backslashes. -/
def escaped (text : List Char) : List Char :=
  text.flatMap fun c => if c = '"' ∨ c = '\\' then ['\\', c] else [c]

/-- Every text is read back from between quotes. -/
theorem readQuoted?_escaped (text rest : List Char) :
    readQuoted? (escaped text ++ '"' :: rest) = some (text, rest) := by
  induction text with
  | nil => rfl
  | cons c text ih =>
    rw [escaped, List.flatMap_cons, ← escaped, List.append_assoc]
    split
    · rw [List.cons_append, List.singleton_append, readQuoted?, ih]
      rfl
    · next hplain =>
      rw [not_or] at hplain
      rw [List.singleton_append, readQuoted?_cons hplain.1 hplain.2, ih]
      rfl

/-- Read in pairs, every backslash of a pattern is followed by a character, so that none takes the
closing slash with it. -/
def isClosed : List Char → Bool
  | [] => true
  | ['\\'] => false
  | '\\' :: _ :: rest => isClosed rest
  | _ :: rest => isClosed rest

theorem readRegexp?_cons {c : Char} {s : List Char} (hslash : c ≠ '/') (hescape : c ≠ '\\') :
    readRegexp? (c :: s) = (readRegexp? s).map fun (pattern, rest) => (c :: pattern, rest) := by
  rw [readRegexp?.eq_def]
  split
  · next h => cases h
  · next h => cases h; exact absurd rfl hslash
  · next h => cases h; exact absurd rfl hescape
  · next h => cases h; exact absurd rfl hescape
  · next h => cases h; rfl

theorem readRegexp?_escape {c : Char} {s : List Char} (hslash : c ≠ '/') :
    readRegexp? ('\\' :: c :: s) =
      (readRegexp? s).map fun (pattern, rest) => ('\\' :: c :: pattern, rest) := by
  simp only [readRegexp?, if_neg hslash]

/-- A pattern without slashes is read as it is, up to the closing slash. -/
theorem readRegexp?_append {pattern rest : List Char} (hclosed : isClosed pattern)
    (h : '/' ∉ pattern) : readRegexp? (pattern ++ '/' :: rest) = some (pattern, rest) := by
  fun_induction isClosed pattern with
  | case1 => rfl
  | case2 => cases hclosed
  | case3 c pattern ih =>
    simp only [List.mem_cons, not_or] at h
    rw [List.cons_append, List.cons_append, readRegexp?_escape (Ne.symm h.2.1), ih hclosed h.2.2]
    rfl
  | case4 c pattern hlone hpair ih =>
    simp only [List.mem_cons, not_or] at h
    rw [List.cons_append, readRegexp?_cons (Ne.symm h.1) (ne_escape hlone hpair), ih hclosed h.2]
    rfl

/-! ### Readers up to a closing character -/

/-- A reader up to a closing character that leaves `kept` of an escaped character. -/
structure ReadsUpTo (closing : Char) (kept : Char → List Char)
    (read : List Char → Option (List Char × List Char)) : Prop where
  nil : read [] = none
  closed : ∀ t, read (closing :: t) = some ([], t)
  lone : read ['\\'] = none
  escaped : ∀ c t, read ('\\' :: c :: t) = (read t).map fun (text, rest) => (kept c ++ text, rest)
  plain : ∀ c t, c ≠ closing → c ≠ '\\' →
    read (c :: t) = (read t).map fun (text, rest) => (c :: text, rest)

theorem readsUpTo_quoted : ReadsUpTo '"' (fun c => [c]) readQuoted? where
  nil := rfl
  closed _ := rfl
  lone := rfl
  escaped _ _ := rfl
  plain _ _ := readQuoted?_cons

theorem readsUpTo_regexp :
    ReadsUpTo '/' (fun c => if c = '/' then ['/'] else ['\\', c]) readRegexp? where
  nil := rfl
  closed _ := rfl
  lone := rfl
  escaped c t := by
    rw [readRegexp?]
    split <;> rfl
  plain _ _ := readRegexp?_cons

namespace ReadsUpTo

variable {closing : Char} {kept : Char → List Char} {s text rest : List Char}
  {read : List Char → Option (List Char × List Char)}

/-- What is read up to the closing character is read whatever follows it. -/
theorem exists_front (hread : ReadsUpTo closing kept read) (h : read s = some (text, rest)) :
    ∃ front, s = front ++ rest ∧ ∀ t, read (front ++ t) = some (text, t) := by
  -- The induction takes an escape together with the character behind it, as the reader does.
  induction s using isClosed.induct generalizing text rest with
  | case1 =>
    rw [hread.nil] at h
    cases h
  | case2 =>
    rw [hread.lone] at h
    cases h
  | case3 c s ih =>
    rw [hread.escaped] at h
    obtain ⟨⟨text', r⟩, hs, he⟩ := Option.map_eq_some_iff.mp h
    cases he
    obtain ⟨front, rfl, hfront⟩ := ih hs
    refine ⟨'\\' :: c :: front, rfl, fun t => ?_⟩
    rw [List.cons_append, List.cons_append, hread.escaped, hfront]
    rfl
  | case4 c s hlone hpair ih =>
    by_cases hclosing : c = closing
    · subst hclosing
      rw [hread.closed] at h
      cases h
      exact ⟨[c], rfl, hread.closed⟩
    · have hplain := fun t => hread.plain c t hclosing (ne_escape hlone hpair)
      rw [hplain] at h
      obtain ⟨⟨text', r⟩, hs, he⟩ := Option.map_eq_some_iff.mp h
      cases he
      obtain ⟨front, rfl, hfront⟩ := ih hs
      refine ⟨c :: front, rfl, fun t => ?_⟩
      rw [List.cons_append, hplain, hfront]
      rfl

theorem suffix (hread : ReadsUpTo closing kept read) (h : read s = some (text, rest)) :
    rest <:+ s := by
  obtain ⟨front, hs, -⟩ := hread.exists_front h
  exact ⟨front, hs.symm⟩

theorem append_right (hread : ReadsUpTo closing kept read) (h : read s = some (text, rest))
    (t : List Char) : read (s ++ t) = some (text, rest ++ t) := by
  obtain ⟨front, rfl, hfront⟩ := hread.exists_front h
  rw [List.append_assoc, hfront]

end ReadsUpTo

/-! ### Ranges -/

/-- A text of a bound that needs no quotes: alphanumeric, behind a minus or not, in normal form. -/
structure IsBoundText (v : String) : Prop where
  alphanumeric : ∃ t : List Char, t ≠ [] ∧ (∀ c ∈ t, isAlphanumeric c) ∧
    (v.toList = t ∨ v.toList = '-' :: t)
  normalize_eq : normalize v = v

namespace Bound

/-- A bound that is written without quotes. -/
def IsPlain : Bound → Prop
  | unbounded => True
  | inclusive v => IsBoundText v
  | exclusive v => IsBoundText v

/-- The text of a bound, without its bracket. -/
def text : Bound → List Char
  | unbounded => ['*']
  | inclusive v => v.toList
  | exclusive v => v.toList

/-- Whether the bracket of a bound includes it. -/
def isInclusive : Bound → Bool
  | exclusive _ => false
  | _ => true

theorem renderLower_eq (b : Bound) :
    b.renderLower = (if b.isInclusive then '[' else '{') :: b.text := by
  cases b <;> rfl

theorem renderUpper_eq (b : Bound) :
    b.renderUpper = b.text ++ [if b.isInclusive then ']' else '}'] := by
  cases b <;> rfl

theorem ofValue?_value? (b : Bound) : ofValue? b.isInclusive b.value? = b := by
  cases b <;> rfl

end Bound

/-- Whether a character can stand in the text of a plain bound. -/
def isBoundChar (c : Char) : Bool := isAlphanumeric c || c = '-' || c = '*'

theorem not_endsBound_of_isBoundChar {c : Char} (h : isBoundChar c) : endsBound c = false := by
  simp only [isBoundChar, Bool.or_eq_true, decide_eq_true_eq] at h
  obtain (h | rfl) | rfl := h
  · simp only [endsBound, not_isBlank_of_isAlphanumeric h,
      ne_of_isAlphanumeric h (d := ']') (by decide) (by decide),
      ne_of_isAlphanumeric h (d := '}') (by decide) (by decide), decide_false, Bool.or_self]
  all_goals rfl

theorem ne_quote_of_isBoundChar {c : Char} (h : isBoundChar c) : c ≠ '"' := by
  simp only [isBoundChar, Bool.or_eq_true, decide_eq_true_eq] at h
  obtain (h | rfl) | rfl := h
  · exact ne_of_isAlphanumeric h (by decide) (by decide)
  all_goals decide

namespace IsBoundText

variable {v : String}

theorem toList_ne_nil (h : IsBoundText v) : v.toList ≠ [] := by
  obtain ⟨t, hne, -, ht | ht⟩ := h.alphanumeric
  · exact ht ▸ hne
  · exact ht ▸ List.cons_ne_nil _ _

theorem isBoundChar_of_mem (h : IsBoundText v) {c : Char} (hc : c ∈ v.toList) : isBoundChar c := by
  obtain ⟨t, -, halnum, ht⟩ := h.alphanumeric
  have hmem : c = '-' ∨ c ∈ t := by
    obtain ht | ht := ht <;> rw [ht] at hc
    · exact .inr hc
    · exact List.mem_cons.mp hc
  obtain rfl | hmem := hmem
  · simp only [isBoundChar, decide_true, Bool.or_true, Bool.true_or]
  · simp only [isBoundChar, halnum c hmem, Bool.true_or]

/-- The text of a bound is not taken for a missing bound. -/
theorem toList_ne_star (h : IsBoundText v) : v.toList ≠ ['*'] := by
  intro hstar
  obtain ⟨t, hne, halnum, ht⟩ := h.alphanumeric
  rw [hstar] at ht
  obtain rfl | ht := ht
  · exact ne_of_isAlphanumeric (halnum '*' List.mem_cons_self) (by decide) (by decide) rfl
  · cases ht

end IsBoundText

theorem Bound.text_ne_nil {b : Bound} (h : b.IsPlain) : b.text ≠ [] := by
  cases b with
  | unbounded => exact List.cons_ne_nil _ _
  | inclusive v => exact IsBoundText.toList_ne_nil h
  | exclusive v => exact IsBoundText.toList_ne_nil h

theorem Bound.isBoundChar_of_mem_text {b : Bound} (h : b.IsPlain) {c : Char} (hc : c ∈ b.text) :
    isBoundChar c := by
  cases b with
  | unbounded =>
    obtain rfl := List.mem_singleton.mp hc
    simp only [isBoundChar, decide_true, Bool.or_true]
  | inclusive v => exact IsBoundText.isBoundChar_of_mem h hc
  | exclusive v => exact IsBoundText.isBoundChar_of_mem h hc

theorem readBound_of_ne {s : List Char} (h : s.head? ≠ some '"') :
    readBound s = match s.takeWhile fun c => !endsBound c with
      | [] => .error ⟨.missingBound, s⟩
      | ['*'] => .ok (none, s.dropWhile fun c => !endsBound c)
      | text => .ok (some (normalize (String.ofList text)), s.dropWhile fun c => !endsBound c) := by
  rw [readBound.eq_def]
  split
  · exact absurd rfl h
  · rfl

/-- A text is read as a bound, in front of a blank or a closing bracket. -/
structure ReadsBound (s : List Char) (value? : Option String) : Prop where
  skipBlanks_eq : ∀ rest, skipBlanks (s ++ rest) = s ++ rest
  read : ∀ c rest, endsBound c → readBound (s ++ c :: rest) = .ok (value?, c :: rest)

/-- A text in which no bound ends and no quote begins is read in normal form. A lone `*` is no
bound. -/
theorem readsBound_of_forall {s : List Char} (hne : s ≠ []) (hends : ∀ c ∈ s, endsBound c = false)
    (hquote : s.head? ≠ some '"') :
    ReadsBound s (if s = ['*'] then none else some (normalize (String.ofList s))) where
  skipBlanks_eq rest := by
    obtain ⟨c, t, rfl⟩ := List.exists_cons_of_ne_nil hne
    have hc := hends c List.mem_cons_self
    simp only [endsBound, Bool.or_eq_false_iff] at hc
    rw [List.cons_append, skipBlanks_of_not_isBlank hc.1.1]
  read c rest hc := by
    have hchars : ∀ d ∈ s, (!endsBound d) = true := fun d hd => by
      rw [hends d hd]
      rfl
    have htake : (s ++ c :: rest).takeWhile (fun c => !endsBound c) = s := by
      rw [List.takeWhile_append_of_pos hchars, List.takeWhile_cons_of_neg (by simp [hc]),
        List.append_nil]
    have hdrop : (s ++ c :: rest).dropWhile (fun c => !endsBound c) = c :: rest := by
      rw [List.dropWhile_append_of_pos hchars, List.dropWhile_cons_of_neg (by simp [hc])]
    have hhead : (s ++ c :: rest).head? ≠ some '"' := by
      rwa [List.head?_append, Option.or_of_isSome (List.isSome_head?.mpr hne)]
    rw [readBound_of_ne hhead, htake, hdrop]
    split
    · exact absurd rfl hne
    · rfl
    · next hstar => rw [if_neg hstar]

/-- A plain bound is read. -/
theorem Bound.readsBound {b : Bound} (h : b.IsPlain) : ReadsBound b.text b.value? := by
  have hends : ∀ c ∈ b.text, endsBound c = false := fun c hc =>
    not_endsBound_of_isBoundChar (isBoundChar_of_mem_text h hc)
  have hquote : b.text.head? ≠ some '"' := fun he =>
    ne_quote_of_isBoundChar (isBoundChar_of_mem_text h (List.mem_of_mem_head? he)) rfl
  have hread := readsBound_of_forall (text_ne_nil h) hends hquote
  have hvalue : ∀ v, IsBoundText v → b.text = v.toList → ReadsBound b.text (some v) := by
    intro v hv ht
    rwa [ht, if_neg hv.toList_ne_star, String.ofList_toList, hv.normalize_eq, ← ht] at hread
  cases b with
  | unbounded => exact hread
  | inclusive v => exact hvalue v h rfl
  | exclusive v => exact hvalue v h rfl

/-- Two bounds are read between their brackets. -/
theorem readRange_bounds {l u : List Char} {lower? upper? : Option String}
    (hl : ReadsBound l lower?) (hu : ReadsBound u upper?) (isInclusive closes : Bool)
    (field : String) (s rest : List Char) :
    readRange field s isInclusive (l ++ ' ' :: 'T' :: 'O' :: ' ' :: (u ++
        (if closes then ']' else '}') :: rest)) =
      .ok (.range field (.ofValue? isInclusive lower?) (.ofValue? closes upper?), rest) := by
  have hclose : endsBound (if closes then ']' else '}') := by
    cases closes <;> rfl
  have hspace : ∀ t, skipBlanks (' ' :: t) = skipBlanks t := fun t => rfl
  have hto : ∀ t, dropKeyword? ['T', 'O'] (skipBlanks (' ' :: 'T' :: 'O' :: ' ' :: t)) =
      some (' ' :: t) := fun t => rfl
  rw [readRange, hl.skipBlanks_eq, hl.read _ _ rfl]
  simp only [bind, Except.bind, hto]
  rw [hspace, hu.skipBlanks_eq, hu.read _ _ hclose]
  cases closes <;> rfl

/-- Plain bounds are read between their brackets. -/
theorem readRange_text {lower upper : Bound} (hl : lower.IsPlain) (hu : upper.IsPlain)
    (field : String) (s rest : List Char) :
    readRange field s lower.isInclusive (lower.text ++ ' ' :: 'T' :: 'O' :: ' ' :: (upper.text ++
        (if upper.isInclusive then ']' else '}') :: rest)) =
      .ok (.range field lower upper, rest) := by
  rw [readRange_bounds (Bound.readsBound hl) (Bound.readsBound hu), lower.ofValue?_value?,
    upper.ofValue?_value?]

end RegistrySearch.Query
