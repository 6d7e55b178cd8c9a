import RegistrySearch.Json.Value
import RegistrySearch.Proofs.Text.Runs

/-!
# The texts in the text of a value

Every string and every key of a value, at any depth (`Value.HasText`), stands in its text between
quotes. There a character is escaped, or stands as it is; and as long as the character in front of a
word is no control character, whose escape ends in letters or digits, the word is a run of the text,
too. Behind a control character the run has the letters of the escape in front of the word.
-/

namespace RegistrySearch.Json.Value

open Text (IsRun)
open Unicode (isAlphanumeric isAlphanumeric_of_lt ne_of_isAlphanumeric)

/-- A value has a text: as a string or as a key, at any depth. -/
inductive HasText : Value → String → Prop where
  | string (s : String) : HasText (string s) s
  | item {v : Value} {items : List Value} {s : String} (hv : v ∈ items) (h : HasText v s) :
    HasText (array items) s
  | key {k : String} {v : Value} {entries : List (String × Value)} (h : (k, v) ∈ entries) :
    HasText (object entries) k
  | entry {k : String} {v : Value} {entries : List (String × Value)} {s : String}
    (hv : (k, v) ∈ entries) (h : HasText v s) : HasText (object entries) s

/-! ### Texts of a value -/

/-! A comma stands in front of each item, but for the first, where the bracket stands. -/

theorem renderChars_array {items : List Value} (h : items ≠ []) :
    renderChars (array items) = '[' :: (renderItems items).tail := by
  obtain ⟨v, items, rfl⟩ := List.exists_cons_of_ne_nil h
  rw [renderChars, renderItems]
  rfl

theorem renderChars_object {entries : List (String × Value)} (h : entries ≠ []) :
    renderChars (object entries) = '\x7b' :: (renderEntries entries).tail := by
  obtain ⟨⟨k, v⟩, entries, rfl⟩ := List.exists_cons_of_ne_nil h
  rw [renderChars, renderEntries]
  rfl

theorem infix_tail_renderItems {v : Value} {items : List Value} (h : v ∈ items) :
    renderChars v <:+: (renderItems items).tail := by
  induction items with
  | nil => cases h
  | cons w items ih =>
    rw [renderItems, List.cons_append, List.tail_cons]
    obtain rfl | h := List.mem_cons.mp h
    · exact (List.prefix_append _ _).isInfix
    · exact (ih h).trans ((List.tail_suffix _).trans (List.suffix_append _ _)).isInfix

theorem infix_tail_renderEntries {k : String} {v : Value} {entries : List (String × Value)}
    (h : (k, v) ∈ entries) :
    quote k <:+: (renderEntries entries).tail ∧
      renderChars v <:+: (renderEntries entries).tail := by
  induction entries with
  | nil => cases h
  | cons e entries ih =>
    obtain ⟨l, w⟩ := e
    have htail : (renderEntries ((l, w) :: entries)).tail =
        quote l ++ ':' :: (renderChars w ++ renderEntries entries) := by simp [renderEntries]
    rw [htail]
    obtain he | h := List.mem_cons.mp h
    · cases he
      exact ⟨(List.prefix_append _ _).isInfix, quote k ++ [':'], renderEntries entries, by simp⟩
    · have hrest : (renderEntries entries).tail <:+
          quote l ++ ':' :: (renderChars w ++ renderEntries entries) :=
        (((List.tail_suffix _).trans (List.suffix_append _ _)).trans (List.suffix_cons _ _)).trans
          (List.suffix_append _ _)
      exact ⟨(ih h).1.trans hrest.isInfix, (ih h).2.trans hrest.isInfix⟩

theorem infix_array {v : Value} {items : List Value} (h : v ∈ items) :
    renderChars v <:+: renderChars (array items) := by
  rw [renderChars_array (List.ne_nil_of_mem h)]
  exact (infix_tail_renderItems h).trans (List.suffix_cons _ _).isInfix

theorem infix_object {k : String} {v : Value} {entries : List (String × Value)}
    (h : (k, v) ∈ entries) :
    quote k <:+: renderChars (object entries) ∧
      renderChars v <:+: renderChars (object entries) := by
  rw [renderChars_object (List.ne_nil_of_mem h)]
  have hbehind := (List.suffix_cons '\x7b' (renderEntries entries).tail).isInfix
  exact ⟨(infix_tail_renderEntries h).1.trans hbehind,
    (infix_tail_renderEntries h).2.trans hbehind⟩

/-- **Texts.** A text of a value stands in quotes in the text of the value. -/
theorem HasText.quote_infix {v : Value} {s : String} (h : v.HasText s) :
    quote s <:+: v.renderChars := by
  induction h with
  | string s =>
    have hrender : (Value.string s).renderChars = quote s := by rw [renderChars]
    exact hrender ▸ List.infix_refl _
  | item hv _ ih => exact ih.trans (infix_array hv)
  | key h => exact (infix_object h).1
  | entry hv _ ih => exact ih.trans (infix_object hv).2

/-! ### Words between quotes -/

private theorem isAlphanumeric_quote : isAlphanumeric '"' = false := by
  rw [isAlphanumeric_of_lt (by decide)]
  rfl

private theorem isAlphanumeric_backslash : isAlphanumeric '\\' = false := by
  rw [isAlphanumeric_of_lt (by decide)]
  rfl

section escapes

variable {c : Char}

/-- A character that is neither a control character nor a quote nor a backslash stands as it is. -/
theorem escapeChar_eq_singleton (h : 0x20 ≤ c.toNat) (hquote : c ≠ '"') (hescape : c ≠ '\\') :
    escapeChar c = [c] := by
  have hne : ∀ d : Char, d.toNat < 0x20 → c ≠ d := by
    rintro d hd rfl
    omega
  rw [escapeChar, if_neg hquote, if_neg hescape, if_neg (hne '\n' (by decide)),
    if_neg (hne '\r' (by decide)), if_neg (hne '\t' (by decide)), if_neg (hne '\x08' (by decide)),
    if_neg (hne '\x0c' (by decide)), if_neg (by omega)]

theorem escapeChar_of_isAlphanumeric (h : isAlphanumeric c) : escapeChar c = [c] := by
  have hge : 0x20 ≤ c.toNat := by
    refine Nat.not_lt.mp fun hlt => ?_
    have hcontrol : ∀ n < 0x20, (Char.ofNat n).isAlphanum = false := by decide
    rw [isAlphanumeric_of_lt (by omega), ← Char.ofNat_toNat c, hcontrol c.toNat hlt] at h
    cases h
  exact escapeChar_eq_singleton hge (ne_of_isAlphanumeric h (by decide) (by decide))
    (ne_of_isAlphanumeric h (by decide) (by decide))

/-- What stands for a character that is not alphanumeric does not begin with one that is. -/
theorem exists_escapeChar_eq_cons (h : isAlphanumeric c = false) :
    ∃ d t, escapeChar c = d :: t ∧ isAlphanumeric d = false := by
  by_cases hquote : c = '"'
  · exact ⟨'\\', ['"'], by rw [hquote]; rfl, isAlphanumeric_backslash⟩
  · by_cases hescape : c = '\\'
    · exact ⟨'\\', ['\\'], by rw [hescape]; rfl, isAlphanumeric_backslash⟩
    · obtain hlt | hge := Nat.lt_or_ge c.toNat 0x20
      · have hcontrol : ∀ n < 0x20, (escapeChar (Char.ofNat n)).head? = some '\\' := by decide
        have hhead := hcontrol c.toNat hlt
        rw [Char.ofNat_toNat, List.head?_eq_some_iff] at hhead
        obtain ⟨t, ht⟩ := hhead
        exact ⟨'\\', t, ht, isAlphanumeric_backslash⟩
      · exact ⟨c, [], escapeChar_eq_singleton hge hquote hescape, h⟩

/-- Only the escapes of control characters end in something else than the character. -/
theorem getLast?_escapeChar (h : 0x20 ≤ c.toNat) : (escapeChar c).getLast? = some c := by
  by_cases hquote : c = '"'
  · rw [hquote]
    rfl
  · by_cases hescape : c = '\\'
    · rw [hescape]
      rfl
    · rw [escapeChar_eq_singleton h hquote hescape]
      rfl

end escapes

/-- What follows a run does not go on with it between quotes, either. -/
private theorem after_quote {after rest : List Char}
    (h : ∀ c ∈ after.head?, isAlphanumeric c = false) :
    ∀ d ∈ (after.flatMap escapeChar ++ '"' :: rest).head?, isAlphanumeric d = false := by
  intro d hd
  cases after with
  | nil =>
    cases hd
    exact isAlphanumeric_quote
  | cons c after =>
    obtain ⟨e, t, he, halnum⟩ := exists_escapeChar_eq_cons (h c rfl)
    rw [List.flatMap_cons, he] at hd
    cases hd
    exact halnum

/-- **Words.** A run of a text that does not stand right behind a control character is a run between
quotes, wherever the quoted text stands. -/
theorem isRun_quote {before w after : List Char} (h : IsRun isAlphanumeric before w after)
    (hplain : ∀ c ∈ before.getLast?, 0x20 ≤ c.toNat) (front rest : List Char) :
    IsRun isAlphanumeric (front ++ '"' :: before.flatMap escapeChar) w
      (after.flatMap escapeChar ++ '"' :: rest) where
  ne_nil := h.ne_nil
  all := h.all
  before := by
    intro d hd
    obtain rfl | ⟨before, c, rfl⟩ := List.eq_nil_or_concat before
    · rw [List.flatMap_nil, List.getLast?_concat] at hd
      cases hd
      exact isAlphanumeric_quote
    · rw [List.concat_eq_append] at h hplain hd
      have hlast := getLast?_escapeChar (hplain c List.getLast?_concat)
      rw [List.flatMap_append, List.flatMap_singleton, ← List.cons_append, ← List.append_assoc,
        List.getLast?_append, hlast, Option.some_or, Option.mem_some_iff] at hd
      rw [← hd]
      exact h.before c List.getLast?_concat
  after := after_quote h.after

/-- Right behind a control character the run begins with the letters and digits of its escape. -/
theorem isRun_quote_control {before w after : List Char} {c : Char}
    (h : IsRun isAlphanumeric (before ++ [c]) w after) (hc : c.toNat < 0x20)
    (front rest : List Char) :
    escapeChar c = '\\' :: (escapeChar c).tail ∧
      IsRun isAlphanumeric (front ++ '"' :: before.flatMap escapeChar ++ ['\\'])
        ((escapeChar c).tail ++ w) (after.flatMap escapeChar ++ '"' :: rest) := by
  have hcontrol : ∀ n < 0x20, escapeChar (Char.ofNat n) =
      '\\' :: (escapeChar (Char.ofNat n)).tail ∧
        (escapeChar (Char.ofNat n)).tail.all fun d => d.toNat < 128 && d.isAlphanum := by
    decide
  have hescape := hcontrol c.toNat hc
  rw [Char.ofNat_toNat, List.all_eq_true] at hescape
  refine ⟨hescape.1, ⟨?_, ?_, ?_, ?_⟩⟩
  · exact List.append_ne_nil_of_right_ne_nil _ h.ne_nil
  · intro d hd
    obtain hd | hd := List.mem_append.mp hd
    · have hletter := hescape.2 d hd
      rw [Bool.and_eq_true, decide_eq_true_iff] at hletter
      rw [isAlphanumeric_of_lt hletter.1]
      exact hletter.2
    · exact h.all d hd
  · intro d hd
    rw [List.getLast?_concat, Option.mem_some_iff] at hd
    rw [← hd]
    exact isAlphanumeric_backslash
  · exact after_quote h.after

/-- Between quotes a word stands as it is. -/
theorem flatMap_escapeChar_of_isAlphanumeric {w : List Char} (h : ∀ c ∈ w, isAlphanumeric c) :
    w.flatMap escapeChar = w := by
  induction w with
  | nil => rfl
  | cons c w ih =>
    rw [List.flatMap_cons, escapeChar_of_isAlphanumeric (h c List.mem_cons_self),
      ih fun d hd => h d (List.mem_cons_of_mem c hd), List.singleton_append]

end RegistrySearch.Json.Value
