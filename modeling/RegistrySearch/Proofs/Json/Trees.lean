import RegistrySearch.Proofs.Json.Scalars

/-!
# Values are read as written

A value without doubles (`Value.IsWhole`) is written to a text that is read back as its tree,
whatever follows the text, as long as a number cannot go on. The induction follows how the value is
built; what is read behind an item is a comma or a closing bracket, which ends numbers.
-/

namespace RegistrySearch.Json

namespace Value

/-- Every number in a value is whole. -/
inductive IsWhole : Value → Prop where
  | null : IsWhole null
  | bool (b : Bool) : IsWhole (bool b)
  | number {n : Number} (h : n.IsWhole) : IsWhole (number n)
  | string (s : String) : IsWhole (string s)
  | array {items : List Value} (h : ∀ v ∈ items, IsWhole v) : IsWhole (array items)
  | object {entries : List (String × Value)} (h : ∀ e ∈ entries, IsWhole e.2) :
    IsWhole (object entries)

/-- The code points of a string. -/
def codes (s : String) : List Nat := s.toList.map Char.toNat

mutual

/-- The tree that a value is written as. -/
def tree : Value → Tree
  | null => .null
  | bool b => .bool b
  | number n => .number n.text
  | string s => .string (codes s)
  | array items => .array (itemTrees items)
  | object entries => .object (memberTrees entries)

/-- The trees that the items of an array are written as. -/
def itemTrees : List Value → List Tree
  | [] => []
  | v :: rest => tree v :: itemTrees rest

/-- The members that the entries of an object are written as. -/
def memberTrees : List (String × Value) → List (List Nat × Tree)
  | [] => []
  | (k, v) :: rest => (codes k, tree v) :: memberTrees rest

end

theorem itemTrees_eq_map (items : List Value) : itemTrees items = items.map tree := by
  induction items with
  | nil => rfl
  | cons v rest ih => rw [itemTrees, ih, List.map_cons]

theorem memberTrees_eq_map (entries : List (String × Value)) :
    memberTrees entries = entries.map fun e => (codes e.1, e.2.tree) := by
  induction entries with
  | nil => rfl
  | cons e rest ih => rw [memberTrees, ih, List.map_cons]

/-- A whole number starts with a digit or a minus. -/
theorem exists_cons_render {n : Number} (h : n.IsWhole) :
    ∃ c cs, n.render = c :: cs ∧ (c = '-' ∨ (Numeral.digit? c).isSome) := by
  rw [Tree.render_eq_integerText h, Number.integerText]
  split
  · exact ⟨'-', _, rfl, .inl rfl⟩
  · obtain ⟨c, cs, hc, hd⟩ := Tree.exists_cons_digits (n.integer?.getD 0).natAbs
    exact ⟨c, cs, hc, .inr hd⟩

/-- What a number starts with is neither a blank nor the start of another value. -/
theorem start_of_number {c : Char} (h : c = '-' ∨ (Numeral.digit? c).isSome) :
    Tree.isBlank c = false ∧ c ∉ ['[', '{', '"', 'n', 't', 'f', ']'] := by
  have hne : ∀ d, d ≠ '-' → (Numeral.digit? d).isSome = false → c ≠ d := by
    rintro d hd hnone rfl
    rcases h with h | h
    · exact hd h
    · exact Bool.noConfusion (hnone.symm.trans h)
  constructor
  · simp [Tree.isBlank, hne ' ' (by decide) rfl, hne '\n' (by decide) rfl,
      hne '\t' (by decide) rfl, hne '\r' (by decide) rfl]
  · simp [hne '[' (by decide) rfl, hne '{' (by decide) rfl, hne '"' (by decide) rfl,
      hne 'n' (by decide) rfl, hne 't' (by decide) rfl, hne 'f' (by decide) rfl,
      hne ']' (by decide) rfl]

/-- The text of a whole value starts with neither a blank nor a closing bracket. -/
theorem exists_cons_renderChars {v : Value} (h : v.IsWhole) :
    ∃ c cs, v.renderChars = c :: cs ∧ Tree.isBlank c = false ∧ c ≠ ']' := by
  cases h with
  | null => exact ⟨'n', _, rfl, rfl, by decide⟩
  | bool b => cases b <;> exact ⟨_, _, rfl, rfl, by decide⟩
  | string s => exact ⟨'"', _, rfl, rfl, by decide⟩
  | @array items _ => cases items <;> exact ⟨'[', _, rfl, rfl, by decide⟩
  | @object entries _ => cases entries <;> exact ⟨'{', _, rfl, rfl, by decide⟩
  | @number n h =>
    obtain ⟨c, cs, hc, hstart⟩ := exists_cons_render h
    obtain ⟨hblank, hother⟩ := start_of_number hstart
    refine ⟨c, cs, by rw [renderChars, hc], hblank, ?_⟩
    rintro rfl
    exact hother (by decide)

end Value

namespace Tree

/-- A tree is read in front of a text. -/
def Reads (s : List Char) (t : Tree) (rest : List Char) : Prop :=
  ∃ h, readTree? s = some (t, ⟨rest, h⟩)

/-- The items of an array are read in front of a text, with the closing bracket. -/
def ReadsItems (s : List Char) (items : List Tree) (rest : List Char) : Prop :=
  ∃ h, readItems? s = some (items, ⟨rest, h⟩)

/-- The members of an object are read in front of a text, with the closing brace. -/
def ReadsMembers (s : List Char) (members : List (List Nat × Tree)) (rest : List Char) : Prop :=
  ∃ h, readMembers? s = some (members, ⟨rest, h⟩)

/-! ### One step of reading -/

theorem skipBlanks_cons {c : Char} {s : List Char} (h : isBlank c = false) :
    skipBlanks (c :: s) = c :: s := by
  rw [skipBlanks, List.dropWhile_cons, h]
  rfl

section steps

variable {s r rest : List Char}

theorem readString?_eq {codes : List Nat} (h : readCodes? s = some (codes, rest)) :
    readString? s = some (codes, ⟨rest, length_lt_of_readCodes? h⟩) := by
  rw [readString?]
  split
  · next h' => cases h.symm.trans h'; rfl
  · next h' => cases h.symm.trans h'

theorem readNumeral?_eq {n : NumberText} (h : readNumber? s = some (n, rest)) :
    readNumeral? s = some (n, ⟨rest, length_lt_of_readNumber? h⟩) := by
  rw [readNumeral?]
  split
  · next h' => cases h.symm.trans h'; rfl
  · next h' => cases h.symm.trans h'

theorem reads_null : Reads ('n' :: 'u' :: 'l' :: 'l' :: rest) .null rest := by
  refine ⟨by simp only [List.length_cons]; omega, ?_⟩
  rw [readTree?]
  -- here and below the first character rules out all branches but one
  split
  case h_5 h => cases h; rfl
  all_goals next h => first | (cases h; done) | (cases h; contradiction)

theorem reads_true : Reads ('t' :: 'r' :: 'u' :: 'e' :: rest) (.bool true) rest := by
  refine ⟨by simp only [List.length_cons]; omega, ?_⟩
  rw [readTree?]
  split
  case h_6 h => cases h; rfl
  all_goals next h => first | (cases h; done) | (cases h; contradiction)

theorem reads_false : Reads ('f' :: 'a' :: 'l' :: 's' :: 'e' :: rest) (.bool false) rest := by
  refine ⟨by simp only [List.length_cons]; omega, ?_⟩
  rw [readTree?]
  split
  case h_7 h => cases h; rfl
  all_goals next h => first | (cases h; done) | (cases h; contradiction)

theorem reads_string {codes : List Nat} (h : readCodes? s = some (codes, rest)) :
    Reads ('"' :: s) (.string codes) rest := by
  have hlt := length_lt_of_readCodes? h
  refine ⟨by rw [List.length_cons]; omega, ?_⟩
  rw [readTree?]
  split
  case h_4 h' => cases h'; rw [readString?_eq h]; rfl
  all_goals next h => first | (cases h; done) | (cases h; contradiction)

/-- A number is read where nothing else can start. -/
theorem reads_number {c : Char} {n : NumberText} (hblank : isBlank c = false)
    (hc : c ∉ ['[', '{', '"', 'n', 't', 'f']) (h : readNumber? (c :: s) = some (n, rest)) :
    Reads (c :: s) (.number n) rest := by
  have hlt := length_lt_of_readNumber? h
  refine ⟨hlt, ?_⟩
  rw [readTree?]
  split
  case h_8 h' =>
    rw [skipBlanks_cons hblank] at h'
    cases h'
    rw [readNumeral?_eq h]
    rfl
  all_goals
    next h' =>
      rw [skipBlanks_cons hblank] at h'
      cases h'
      try exact absurd (by decide) hc

theorem reads_empty_array : Reads ('[' :: ']' :: rest) (.array []) rest := by
  refine ⟨by simp only [List.length_cons]; omega, ?_⟩
  rw [readTree?]
  split
  case h_2 h =>
    cases h
    split
    · next h' => cases h'; rfl
    · next h' => exact absurd rfl (h' rest)
  all_goals next h => first | (cases h; done) | (cases h; contradiction)

theorem reads_array {items : List Tree} (hne : ∀ r', skipBlanks r ≠ ']' :: r')
    (h : ReadsItems r items rest) : Reads ('[' :: r) (.array items) rest := by
  obtain ⟨hlt, h⟩ := h
  refine ⟨by rw [List.length_cons]; omega, ?_⟩
  rw [readTree?]
  split
  case h_2 h' =>
    cases h'
    split
    · next h'' => exact absurd h'' (hne _)
    · simp [h]
  all_goals next h => first | (cases h; done) | (cases h; contradiction)

theorem reads_empty_object : Reads ('{' :: '}' :: rest) (.object []) rest := by
  refine ⟨by simp only [List.length_cons]; omega, ?_⟩
  rw [readTree?]
  split
  case h_3 h =>
    cases h
    split
    · next h' => cases h'; rfl
    · next h' => exact absurd rfl (h' rest)
  all_goals next h => first | (cases h; done) | (cases h; contradiction)

theorem reads_object {members : List (List Nat × Tree)} (hne : ∀ r', skipBlanks r ≠ '}' :: r')
    (h : ReadsMembers r members rest) : Reads ('{' :: r) (.object members) rest := by
  obtain ⟨hlt, h⟩ := h
  refine ⟨by rw [List.length_cons]; omega, ?_⟩
  rw [readTree?]
  split
  case h_3 h' =>
    cases h'
    split
    · next h'' => exact absurd h'' (hne _)
    · simp [h]
  all_goals next h => first | (cases h; done) | (cases h; contradiction)

theorem readsItems_last {t : Tree} (h : Reads s t (']' :: rest)) : ReadsItems s [t] rest := by
  obtain ⟨hlt, h⟩ := h
  refine ⟨Nat.lt_of_succ_lt hlt, ?_⟩
  rw [readItems?, h]
  simp only [Option.bind_eq_bind, Option.bind_some]
  split
  · next h' => cases h'
  · next h' => cases h'; rfl
  · next h' => exact absurd rfl (h' rest)

theorem readsItems_cons {t : Tree} {items : List Tree} (h : Reads s t (',' :: r))
    (hitems : ReadsItems r items rest) : ReadsItems s (t :: items) rest := by
  obtain ⟨hlt, h⟩ := h
  obtain ⟨hlt', hitems⟩ := hitems
  rw [List.length_cons] at hlt
  refine ⟨by omega, ?_⟩
  rw [readItems?, h]
  simp only [Option.bind_eq_bind, Option.bind_some]
  split
  · next h' => cases h'; simp [hitems]
  · next h' => cases h'
  · next h' _ => exact absurd rfl (h' r)

theorem readKey?_eq {codes : List Nat} (h : readCodes? s = some (codes, rest)) :
    ∃ hlt, readKey? ('"' :: s) = some (codes, ⟨rest, hlt⟩) := by
  refine ⟨Nat.lt_succ_of_lt (length_lt_of_readCodes? h), ?_⟩
  rw [readKey?]
  split
  · next h' => cases h'; rw [readString?_eq h]; rfl
  · next h' => exact absurd rfl (h' s)

variable {k : String} {t : Tree}

/-- A key with its colon and a value, as they stand in front of a text. -/
private theorem readKey?_quote :
    ∃ hlt, readKey? (Value.quote k ++ ':' :: r) = some (Value.codes k, ⟨':' :: r, hlt⟩) := by
  rw [Value.quote, List.append_assoc, List.cons_append]
  exact readKey?_eq readCodes?_escaped

theorem readsMembers_last (h : Reads r t ('}' :: rest)) :
    ReadsMembers (Value.quote k ++ ':' :: r) [(Value.codes k, t)] rest := by
  obtain ⟨hkey, hk⟩ := readKey?_quote (k := k) (r := r)
  obtain ⟨hlt, h⟩ := h
  simp only [List.length_cons] at hkey hlt
  refine ⟨by omega, ?_⟩
  rw [readMembers?, hk]
  simp only [Option.bind_eq_bind, Option.bind_some]
  split
  · next h' =>
    cases h'
    simp only [h, Option.bind_some]
    split
    · next h'' => cases h''
    · next h'' => cases h''; rfl
    · next h'' => exact absurd rfl (h'' rest)
  · next h' => exact absurd rfl (h' r)

theorem readsMembers_cons {members : List (List Nat × Tree)} (h : Reads r t (',' :: s))
    (hmembers : ReadsMembers s members rest) :
    ReadsMembers (Value.quote k ++ ':' :: r) ((Value.codes k, t) :: members) rest := by
  obtain ⟨hkey, hk⟩ := readKey?_quote (k := k) (r := r)
  obtain ⟨hlt, h⟩ := h
  obtain ⟨hlt', hmembers⟩ := hmembers
  simp only [List.length_cons] at hkey hlt
  refine ⟨by omega, ?_⟩
  rw [readMembers?, hk]
  simp only [Option.bind_eq_bind, Option.bind_some]
  split
  · next h' =>
    cases h'
    simp only [h, Option.bind_some]
    split
    · next h'' => cases h''; simp [hmembers]
    · next h'' => cases h''
    · next h'' _ => exact absurd rfl (h'' s)
  · next h' => exact absurd rfl (h' r)

end steps

/-! ### The text of a value -/

/-- What stands behind an item or an entry ends a number. -/
theorem endsNumber_cons {c : Char} {rest : List Char} (h : c ∈ [',', ']', '}']) :
    EndsNumber (c :: rest) := by
  rintro _ ⟨⟩
  simp only [List.mem_cons, List.not_mem_nil, or_false] at h
  obtain rfl | rfl | rfl := h <;> decide

/-- A value is read from its text, whatever follows. -/
def ReadsBack (v : Value) : Prop :=
  ∀ rest, EndsNumber rest → Reads (v.renderChars ++ rest) v.tree rest

/-- The items of an array are read one after the other, the first one with those behind it. -/
private theorem readsItems_render {v : Value} {items : List Value} (hv : ReadsBack v)
    (h : ∀ w ∈ items, ReadsBack w) (rest : List Char) :
    ReadsItems (v.renderChars ++ (Value.renderItems items ++ rest))
      (v.tree :: Value.itemTrees items) rest := by
  induction items generalizing v with
  | nil => exact readsItems_last (hv (']' :: rest) (endsNumber_cons (by decide)))
  | cons w items ih =>
    have hw := ih (h w List.mem_cons_self) fun x hx => h x (List.mem_cons_of_mem w hx)
    rw [Value.renderItems, List.append_assoc, List.cons_append]
    exact readsItems_cons (hv _ (endsNumber_cons (by decide))) hw

private theorem renderEntries_cons {k : String} {v : Value} {entries : List (String × Value)}
    {rest : List Char} :
    Value.renderEntries ((k, v) :: entries) ++ rest =
      ',' :: (Value.quote k ++
        ':' :: (v.renderChars ++ (Value.renderEntries entries ++ rest))) := by
  simp [Value.renderEntries]

private theorem readsMembers_render {k : String} {v : Value} {entries : List (String × Value)}
    (hv : ReadsBack v) (h : ∀ e ∈ entries, ReadsBack e.2) (rest : List Char) :
    ReadsMembers (Value.quote k ++ ':' :: (v.renderChars ++ (Value.renderEntries entries ++ rest)))
      ((Value.codes k, v.tree) :: Value.memberTrees entries) rest := by
  induction entries generalizing k v with
  | nil => exact readsMembers_last (hv ('}' :: rest) (endsNumber_cons (by decide)))
  | cons e entries ih =>
    obtain ⟨k', w⟩ := e
    have hw : ReadsMembers
        (Value.quote k' ++ ':' :: (w.renderChars ++ (Value.renderEntries entries ++ rest)))
        ((Value.codes k', w.tree) :: Value.memberTrees entries) rest :=
      ih (h _ List.mem_cons_self) fun x hx => h x (List.mem_cons_of_mem _ hx)
    rw [Value.memberTrees, renderEntries_cons]
    exact readsMembers_cons (hv _ (endsNumber_cons (by decide))) hw

/-- **Text.** A whole value is read from its text, whatever follows. -/
theorem reads_renderChars {v : Value} (h : v.IsWhole) : ReadsBack v := by
  induction h with
  | null => exact fun _ _ => reads_null
  | bool b =>
    cases b
    · exact fun _ _ => reads_false
    · exact fun _ _ => reads_true
  | string s =>
    intro rest _
    rw [Value.renderChars, Value.quote, List.append_assoc, List.cons_append]
    exact reads_string readCodes?_escaped
  | @number n hn =>
    intro rest hrest
    have hread := readNumber?_render hn hrest
    obtain ⟨c, cs, hc, hstart⟩ := Value.exists_cons_render hn
    obtain ⟨hblank, hother⟩ := Value.start_of_number hstart
    rw [Value.renderChars]
    rw [hc] at hread ⊢
    exact reads_number hblank (fun hm => hother (List.mem_append_left [']'] hm)) hread
  | @array items hitems ih =>
    intro rest _
    cases items with
    | nil => exact reads_empty_array
    | cons v items =>
      obtain ⟨c, cs, hc, hblank, hne⟩ := Value.exists_cons_renderChars (hitems v List.mem_cons_self)
      rw [Value.renderChars, List.append_assoc, List.cons_append, Value.tree, Value.itemTrees]
      -- the first item does not start with the bracket that closes an empty array
      refine reads_array ?_ (readsItems_render (ih v List.mem_cons_self)
        (fun w hw => ih w (List.mem_cons_of_mem v hw)) rest)
      intro r' hr
      rw [hc, List.cons_append, skipBlanks_cons hblank] at hr
      exact hne (List.cons.inj hr).1
  | @object entries _ ih =>
    intro rest _
    cases entries with
    | nil => exact reads_empty_object
    | cons e entries =>
      obtain ⟨k, v⟩ := e
      have htext : (Value.object ((k, v) :: entries)).renderChars ++ rest =
          '{' :: (Value.quote k ++
            ':' :: (v.renderChars ++ (Value.renderEntries entries ++ rest))) := by
        simp [Value.renderChars]
      rw [htext, Value.tree, Value.memberTrees]
      refine reads_object (fun r' hr => ?_) (readsMembers_render (ih _ List.mem_cons_self)
        (fun e he => ih e (List.mem_cons_of_mem _ he)) rest)
      rw [Value.quote, List.append_assoc, List.cons_append, skipBlanks_cons rfl] at hr
      exact absurd (List.cons.inj hr).1 (by decide)

/-- A whole value is read from its text. -/
theorem read?_renderChars {v : Value} (h : v.IsWhole) : read? v.renderChars = some v.tree := by
  have hreads := reads_renderChars h [] (fun _ hc => nomatch hc)
  rw [List.append_nil] at hreads
  obtain ⟨hlt, hread⟩ := hreads
  rw [read?, hread]
  rfl

end Tree

end RegistrySearch.Json
