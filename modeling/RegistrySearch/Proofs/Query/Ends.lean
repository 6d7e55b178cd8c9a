import RegistrySearch.Proofs.Query.Continuation

/-!
# What stands at the end of a query

A query that is read to its end is read in the same way in front of other texts, but for two things.
A word at its end goes on if what follows can belong to a word (`Extends`). And a plus or minus that
stands alone at its end, where it is a word, is a sign in front of something (`Dangles`).

In all other cases the query is read as before, and what stands behind it as further alternatives
(`Reads.alternatives_append`).
-/

namespace RegistrySearch.Query

open Unicode (isBlank)

variable {field : String} {s t r rest : List Char} {w : Word}

/-- What a word takes of a text `t` behind it: the characters `w`, up to the rest `r`. -/
structure Extends (t : List Char) (w : Word) (r : List Char) : Prop where
  interrupts : Interrupts t
  readTyped_eq : readTyped t = .ok (w, r)
  head?_ne : r.head? ≠ some ':'

/-- Whether a character ends all that can be open in front of it, but for a group. -/
def isBreak (c : Char) : Bool := isBlank c || c = ')'

/-- A word takes nothing of a blank or a closing parenthesis. -/
theorem extends_of_isBreak {c : Char} (hc : isBreak c) (t : List Char) :
    Extends (c :: t) [] (c :: t) where
  interrupts := by
    have hoperators : (operators.all fun word => word.all fun d => !isBreak d) = true := by decide
    refine interrupts_of_head? fun d hd word hword hmem => ?_
    cases hd
    have hnot := List.all_eq_true.mp (List.all_eq_true.mp hoperators word hword) c hmem
    rw [hc] at hnot
    cases hnot
  readTyped_eq := by
    have hescape : c ≠ '\\' := by
      rintro rfl
      exact absurd hc (by decide)
    have hends : (isBlank c || isSpecial c) = true := by
      simp only [isBreak, Bool.or_eq_true, decide_eq_true_eq] at hc
      obtain hc | rfl := hc
      · rw [hc, Bool.true_or]
      · decide
    rw [readTyped_cons hescape, if_pos hends]
  head?_ne := by
    intro he
    cases he
    exact absurd hc (by decide)

/-- What is left in front of `t`: what was left, or what a word leaves that goes on in `t`. -/
def Leaves (t r rest rest' : List Char) : Prop := rest' = rest ++ t ∨ rest = [] ∧ rest' = r

/-! ### Clauses -/

/-- A value that leaves nothing goes on in the text behind it, if it ends with a word. -/
theorem Reads.value_append {x : Option Clause} (h : Reads .value field s x rest)
    (ht : Extends t w r) : ∃ x' rest', Leaves t r rest rest' ∧ (w = [] → x' = x) ∧
      Reads .value field (s ++ t) x' rest' := by
  by_cases hrest : rest = []
  · subst hrest
    cases h with
    | delimitedValue h =>
      have h' := h.append ht.interrupts (.inl rfl) trivial
      rw [← skipBlanks_append (h.ne_nil trivial)] at h'
      exact ⟨x, t, .inl rfl, fun _ => rfl, .delimitedValue h'⟩
    | wordValue hs hv =>
      obtain ⟨c, body, hskip⟩ := exists_cons_of_readWord hv
      have hne : skipBlanks s ≠ [] := hskip ▸ List.cons_ne_nil c body
      have hs' := hs.append hne t
      have hv' := readWord_append_of_nil hv ht.readTyped_eq
      rw [← skipBlanks_append hne] at hs' hv'
      refine ⟨_, r, .inr ⟨rfl, rfl⟩, ?_, .wordValue hs' hv'⟩
      rintro rfl
      rw [List.append_nil]
  · exact ⟨x, rest ++ t, .inl rfl, fun _ => rfl, h.append ht.interrupts (.inr hrest) trivial⟩

theorem Reads.primary_append {x : Option Clause} (h : Reads .primary field s x rest)
    (ht : Extends t w r) : ∃ x' rest', Leaves t r rest rest' ∧ (w = [] → x' = x) ∧
      Reads .primary field (s ++ t) x' rest' := by
  by_cases hrest : rest = []
  · subst hrest
    have hs := h.ne_nil trivial
    cases h with
    | delimited h =>
      exact ⟨x, t, .inl rfl, fun _ => rfl,
        .delimited (h.append ht.interrupts (.inl rfl) trivial)⟩
    | qualified hbegins hstray hv h =>
      obtain ⟨x', rest', hleaves, hx, h'⟩ := h.value_append ht
      exact ⟨x', rest', hleaves, hx, .qualified (hbegins.append hs t)
        (strayOperator?_append hs hstray ht.interrupts)
        (readWord_append hv (List.cons_ne_nil _ _) t) h'⟩
    | word hbegins hstray hv hcolon =>
      refine ⟨_, r, .inr ⟨rfl, rfl⟩, ?_, .word (hbegins.append hs t)
        (strayOperator?_append hs hstray ht.interrupts)
        (readWord_append_of_nil hv ht.readTyped_eq) ht.head?_ne⟩
      rintro rfl
      rw [List.append_nil]
  · exact ⟨x, rest ++ t, .inl rfl, fun _ => rfl, h.append ht.interrupts (.inr hrest) trivial⟩

/-! ### Signs -/

/-- A text that belongs to a sign right in front of it. -/
structure Touches (t : List Char) : Prop where
  interrupts : Interrupts t
  exists_cons : ∃ c u, t = c :: u ∧ isBlank c = false

/-- At the end of a text stands a sign alone: in front of other texts it waits for an operand. -/
structure Dangles {α : Type} (read : List Char → Except Failure α) (field : String)
    (s : List Char) : Prop where
  sign : ∃ c ∈ s.getLast?, (attached? c).isSome
  read_eq : ∀ t e, Touches t → outcome (readSigned field t) = .error e → read (s ++ t) = .error e

/-- A sign at the end of a part of a text is one at the end of the text. -/
theorem Dangles.of_suffix {α β : Type} {read : List Char → Except Failure α}
    {read' : List Char → Except Failure β} {u : List Char} (h : Dangles read field u)
    (hu : u <:+ s)
    (hread : ∀ t e, Touches t → read (u ++ t) = .error e → read' (s ++ t) = .error e) :
    Dangles read' field s where
  sign := by
    obtain ⟨c, hc, hsign⟩ := h.sign
    obtain ⟨v, rfl⟩ := hu
    exact ⟨c, by rw [List.getLast?_append, Option.mem_def.mp hc, Option.some_or, Option.mem_def],
      hsign⟩
  read_eq t e ht he := hread t e ht (h.read_eq t e ht he)

/-- A character that stands alone is a sign in front of something exactly if it is one by itself. -/
theorem dropSign?_cons {c d : Char} {v : List Char} (h : dropSign? [c] = none)
    (hv : Interrupts (d :: v)) :
    dropSign? (c :: d :: v) = if isBlank d then none else (attached? c).map (·, d :: v) := by
  have hoperator : dropOperator? ['N', 'O', 'T'] ['!'] [c] = none := by
    rw [dropSign?_eq] at h
    split at h
    · cases h
    · assumption
  have hdrop : dropOperator? ['N', 'O', 'T'] ['!'] ([c] ++ d :: v) = _ :=
    dropOperator?_append (List.cons_ne_nil c []) (by rw [hoperator]; exact nofun)
      (hv _ (by decide)) not_straddles_bang
  rw [hoperator, List.singleton_append, Option.map_none] at hdrop
  rw [dropSign?_eq, hdrop]

/-- What is read as a word at the end of a text and as a sign in front of another one is a plus or a
minus. -/
theorem exists_sign_of_dropSign? {p : Occur × List Char} (hs : s ≠ []) (h : dropSign? s = none)
    (ht : Interrupts t) (hsome : dropSign? (s ++ t) = some p) :
    Touches t ∧ ∃ c occur, s = [c] ∧ attached? c = some occur := by
  have hlone : ∃ c, s = [c] ∧ attached? c ≠ none := by
    refine Classical.byContradiction fun hlone => ?_
    have hnone : ∀ c, s = [c] → attached? c = none := fun c hc =>
      Classical.byContradiction fun hne => hlone ⟨c, hc, hne⟩
    rw [dropSign?_append_eq_none hs hnone h ht] at hsome
    cases hsome
  obtain ⟨c, rfl, hc⟩ := hlone
  obtain ⟨occur, hoccur⟩ := Option.ne_none_iff_exists'.mp hc
  cases t with
  | nil =>
    rw [List.append_nil, h] at hsome
    cases hsome
  | cons d v =>
    rw [List.singleton_append, dropSign?_cons h ht] at hsome
    split at hsome
    · cases hsome
    · next hd => exact ⟨⟨ht, d, v, rfl, Bool.not_eq_true _ ▸ hd⟩, c, occur, rfl, hoccur⟩

/-- An operand goes on in the text behind it, if it ends with a word. If it ends with a sign that
stands alone, it is no operand any more. -/
theorem Reads.signed_append {s : List Char} {x : Option Item} (h : Reads .signed field s x rest)
    (ht : Extends t w r) : (∃ x' rest', Leaves t r rest rest' ∧ (w = [] → x' = x) ∧
      Reads .signed field (s ++ t) x' rest') ∨
        rest = [] ∧ Touches t ∧ Dangles (Part.signed.read field) field s := by
  cases h with
  | @sign _ _ u _ occur item hsign hitem =>
    have hu := hitem.ne_nil trivial
    have hs := dropSign?_some_ne_nil hsign
    -- an operand behind its sign is shorter, which is what the recursion is on
    have hlt : u.length < s.length :=
      Nat.lt_of_lt_of_le (length_lt_of_dropSign? hsign) (length_skipBlanks_le s)
    have hskip : ∀ v, Interrupts v → dropSign? (skipBlanks (s ++ v)) = some (occur, u ++ v) :=
      fun v hv => by rw [skipBlanks_append hs, dropSign?_append_some hsign hu hv]
    obtain ⟨item', rest', hleaves, hx, hitem'⟩ | ⟨hrest, htouches, hdangles⟩ :=
      hitem.signed_append ht
    · exact .inl ⟨_, rest', hleaves, fun hw => by rw [hx hw],
        .sign (hskip t ht.interrupts) hitem'⟩
    · refine .inr ⟨hrest, htouches, hdangles.of_suffix
        ((dropSign?_suffix hsign).trans (skipBlanks_suffix s)) fun v e hv he => ?_⟩
      rw [Part.read] at he
      rw [Part.read, outcome_readSigned, hskip v hv.interrupts]
      dsimp only
      rw [he, error_bind]
  | unsigned hsign hclause =>
    have hs := hclause.ne_nil trivial
    obtain ⟨x', rest', hleaves, hx, hclause'⟩ := hclause.primary_append ht
    rw [← skipBlanks_append hs] at hclause'
    cases hdrop : dropSign? (skipBlanks (s ++ t)) with
    | none => exact .inl ⟨_, rest', hleaves, fun hw => by rw [hx hw], .unsigned hdrop hclause'⟩
    | some p =>
      -- in front of `t` the word has become a sign
      rw [skipBlanks_append hs] at hdrop
      obtain ⟨htouches, c, occur, hc, hoccur⟩ :=
        exists_sign_of_dropSign? hs hsign ht.interrupts hdrop
      rw [hc] at hsign hclause
      have hrest : rest = [] := List.eq_nil_of_length_eq_zero
        (Nat.lt_one_iff.mp (hclause.length_lt trivial))
      refine .inr ⟨hrest, htouches, ⟨c, ?_, by rw [hoccur]; rfl⟩, fun v e hv he => ?_⟩
      · obtain ⟨u, hu⟩ := skipBlanks_suffix s
        rw [← hu, hc, List.getLast?_concat]
        rfl
      · obtain ⟨d, u, rfl, hd⟩ := hv.exists_cons
        have hread : skipBlanks (s ++ d :: u) = c :: d :: u := by
          rw [skipBlanks_append hs, hc, List.singleton_append]
        rw [Part.read, outcome_readSigned, hread, dropSign?_cons hsign hv.interrupts, hd, hoccur]
        dsimp only [Option.map_some]
        rw [if_neg Bool.false_ne_true]
        dsimp only
        rw [he, error_bind]
termination_by s.length

/-! ### Conjunctions -/

/-- Reads the operands of a conjunction. -/
def readRow (field : String) (s : List Char) : Except Failure (List Item × List Char) := do
  let (first, rest) ← outcome (readSigned field s)
  let (others, rest) ← outcome (readOperands field rest)
  .ok (first.toList ++ others, rest)

/-- Items in front of those that are read. -/
def prepend (items : List Item) (read : Except Failure (List Item × List Char)) :
    Except Failure (List Item × List Char) := do
  let (more, rest) ← read
  .ok (items ++ more, rest)

theorem prepend_ok (items more : List Item) (rest : List Char) :
    prepend items (.ok (more, rest)) = .ok (items ++ more, rest) := rfl

theorem prepend_error (items : List Item) (e : Failure) : prepend items (.error e) = .error e := rfl

theorem prepend_nil (read : Except Failure (List Item × List Char)) : prepend [] read = read := by
  cases read <;> rfl

theorem prepend_prepend (items more : List Item) (read : Except Failure (List Item × List Char)) :
    prepend items (prepend more read) = prepend (items ++ more) read := by
  cases read with
  | error e => rfl
  | ok p => simp only [prepend, ok_bind, List.append_assoc]

theorem outcome_readConjunction_eq (field : String) (s : List Char) :
    outcome (readConjunction field s) = (do
      let (items, rest) ← readRow field s
      .ok (conjunction? items, rest)) := by
  rw [outcome_readConjunction, readRow]
  cases outcome (readSigned field s) with
  | error e => rfl
  | ok p =>
    simp only [ok_bind]
    cases outcome (readOperands field p.2) <;> rfl

/-- Further operands are operands behind their operator. -/
theorem outcome_readOperands_eq {u : List Char} (h : dropAnd? (skipBlanks s) = some u) :
    outcome (readOperands field s) = readRow field u := by
  rw [outcome_readOperands, h]
  rfl

theorem readRow_eq {first : Option Item} (h : Reads .signed field s first rest) :
    readRow field s = prepend first.toList (outcome (readOperands field rest)) := by
  have hread : outcome (readSigned field s) = .ok (first, rest) := h.read_eq
  rw [readRow, hread, ok_bind]
  rfl

theorem readRow_eq_error {e : Failure} (h : outcome (readSigned field s) = .error e) :
    readRow field s = .error e := by
  rw [readRow, h, error_bind]

/-- Operands go on in the text behind them, with the last one and with further ones. -/
theorem row_append {s middle : List Char} {first : Option Item} {others : List Item}
    (hfirst : Reads .signed field s first middle)
    (hothers : Reads .operands field middle others rest) (ht : Extends t w r) :
    (∃ items rest', Leaves t r rest rest' ∧ (w = [] → items = first.toList ++ others) ∧
      readRow field (s ++ t) = prepend items (outcome (readOperands field rest'))) ∨
        rest = [] ∧ Touches t ∧ Dangles (readRow field) field s := by
  cases hothers with
  | last h =>
    obtain ⟨first', rest', hleaves, hx, hfirst'⟩ | ⟨hrest, htouches, hdangles⟩ :=
      hfirst.signed_append ht
    · refine .inl ⟨_, rest', hleaves, fun hw => ?_, readRow_eq hfirst'⟩
      rw [hx hw, List.append_nil]
    · exact .inr ⟨hrest, htouches,
        hdangles.of_suffix List.suffix_rfl fun v e _ he => readRow_eq_error he⟩
  | @operand _ _ u next _ operand others h hoperand hothers =>
    have hskip := dropAnd?_some_ne_nil h
    have hu : u <:+ s := (dropAnd?_suffix h).trans ((skipBlanks_suffix middle).trans hfirst.suffix)
    have hlt : u.length < s.length := Nat.lt_of_lt_of_le (length_lt_of_dropAnd? h)
      ((skipBlanks_suffix middle).trans hfirst.suffix).length_le
    -- the first operand leaves the operator of the next one, so only the rest of the row goes on
    have hrow : ∀ v, Interrupts v →
        readRow field (s ++ v) = prepend first.toList (readRow field (u ++ v)) := by
      intro v hv
      have hdrop : dropAnd? (skipBlanks (middle ++ v)) = some (u ++ v) := by
        rw [skipBlanks_append hskip, dropAnd?_append_some h (hoperand.ne_nil trivial) hv]
      rw [readRow_eq (hfirst.append hv (.inr (ne_nil_of_skipBlanks_ne_nil hskip)) trivial),
        outcome_readOperands_eq hdrop]
    obtain ⟨items, rest', hleaves, hitems, hread⟩ | ⟨hrest, htouches, hdangles⟩ :=
      row_append hoperand hothers ht
    · refine .inl ⟨first.toList ++ items, rest', hleaves, fun hw => by rw [hitems hw], ?_⟩
      rw [hrow t ht.interrupts, hread, prepend_prepend]
    · refine .inr ⟨hrest, htouches, hdangles.of_suffix hu fun v e hv he => ?_⟩
      rw [hrow v hv.interrupts, he, prepend_error]
termination_by s.length

/-! ### Alternatives -/

/-- Nothing is read off blanks. -/
theorem Reads.items_eq_nil {isFirst : Bool} {items : List Item}
    (h : Reads (.alternatives isFirst) field s items rest) (hs : skipBlanks s = []) :
    items = [] := by
  cases h with
  | finished h => rfl
  | closed h => rfl
  | alternative h => rw [h] at hs; cases hs

/-- Behind blanks the further alternatives are those of the text that follows. -/
theorem Leaves.readAlternatives_eq {rest' : List Char} (h : Leaves t r rest rest')
    (hrest : skipBlanks rest = []) (hendt : dropAnd? (skipBlanks t) = none)
    (hendr : dropAnd? (skipBlanks r) = none) :
    outcome (readOperands field rest') = .ok ([], rest') ∧
      ∃ next, (next = t ∨ next = r) ∧
        outcome (readAlternatives false field rest') = outcome (readAlternatives false field next) := by
  obtain rfl | ⟨-, rfl⟩ := h
  · have hskip := skipBlanks_append_of_eq_nil hrest t
    exact ⟨readOperands_end (by rwa [hskip]), t, .inl rfl, readAlternatives_congr hskip⟩
  · exact ⟨readOperands_end hendr, rest', .inr rfl, rfl⟩

section alternatives

variable {isFirst : Bool} {c : Char} {u middle : List Char} {item : Option Item}

theorem readAlternatives_append_eq (h : skipBlanks s = c :: u) (hc : c ≠ ')')
    (hne : alternative isFirst (c :: u) ≠ []) (ht : Interrupts t) :
    outcome (readAlternatives isFirst field (s ++ t)) = (do
      let (items, rest) ← readRow field (alternative isFirst (c :: u) ++ t)
      prepend (conjunction? items).toList (outcome (readAlternatives false field rest))) := by
  have halternative : alternative isFirst (c :: (u ++ t)) = alternative isFirst (c :: u) ++ t :=
    alternative_append (List.cons_ne_nil c u) hne ht
  rw [readAlternatives_eq (skipBlanks_append_cons h t) hc, halternative,
    outcome_readConjunction_eq]
  cases readRow field (alternative isFirst (c :: u) ++ t) <;> rfl

/-- An alternative with more than blanks behind it is read in front of other texts as before. -/
theorem readAlternatives_append_of_ne_nil (h : skipBlanks s = c :: u) (hc : c ≠ ')')
    (hitem : Reads .conjunction field (alternative isFirst (c :: u)) item middle)
    (hmiddle : skipBlanks middle ≠ []) (ht : Interrupts t) :
    outcome (readAlternatives isFirst field (s ++ t)) =
      prepend item.toList (outcome (readAlternatives false field (middle ++ t))) := by
  have halternative : alternative isFirst (c :: (u ++ t)) = alternative isFirst (c :: u) ++ t :=
    alternative_append (List.cons_ne_nil c u) (hitem.ne_nil trivial) ht
  have hread : outcome (readConjunction field (alternative isFirst (c :: u) ++ t)) =
      .ok (item, middle ++ t) :=
    (hitem.append ht (.inr (ne_nil_of_skipBlanks_ne_nil hmiddle))
      (dropAnd?_skipBlanks_append hmiddle hitem.endsAt ht)).read_eq
  rw [readAlternatives_eq (skipBlanks_append_cons h t) hc, halternative, hread]
  rfl

end alternatives

/-- Alternatives that are read to the end of a text go on in the text behind them, with the last one
and with further ones, if no operator of conjunctions follows. -/
theorem Reads.alternatives_append {s : List Char} {isFirst : Bool} {items : List Item}
    (h : Reads (.alternatives isFirst) field s items []) (hs : skipBlanks s = [] → isFirst = false)
    (ht : Extends t w r) (hendt : dropAnd? (skipBlanks t) = none)
    (hendr : dropAnd? (skipBlanks r) = none) :
    (∃ items' rest', (rest' = t ∨ rest' = r) ∧ (w = [] → items' = items) ∧
      outcome (readAlternatives isFirst field (s ++ t)) =
        prepend items' (outcome (readAlternatives false field rest'))) ∨
          Touches t ∧ Dangles (Part.read (.alternatives isFirst) field) field s := by
  cases h with
  | finished h =>
    obtain rfl := hs h
    refine .inl ⟨[], t, .inl rfl, fun _ => rfl, ?_⟩
    rw [readAlternatives_congr (skipBlanks_append_of_eq_nil h t), prepend_nil]
  | @alternative _ _ _ u middle _ c item others h hc hitem hothers =>
    have hbehind := (alternative_suffix isFirst (c :: u)).trans (h ▸ skipBlanks_suffix s)
    have hne := hitem.ne_nil trivial
    have hlt : middle.length < s.length :=
      Nat.lt_of_lt_of_le (hitem.length_lt trivial) hbehind.length_le
    -- the last alternative is the one that goes on in `t`
    by_cases hmiddle : skipBlanks middle = []
    · rw [hothers.items_eq_nil hmiddle, List.append_nil]
      cases hitem with | conjunction hfirst hoperands =>
      obtain ⟨items, rest', hleaves, hitems, hrow⟩ | ⟨-, htouches, hdangles⟩ :=
        row_append hfirst hoperands ht
      · obtain ⟨hend, next, hnext, hread⟩ := hleaves.readAlternatives_eq hmiddle hendt hendr
        refine .inl ⟨(conjunction? items).toList, next, hnext, fun hw => by rw [hitems hw], ?_⟩
        rw [readAlternatives_append_eq h hc hne ht.interrupts, hrow, hend, prepend_ok,
          List.append_nil, ok_bind]
        exact congrArg (prepend _) hread
      · refine .inr ⟨htouches, hdangles.of_suffix hbehind fun v e hv he => ?_⟩
        rw [Part.read, readAlternatives_append_eq h hc hne hv.interrupts, he, error_bind]
    · have hread : ∀ v, Interrupts v → outcome (readAlternatives isFirst field (s ++ v)) =
          prepend item.toList (outcome (readAlternatives false field (middle ++ v))) :=
        fun v hv => readAlternatives_append_of_ne_nil h hc hitem hmiddle hv
      obtain ⟨items, next, hnext, hitems, hmore⟩ | ⟨htouches, hdangles⟩ :=
        hothers.alternatives_append (fun hskip => absurd hskip hmiddle) ht hendt hendr
      · refine .inl ⟨item.toList ++ items, next, hnext, fun hw => by rw [hitems hw], ?_⟩
        rw [hread t ht.interrupts, hmore, prepend_prepend]
      · refine .inr ⟨htouches, hdangles.of_suffix (hitem.suffix.trans hbehind)
          fun v e hv he => ?_⟩
        rw [Part.read] at he
        rw [Part.read, hread v hv.interrupts, he, prepend_error]
termination_by s.length

theorem not_touches_space {u : List Char} : ¬Touches (' ' :: u) := by
  rintro ⟨-, c, t, ht, hc⟩
  cases ht
  cases hc

/-- Behind a blank the further alternatives are read by themselves. -/
theorem Reads.alternatives_append_space {isFirst : Bool} {items : List Item} {u : List Char}
    (h : Reads (.alternatives isFirst) field s items []) (hs : skipBlanks s ≠ [])
    (hend : dropAnd? (skipBlanks (' ' :: u)) = none) :
    outcome (readAlternatives isFirst field (s ++ ' ' :: u)) =
      prepend items (outcome (readAlternatives false field (' ' :: u))) := by
  obtain ⟨items', rest', hrest, hitems, hread⟩ :=
    (h.alternatives_append (fun hskip => absurd hskip hs) (extends_of_isBreak rfl u) hend
      hend).resolve_right fun hdangles => not_touches_space hdangles.1
  obtain rfl := or_self_iff.mp hrest
  rw [hread, hitems rfl]

/-- A further operand behind alternatives that is not read: the failure is that of the query. -/
theorem Reads.alternatives_append_error {s : List Char} {isFirst : Bool} {items : List Item}
    {v : List Char} {e : Failure} (h : Reads (.alternatives isFirst) field s items [])
    (hs : skipBlanks s ≠ []) (ht : Extends t [] t) (htouches : ¬Touches t)
    (hoperator : dropAnd? (skipBlanks t) = some v) (he : outcome (readSigned field v) = .error e) :
    outcome (readAlternatives isFirst field (s ++ t)) = .error e := by
  cases h with
  | finished h => exact absurd h hs
  | @alternative _ _ _ u middle _ c item others h hc hitem hothers =>
    have hlt : middle.length < s.length := Nat.lt_of_lt_of_le (hitem.length_lt trivial)
      ((alternative_suffix isFirst (c :: u)).trans (h ▸ skipBlanks_suffix s)).length_le
    by_cases hmiddle : skipBlanks middle = []
    · have hne := hitem.ne_nil trivial
      cases hitem with | conjunction hfirst hoperands =>
      obtain ⟨items, rest', hleaves, -, hrow⟩ | ⟨-, hcontra, -⟩ :=
        row_append hfirst hoperands ht
      · have hrest : rest' = middle ++ t := by
          obtain rfl | ⟨rfl, rfl⟩ := hleaves <;> rfl
        have hdrop : dropAnd? (skipBlanks rest') = some v := by
          rw [hrest, skipBlanks_append_of_eq_nil hmiddle, hoperator]
        rw [readAlternatives_append_eq h hc hne ht.interrupts, hrow, outcome_readOperands_eq hdrop,
          readRow_eq_error he, prepend_error, error_bind]
      · exact absurd hcontra htouches
    · rw [readAlternatives_append_of_ne_nil h hc hitem hmiddle ht.interrupts,
        hothers.alternatives_append_error hmiddle ht htouches hoperator he, prepend_error]
termination_by s.length

end RegistrySearch.Query
