import RegistrySearch.Proofs.Query.Operands

/-!
# Derivations of what is read

What the readers of queries read has a derivation (`Reads`), in which every step is one rule of the
syntax, and nothing else has one (`reads_iff`). An argument about all queries that are read is an
induction on derivations, where what has been read before and what is read next are hypotheses of
their own.
-/

namespace RegistrySearch.Query

/-- A part of a query. -/
inductive Part where
  /-- Alternatives, the first of them or further ones. -/
  | alternatives (isFirst : Bool)
  | conjunction
  /-- The further operands of a conjunction, each behind its operator. -/
  | operands
  | signed
  | primary
  /-- What follows the name of a field and its colon. -/
  | value
  /-- A clause in delimiters. -/
  | enclosed

/-- What a part is read as. -/
@[reducible]
def Part.Result : Part → Type
  | alternatives _ | operands => List Item
  | conjunction | signed => Option Item
  | primary | value | enclosed => Option Clause

/-- The character that opens. -/
def Opener.char : Opener → Char
  | group => '('
  | phrase => '"'
  | regexp => '/'
  | range isInclusive => if isInclusive then '[' else '{'

theorem Opener.of?_eq_some_iff {c : Char} {opener : Opener} :
    Opener.of? c = some opener ↔ c = opener.char := by
  constructor
  · intro h
    rw [Opener.of?.eq_def] at h
    split at h <;> cases h <;> rfl
  · rintro rfl
    cases opener with
    | range isInclusive => cases isInclusive <;> rfl
    | _ => rfl

/-- Reads a clause from its opening delimiter on. -/
def readDelimited (field : String) : List Char → Except Failure (Option Clause × List Char)
  | [] => .error ⟨.missingTerm, []⟩
  | c :: body =>
    match Opener.of? c with
    | some opener => outcome (readEnclosed field opener (c :: body) body)
    | none => .error ⟨.unexpected c, c :: body⟩

/-- The reader of a part. -/
def Part.read : (p : Part) → String → List Char → Except Failure (p.Result × List Char)
  | alternatives isFirst, field, s => outcome (readAlternatives isFirst field s)
  | conjunction, field, s => outcome (readConjunction field s)
  | operands, field, s => outcome (readOperands field s)
  | signed, field, s => outcome (readSigned field s)
  | primary, field, s => outcome (readPrimary field s)
  | value, field, s => outcome (readValue field s)
  | enclosed, field, s => readDelimited field s

/-- A text begins with a word, if with anything: its first character is no delimiter. -/
def BeginsWord (s : List Char) : Prop := ∀ c ∈ s.head?, Opener.of? c = none ∧ isSpecial c = false

/-- A part of a text is read as a result, and the rest is left. -/
inductive Reads : (p : Part) → String → List Char → p.Result → List Char → Prop
  | finished {isFirst : Bool} {field : String} {s : List Char} (h : skipBlanks s = []) :
    Reads (.alternatives isFirst) field s [] []
  | closed {isFirst : Bool} {field : String} {s rest : List Char}
    (h : skipBlanks s = ')' :: rest) : Reads (.alternatives isFirst) field s [] (')' :: rest)
  | alternative {isFirst : Bool} {field : String} {s t middle rest : List Char} {c : Char}
    {item : Option Item} {items : List Item} (h : skipBlanks s = c :: t) (hc : c ≠ ')')
    (hitem : Reads .conjunction field (alternative isFirst (c :: t)) item middle)
    (hitems : Reads (.alternatives false) field middle items rest) :
    Reads (.alternatives isFirst) field s (item.toList ++ items) rest
  | conjunction {field : String} {s middle rest : List Char} {first : Option Item}
    {others : List Item} (hfirst : Reads .signed field s first middle)
    (hothers : Reads .operands field middle others rest) :
    Reads .conjunction field s (conjunction? (first.toList ++ others)) rest
  | last {field : String} {s : List Char} (h : dropAnd? (skipBlanks s) = none) :
    Reads .operands field s [] s
  | operand {field : String} {s t middle rest : List Char} {operand : Option Item}
    {others : List Item} (h : dropAnd? (skipBlanks s) = some t)
    (hoperand : Reads .signed field t operand middle)
    (hothers : Reads .operands field middle others rest) :
    Reads .operands field s (operand.toList ++ others) rest
  | sign {field : String} {s t rest : List Char} {occur : Occur} {item : Option Item}
    (h : dropSign? (skipBlanks s) = some (occur, t)) (hitem : Reads .signed field t item rest) :
    Reads .signed field s (item.map fun i => ⟨some occur, i.toClause⟩) rest
  | unsigned {field : String} {s rest : List Char} {clause : Option Clause}
    (h : dropSign? (skipBlanks s) = none)
    (hclause : Reads .primary field (skipBlanks s) clause rest) :
    Reads .signed field s (clause.map fun c => ⟨none, c⟩) rest
  | delimited {field : String} {s rest : List Char} {clause : Option Clause}
    (h : Reads .enclosed field s clause rest) : Reads .primary field s clause rest
  | qualified {field : String} {s t rest : List Char} {w : Word} {clause : Option Clause}
    (hs : BeginsWord s) (hstray : strayOperator? s = none) (hw : readWord s = .ok (w, ':' :: t))
    (h : Reads .value w.text t clause rest) : Reads .primary field s clause rest
  | word {field : String} {s rest : List Char} {w : Word} (hs : BeginsWord s)
    (hstray : strayOperator? s = none) (hw : readWord s = .ok (w, rest))
    (hrest : rest.head? ≠ some ':') : Reads .primary field s (w.clause? field) rest
  | delimitedValue {field : String} {s rest : List Char} {clause : Option Clause}
    (h : Reads .enclosed field (skipBlanks s) clause rest) : Reads .value field s clause rest
  | wordValue {field : String} {s rest : List Char} {w : Word} (hs : BeginsWord (skipBlanks s))
    (hw : readWord (skipBlanks s) = .ok (w, rest)) : Reads .value field s (w.clause? field) rest
  | group {field : String} {s middle rest : List Char} {items : List Item}
    (h : Reads (.alternatives true) field s items middle) (hclose : skipBlanks middle = ')' :: rest) :
    Reads .enclosed field ('(' :: s) (alternatives? items) rest
  | phrase {field : String} {s text rest : List Char} (h : readQuoted? s = some (text, rest)) :
    Reads .enclosed field ('"' :: s) (phrase? field text) rest
  | regexp {field : String} {s pattern rest : List Char}
    (h : readRegexp? s = some (pattern, rest)) :
    Reads .enclosed field ('/' :: s) (some (.regexp field (String.ofList pattern))) rest
  | range {field : String} {s t rest : List Char} {isInclusive : Bool} {clause : Clause}
    (h : readRange field t isInclusive s = .ok (clause, rest)) :
    Reads .enclosed field ((if isInclusive then '[' else '{') :: s) (some clause) rest

/-! ### What has a derivation is read -/

section reading

variable {field : String} {s rest : List Char}

/-- A range is read exactly if its bounds are, with the keyword between them and a closing bracket
behind them. The text that failures point to does not matter. -/
theorem readRange_eq_ok_iff {body : List Char} {isInclusive : Bool} {clause : Clause} :
    readRange field s isInclusive body = .ok (clause, rest) ↔
      ∃ lower upper closes t u v, readBound (skipBlanks body) = .ok (lower, t) ∧
        dropKeyword? ['T', 'O'] (skipBlanks t) = some u ∧
          readBound (skipBlanks u) = .ok (upper, v) ∧
            skipBlanks v = (if closes then ']' else '}') :: rest ∧
              clause = .range field (.ofValue? isInclusive lower) (.ofValue? closes upper) := by
  rw [readRange, bind_eq_ok_iff]
  constructor
  · rintro ⟨⟨lower, t⟩, hlower, h⟩
    dsimp only at h
    split at h
    · cases h
    · next u hto =>
      obtain ⟨⟨upper, v⟩, hupper, h⟩ := bind_eq_ok_iff.mp h
      dsimp only at h
      split at h
      · next hclose =>
        cases h
        exact ⟨lower, upper, true, t, u, v, hlower, hto, hupper, hclose, rfl⟩
      · next hclose =>
        cases h
        exact ⟨lower, upper, false, t, u, v, hlower, hto, hupper, hclose, rfl⟩
      · cases h
  · rintro ⟨lower, upper, closes, t, u, v, hlower, hto, hupper, hclose, rfl⟩
    refine ⟨(lower, t), hlower, ?_⟩
    simp only [hto, hupper, ok_bind]
    rw [hclose]
    cases closes <;> rfl

theorem readDelimited_eq (field : String) (opener : Opener) (body : List Char) :
    readDelimited field (opener.char :: body) =
      outcome (readEnclosed field opener (opener.char :: body) body) := by
  rw [readDelimited, Opener.of?_eq_some_iff.mpr rfl]

/-- What is read in delimiters is read by the reader of the first one. -/
theorem exists_opener_of_readDelimited {clause : Option Clause}
    (h : readDelimited field s = .ok (clause, rest)) : ∃ opener body, s = opener.char :: body ∧
      outcome (readEnclosed field opener (opener.char :: body) body) = .ok (clause, rest) := by
  cases s with
  | nil => cases h
  | cons c body =>
    cases hopener : Opener.of? c with
    | some opener =>
      obtain rfl := Opener.of?_eq_some_iff.mp hopener
      exact ⟨opener, body, rfl, readDelimited_eq field opener body ▸ h⟩
    | none =>
      rw [readDelimited, hopener] at h
      cases h

theorem readPrimary_eq_of_readDelimited {clause : Option Clause}
    (h : readDelimited field s = .ok (clause, rest)) :
    outcome (readPrimary field s) = .ok (clause, rest) := by
  obtain ⟨opener, body, rfl, hread⟩ := exists_opener_of_readDelimited h
  have hopener : Opener.of? opener.char = some opener := Opener.of?_eq_some_iff.mpr rfl
  rw [outcome_readPrimary]
  simp only [hopener, hread]

theorem readValue_eq_of_readDelimited {clause : Option Clause}
    (h : readDelimited field (skipBlanks s) = .ok (clause, rest)) :
    outcome (readValue field s) = .ok (clause, rest) := by
  obtain ⟨opener, body, hskip, hread⟩ := exists_opener_of_readDelimited h
  have hopener : Opener.of? opener.char = some opener := Opener.of?_eq_some_iff.mpr rfl
  rw [outcome_readValue]
  simp only [hskip, hopener, hread]

/-- A word is not empty. -/
theorem exists_cons_of_readWord {w : Word} (h : readWord s = .ok (w, rest)) :
    ∃ c body, s = c :: body := by
  cases s with
  | nil => cases h
  | cons c body => exact ⟨c, body, rfl⟩

theorem beginsWord_cons {c : Char} {body : List Char} (hopener : Opener.of? c = none)
    (hspecial : isSpecial c = false) : BeginsWord (c :: body) := by
  intro d hd
  cases hd
  exact ⟨hopener, hspecial⟩

theorem BeginsWord.of_cons {c : Char} {body : List Char} (h : BeginsWord (c :: body)) :
    Opener.of? c = none ∧ isSpecial c = false ∧ ¬(c = '^' ∨ c = '~') := by
  obtain ⟨hopener, hspecial⟩ := h c rfl
  refine ⟨hopener, hspecial, ?_⟩
  rintro (rfl | rfl) <;> exact absurd hspecial (by decide)

end reading

/-- What has a derivation is read. -/
theorem Reads.read_eq {p : Part} {field : String} {s rest : List Char} {x : p.Result}
    (h : Reads p field s x rest) : p.read field s = .ok (x, rest) := by
  induction h with
  | finished h => simp only [Part.read, outcome_readAlternatives, h]
  | closed h => simp only [Part.read, outcome_readAlternatives, h]
  | alternative h hc hitem hitems ihitem ihitems =>
    simp only [Part.read] at ihitem ihitems
    simp only [Part.read, readAlternatives_eq h hc, ihitem, ihitems, ok_bind]
  | conjunction hfirst hothers ihfirst ihothers =>
    simp only [Part.read] at ihfirst ihothers
    simp only [Part.read, outcome_readConjunction, ihfirst, ihothers, ok_bind]
  | last h => exact readOperands_end h
  | operand h hoperand hothers ihoperand ihothers =>
    simp only [Part.read] at ihoperand ihothers
    rw [Part.read, outcome_readOperands]
    simp only [h, ihoperand, ihothers, ok_bind]
  | sign h hitem ih =>
    simp only [Part.read] at ih
    simp only [Part.read, outcome_readSigned, h, ih]
    rfl
  | unsigned h hclause ih =>
    simp only [Part.read] at ih
    simp only [Part.read, outcome_readSigned, h, ih]
    rfl
  | delimited h ih => exact readPrimary_eq_of_readDelimited ih
  | qualified hs hstray hw h ih =>
    obtain ⟨c, body, rfl⟩ := exists_cons_of_readWord hw
    obtain ⟨hopener, hspecial, hcaret⟩ := hs.of_cons
    simp only [Part.read] at ih
    simp only [Part.read, outcome_readPrimary, hopener, if_neg hcaret, hspecial, hstray, hw, ih]
    rfl
  | word hs hstray hw hrest =>
    obtain ⟨c, body, rfl⟩ := exists_cons_of_readWord hw
    obtain ⟨hopener, hspecial, hcaret⟩ := hs.of_cons
    simp only [Part.read, outcome_readPrimary, hopener, if_neg hcaret, hspecial, hstray, hw]
    rw [if_neg Bool.false_ne_true]
    split
    · next he => cases he
    · next he => cases he; exact absurd rfl hrest
    · next he => cases he; rfl
  | delimitedValue h ih => exact readValue_eq_of_readDelimited ih
  | wordValue hs hw =>
    obtain ⟨c, body, hskip⟩ := exists_cons_of_readWord hw
    rw [hskip] at hs hw
    obtain ⟨hopener, hspecial, -⟩ := hs.of_cons
    simp only [Part.read, outcome_readValue, hskip, hopener, hspecial, hw]
    rfl
  | group h hclose ih =>
    simp only [Part.read] at ih
    refine (readDelimited_eq _ .group _).trans ?_
    simp only [outcome_readEnclosed, ih, ok_bind, hclose]
  | phrase h =>
    refine (readDelimited_eq _ .phrase _).trans ?_
    simp only [outcome_readEnclosed, h]
  | regexp h =>
    refine (readDelimited_eq _ .regexp _).trans ?_
    simp only [outcome_readEnclosed, h]
  | @range field s t rest isInclusive clause h =>
    refine (readDelimited_eq _ (.range isInclusive) _).trans ?_
    rw [outcome_readEnclosed]
    dsimp only
    rw [readRange_eq_ok_iff] at h
    rw [readRange_eq_ok_iff.mpr h]
    rfl

/-! ### What is read has a derivation -/

/-- What is known of the rest holds of what is left. -/
theorem of_outcome {α : Type} {p : List Char → Prop}
    {r : Except Failure (α × { rest : List Char // p rest })} {a : α} {rest : List Char}
    (h : outcome r = .ok (a, rest)) : p rest :=
  (outcome_eq_ok_iff.mp h).1

section cases

variable {field : String} {s rest : List Char}

/-- Alternatives that are read end at once, or are an alternative and further ones. -/
theorem readAlternatives_cases {isFirst : Bool} {items : List Item}
    (h : outcome (readAlternatives isFirst field s) = .ok (items, rest)) :
    skipBlanks s = [] ∧ items = [] ∧ rest = [] ∨
      (∃ u, skipBlanks s = ')' :: u ∧ items = [] ∧ rest = ')' :: u) ∨
        ∃ c t item middle others, skipBlanks s = c :: t ∧ c ≠ ')' ∧
          outcome (readConjunction field (alternative isFirst (c :: t))) = .ok (item, middle) ∧
            outcome (readAlternatives false field middle) = .ok (others, rest) ∧
              item.toList ++ others = items := by
  cases hskip : skipBlanks s with
  | nil =>
    rw [outcome_readAlternatives, hskip] at h
    cases h
    exact .inl ⟨rfl, rfl, rfl⟩
  | cons c t =>
    by_cases hc : c = ')'
    · subst hc
      rw [outcome_readAlternatives, hskip] at h
      cases h
      exact .inr (.inl ⟨t, rfl, rfl, rfl⟩)
    · rw [readAlternatives_eq hskip hc] at h
      simp only [bind_eq_ok_iff] at h
      obtain ⟨⟨item, middle⟩, hitem, ⟨others, r⟩, hothers, h⟩ := h
      cases h
      exact .inr (.inr ⟨c, t, item, middle, others, rfl, hc, hitem, hothers, rfl⟩)

/-- A conjunction that is read is an operand and further ones. -/
theorem readConjunction_cases {item : Option Item}
    (h : outcome (readConjunction field s) = .ok (item, rest)) :
    ∃ first others middle, outcome (readSigned field s) = .ok (first, middle) ∧
      outcome (readOperands field middle) = .ok (others, rest) ∧
        conjunction? (first.toList ++ others) = item := by
  rw [outcome_readConjunction] at h
  simp only [bind_eq_ok_iff] at h
  obtain ⟨⟨first, middle⟩, hfirst, ⟨others, r⟩, hothers, h⟩ := h
  cases h
  exact ⟨first, others, middle, hfirst, hothers, rfl⟩

/-- Further operands that are read are none, or one behind its operator and further ones. -/
theorem readOperands_cases {items : List Item}
    (h : outcome (readOperands field s) = .ok (items, rest)) :
    dropAnd? (skipBlanks s) = none ∧ items = [] ∧ rest = s ∨
      ∃ t operand others middle, dropAnd? (skipBlanks s) = some t ∧
        outcome (readSigned field t) = .ok (operand, middle) ∧
          outcome (readOperands field middle) = .ok (others, rest) ∧
            operand.toList ++ others = items := by
  rw [outcome_readOperands] at h
  cases hand : dropAnd? (skipBlanks s) with
  | none =>
    rw [hand] at h
    cases h
    exact .inl ⟨rfl, rfl, rfl⟩
  | some t =>
    simp only [hand, bind_eq_ok_iff] at h
    obtain ⟨⟨operand, middle⟩, hoperand, ⟨others, r⟩, hothers, h⟩ := h
    cases h
    exact .inr ⟨t, operand, others, middle, rfl, hoperand, hothers, rfl⟩

/-- An operand that is read is one behind a sign, or a clause. -/
theorem readSigned_cases {item : Option Item}
    (h : outcome (readSigned field s) = .ok (item, rest)) :
    (∃ occur t inner, dropSign? (skipBlanks s) = some (occur, t) ∧
      outcome (readSigned field t) = .ok (inner, rest) ∧
        (inner.map fun i => ⟨some occur, i.toClause⟩) = item) ∨
      ∃ clause, dropSign? (skipBlanks s) = none ∧
        outcome (readPrimary field (skipBlanks s)) = .ok (clause, rest) ∧
          (clause.map fun c => ⟨none, c⟩) = item := by
  rw [outcome_readSigned] at h
  cases hsign : dropSign? (skipBlanks s) with
  | some p =>
    obtain ⟨occur, t⟩ := p
    simp only [hsign, bind_eq_ok_iff] at h
    obtain ⟨⟨inner, r⟩, hinner, h⟩ := h
    cases h
    exact .inl ⟨occur, t, inner, rfl, hinner, rfl⟩
  | none =>
    simp only [hsign, bind_eq_ok_iff] at h
    obtain ⟨⟨clause, r⟩, hclause, h⟩ := h
    cases h
    exact .inr ⟨clause, rfl, hclause, rfl⟩

/-- A primary that is read is in delimiters, or a word with its value, or a word alone. -/
theorem readPrimary_cases {clause : Option Clause}
    (h : outcome (readPrimary field s) = .ok (clause, rest)) :
    readDelimited field s = .ok (clause, rest) ∨
      BeginsWord s ∧ strayOperator? s = none ∧ ∃ w t, readWord s = .ok (w, t) ∧
        ((∃ u, t = ':' :: u ∧ outcome (readValue w.text u) = .ok (clause, rest)) ∨
          t.head? ≠ some ':' ∧ w.clause? field = clause ∧ t = rest) := by
  rw [outcome_readPrimary] at h
  cases s with
  | nil => cases h
  | cons c body =>
    dsimp only at h
    cases hopener : Opener.of? c with
    | some opener =>
      rw [hopener] at h
      obtain rfl := Opener.of?_eq_some_iff.mp hopener
      exact .inl ((readDelimited_eq field opener body).trans h)
    | none =>
      rw [hopener] at h
      dsimp only at h
      split at h
      · cases h
      · split at h
        · cases h
        · next hspecial =>
          refine .inr ⟨beginsWord_cons hopener (Bool.not_eq_true _ ▸ hspecial), ?_⟩
          cases hstray : strayOperator? (c :: body) with
          | some operator =>
            rw [hstray] at h
            cases h
          | none =>
            rw [hstray] at h
            dsimp only at h
            split at h
            · cases h
            · next w u hw => exact ⟨rfl, w, ':' :: u, hw, .inl ⟨u, rfl, h⟩⟩
            · next w _ hcolon hw =>
              cases h
              refine ⟨rfl, w, rest, hw, .inr ⟨fun hhead => ?_, rfl, rfl⟩⟩
              obtain ⟨u, rfl⟩ := List.head?_eq_some_iff.mp hhead
              exact hcolon u rfl

/-- A value that is read is in delimiters or a word. -/
theorem readValue_cases {clause : Option Clause}
    (h : outcome (readValue field s) = .ok (clause, rest)) :
    readDelimited field (skipBlanks s) = .ok (clause, rest) ∨
      BeginsWord (skipBlanks s) ∧
        ∃ w, readWord (skipBlanks s) = .ok (w, rest) ∧ w.clause? field = clause := by
  rw [outcome_readValue] at h
  cases hskip : skipBlanks s with
  | nil =>
    rw [hskip] at h
    cases h
  | cons c body =>
    rw [hskip] at h
    dsimp only at h
    cases hopener : Opener.of? c with
    | some opener =>
      rw [hopener] at h
      obtain rfl := Opener.of?_eq_some_iff.mp hopener
      exact .inl ((readDelimited_eq field opener body).trans h)
    | none =>
      rw [hopener] at h
      dsimp only at h
      split at h
      · cases h
      · next hspecial =>
        refine .inr ⟨beginsWord_cons hopener (Bool.not_eq_true _ ▸ hspecial), ?_⟩
        split at h
        · cases h
        · next w t hw =>
          cases h
          exact ⟨w, hw, rfl⟩

/-- A clause in delimiters that is read has a derivation, if alternatives in a group have one. -/
theorem reads_enclosed {clause : Option Clause}
    (hgroup : ∀ body items middle, body.length < s.length →
      outcome (readAlternatives true field body) = .ok (items, middle) →
        Reads (.alternatives true) field body items middle)
    (h : readDelimited field s = .ok (clause, rest)) : Reads .enclosed field s clause rest := by
  obtain ⟨opener, body, rfl, hread⟩ := exists_opener_of_readDelimited h
  rw [outcome_readEnclosed] at hread
  cases opener with
  | group =>
    obtain ⟨⟨items, middle⟩, hitems, hread⟩ := bind_eq_ok_iff.mp hread
    dsimp only at hread
    split at hread
    · next t hclose =>
      cases hread
      exact .group (hgroup body items middle (Nat.lt_succ_self _) hitems) hclose
    · cases hread
  | phrase =>
    dsimp only at hread
    split at hread
    · next text t hquoted =>
      cases hread
      exact .phrase hquoted
    · cases hread
  | regexp =>
    dsimp only at hread
    split at hread
    · next pattern t hpattern =>
      cases hread
      exact .regexp hpattern
    · cases hread
  | range isInclusive =>
    dsimp only at hread
    cases hrange : readRange field (_ :: body) isInclusive body with
    | error e =>
      rw [hrange] at hread
      cases hread
    | ok r =>
      rw [hrange] at hread
      cases hread
      exact .range hrange

end cases

/-- The place of a part among those that are read from one text on: a part begins with parts of
lower places only. -/
def Part.level : Part → Nat
  | enclosed => 0
  | primary | value => 1
  | signed => 2
  | operands => 3
  | conjunction => 4
  | alternatives _ => 5

/-- What is read has a derivation. -/
theorem reads_of_read (p : Part) (field : String) (s : List Char) {x : p.Result}
    {rest : List Char} (h : p.read field s = .ok (x, rest)) : Reads p field s x rest := by
  have hblanks := length_skipBlanks_le s
  -- each part is read off a shorter text, or off the same one at a lower level
  match p with
  | .alternatives isFirst =>
    obtain ⟨hskip, rfl, rfl⟩ | ⟨u, hskip, rfl, rfl⟩ |
      ⟨c, t, item, middle, others, hskip, hc, hitem, hothers, rfl⟩ := readAlternatives_cases h
    · exact .finished hskip
    · exact .closed hskip
    · have hbehind : (alternative isFirst (c :: t)).length ≤ s.length :=
        Nat.le_trans (length_alternative_le isFirst (c :: t)) (hskip ▸ hblanks)
      have hmiddle : middle.length < s.length := Nat.lt_of_lt_of_le (of_outcome hitem) hbehind
      exact .alternative hskip hc (reads_of_read .conjunction field _ hitem)
        (reads_of_read (.alternatives false) field middle hothers)
  | .conjunction =>
    obtain ⟨first, others, middle, hfirst, hothers, rfl⟩ := readConjunction_cases h
    have hmiddle : middle.length < s.length := of_outcome hfirst
    exact .conjunction (reads_of_read .signed field s hfirst)
      (reads_of_read .operands field middle hothers)
  | .operands =>
    obtain ⟨hand, rfl, rfl⟩ | ⟨t, operand, others, middle, hand, hoperand, hothers, rfl⟩ :=
      readOperands_cases h
    · exact .last hand
    · have ht : t.length < s.length := Nat.lt_of_lt_of_le (length_lt_of_dropAnd? hand) hblanks
      have hmiddle : middle.length < t.length := of_outcome hoperand
      exact .operand hand (reads_of_read .signed field t hoperand)
        (reads_of_read .operands field middle hothers)
  | .signed =>
    obtain ⟨occur, t, inner, hsign, hinner, rfl⟩ | ⟨clause, hsign, hclause, rfl⟩ :=
      readSigned_cases h
    · have ht : t.length < s.length := Nat.lt_of_lt_of_le (length_lt_of_dropSign? hsign) hblanks
      exact .sign hsign (reads_of_read .signed field t hinner)
    · exact .unsigned hsign (reads_of_read .primary field _ hclause)
  | .primary =>
    obtain h | ⟨hbegins, hstray, w, t, hw, ⟨u, rfl, h⟩ | ⟨hcolon, rfl, rfl⟩⟩ := readPrimary_cases h
    · exact .delimited (reads_of_read .enclosed field s h)
    · have ht : u.length + 1 < s.length := length_lt_of_readWord hw
      exact .qualified hbegins hstray hw (reads_of_read .value w.text u h)
    · exact .word hbegins hstray hw hcolon
  | .value =>
    obtain h | ⟨hbegins, w, hw, rfl⟩ := readValue_cases h
    · exact .delimitedValue (reads_of_read .enclosed field (skipBlanks s) h)
    · exact .wordValue hbegins hw
  | .enclosed =>
    exact reads_enclosed (fun body items middle hbody hitems =>
      reads_of_read (.alternatives true) field body hitems) h
termination_by 6 * s.length + p.level
decreasing_by all_goals simp only [Part.level]; omega

/-- What a reader reads is exactly what has a derivation. -/
theorem reads_iff {p : Part} {field : String} {s rest : List Char} {x : p.Result} :
    Reads p field s x rest ↔ p.read field s = .ok (x, rest) :=
  ⟨Reads.read_eq, reads_of_read p field s⟩

end RegistrySearch.Query
