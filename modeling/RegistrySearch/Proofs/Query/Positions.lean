import Mathlib.Data.List.DropRight
import RegistrySearch.Proofs.Query.CursorSteps
import RegistrySearch.Proofs.Query.Groups

/-!
# The cursor ends at a place in the text

Read with a cursor, a query gives what the readers give, and for that a number of steps suffices
that is linear in the number of its characters. So reading ends, and no cut stops it. An error is in
front of an end of the text, which is a boundary of characters.

The parts of a query contain each other, so that they are followed all at once, by recursion on the
steps that are left.
-/

namespace RegistrySearch.Query.Cursor

open Text
open Unicode (isBlank)

variable {s : String} {c : Char}

/-! ### Clauses -/

theorem skipBlanks_skipBlanks (t : List Char) : skipBlanks (skipBlanks t) = skipBlanks t :=
  List.dropWhile_idempotent isBlank t

/-- Reading a word, or a name and its value, follows the readers if reading the value does. -/
theorem follows_readNamed (field : String) {n : Nat} {body : List Char} (hn : s.toList.length < n)
    (h : c :: body <:+ s.toList)
    (hvalue : ∀ (w : Word) (u : List Char), u.length < body.length → u <:+ s.toList →
      Follows s (outcome (Query.readValue w.text u)) (readValue s w.text n (offset s.toList u))) :
    Follows s
      (match Query.readWord (c :: body) with
        | .error e => .error e
        | .ok (w, ':' :: rest) => outcome (Query.readValue w.text rest)
        | .ok (w, rest) => .ok (w.clause? field, rest))
      (do
        let (w, pos) ← readWord s n (offset s.toList (c :: body))
        if (← peek s pos) = some ':' then
          let (_, pos) ← consume s pos
          readValue s w.text n pos
        else pure (w.clause? field, pos)) := by
  have hword := follows_readWord hn h
  generalize readWord s n (offset s.toList (c :: body)) = x at hword ⊢
  cases hread : Query.readWord (c :: body) with
  | error e =>
    rw [hread] at hword
    cases hword with
    | error e he => exact .error e he
  | ok p =>
    rw [hread] at hword
    cases hword with
    | @ok w rest hrest =>
      rw [pure_bind]
      dsimp only
      rw [peek_offset hrest, pure_bind]
      cases rest with
      | nil => exact .ok _ hrest
      | cons d u =>
        rw [List.head?_cons]
        by_cases hd : d = ':'
        · subst hd
          rw [if_pos rfl, consume_cons hrest, pure_bind]
          exact hvalue w u (Nat.lt_of_succ_lt_succ (length_lt_of_readWord hread))
            ((List.suffix_cons ':' u).trans hrest)
        · rw [if_neg fun hsome => hd (Option.some.inj hsome)]
          split
          · next heq => cases heq
          · next heq => cases heq; exact absurd rfl hd
          · next heq => cases heq; exact .ok _ hrest

mutual

/-- What is read with a cursor follows the readers, for each part of a query. What a part reads next
is behind a character, or is at the same place a part of a lower level: as there are six levels, six
steps for a character suffice, and as many as the text has characters for a loop over them. -/
theorem follows_readAlternatives (isFirst : Bool) (field : String) {n : Nat} {t : List Char}
    (hn : s.toList.length + (6 * t.length + 5) < n) (h : t <:+ s.toList) :
    Follows s (outcome (Query.readAlternatives isFirst field t))
      (readAlternatives s isFirst field n (offset s.toList t)) := by
  obtain ⟨n, rfl⟩ := Nat.exists_eq_add_one.mpr (Nat.zero_lt_of_lt hn)
  have hskip : skipBlanks t <:+ s.toList := (skipBlanks_suffix t).trans h
  have hlength := length_skipBlanks_le t
  have hend := utf8Length_le_offset_iff hskip
  rw [utf8Length_toList] at hend
  rw [readAlternatives, skipBlanks_offset (by omega) h, pure_bind]
  cases hblanks : skipBlanks t with
  | nil =>
    rw [outcome_readAlternatives, hblanks, if_pos (hblanks ▸ hend.mpr hblanks)]
    exact .ok [] List.nil_suffix
  | cons c u =>
    rw [hblanks] at hskip hend
    rw [if_neg (mt hend.mp (List.cons_ne_nil c u)), peek_offset hskip, pure_bind, List.head?_cons]
    by_cases hc : c = ')'
    · subst hc
      rw [outcome_readAlternatives, hblanks, if_pos rfl]
      exact .ok [] hskip
    · have hbehind := alternative_suffix isFirst (c :: u)
      have hle : (alternative isFirst (c :: u)).length ≤ t.length :=
        Nat.le_trans (length_alternative_le isFirst (c :: u)) (hblanks ▸ hlength)
      rw [readAlternatives_eq hblanks hc, if_neg fun hsome => hc (Option.some.inj hsome),
        skipOr_offset isFirst hskip, pure_bind]
      refine (follows_readConjunction field (by omega) (hbehind.trans hskip)).bind
        fun item v hread hv => ?_
      have hlt : v.length < (alternative isFirst (c :: u)).length := of_outcome hread
      exact (follows_readAlternatives false field (by omega) hv).bind fun items w _ hw => .ok _ hw
termination_by n

theorem follows_readConjunction (field : String) {n : Nat} {t : List Char}
    (hn : s.toList.length + (6 * t.length + 4) < n) (h : t <:+ s.toList) :
    Follows s (outcome (Query.readConjunction field t))
      (readConjunction s field n (offset s.toList t)) := by
  obtain ⟨n, rfl⟩ := Nat.exists_eq_add_one.mpr (Nat.zero_lt_of_lt hn)
  rw [outcome_readConjunction, readConjunction]
  refine (follows_readSigned field (by omega) h).bind fun first u hread hu => ?_
  have hlt : u.length < t.length := of_outcome hread
  exact (follows_readOperands field (by omega) hu).bind fun others v _ hv => .ok _ hv
termination_by n

theorem follows_readOperands (field : String) {n : Nat} {t : List Char}
    (hn : s.toList.length + (6 * t.length + 3) < n) (h : t <:+ s.toList) :
    Follows s (outcome (Query.readOperands field t))
      (readOperands s field n (offset s.toList t)) := by
  obtain ⟨n, rfl⟩ := Nat.exists_eq_add_one.mpr (Nat.zero_lt_of_lt hn)
  have hskip : skipBlanks t <:+ s.toList := (skipBlanks_suffix t).trans h
  rw [outcome_readOperands, readOperands, skipBlanks_offset (by omega) h, pure_bind,
    eatOperator?_offset _ _ hskip, pure_bind, ← dropAnd?]
  cases hand : dropAnd? (skipBlanks t) with
  | none => exact .ok [] h
  | some u =>
    have hu : u <:+ s.toList := (dropAnd?_suffix hand).trans hskip
    have hlt : u.length < t.length :=
      Nat.lt_of_lt_of_le (length_lt_of_dropAnd? hand) (length_skipBlanks_le t)
    refine (follows_readSigned field (by omega) hu).bind fun operand v hread hv => ?_
    have hv' : v.length < u.length := of_outcome hread
    exact (follows_readOperands field (by omega) hv).bind fun others w _ hw => .ok _ hw
termination_by n

theorem follows_readSigned (field : String) {n : Nat} {t : List Char}
    (hn : s.toList.length + (6 * t.length + 2) < n) (h : t <:+ s.toList) :
    Follows s (outcome (Query.readSigned field t)) (readSigned s field n (offset s.toList t)) := by
  obtain ⟨n, rfl⟩ := Nat.exists_eq_add_one.mpr (Nat.zero_lt_of_lt hn)
  have hskip : skipBlanks t <:+ s.toList := (skipBlanks_suffix t).trans h
  have hle := length_skipBlanks_le t
  rw [outcome_readSigned, readSigned, skipBlanks_offset (by omega) h, pure_bind,
    eatSign?_offset hskip, pure_bind]
  cases hsign : dropSign? (skipBlanks t) with
  | some p =>
    obtain ⟨occur, u⟩ := p
    have hu : u <:+ s.toList := (dropSign?_suffix hsign).trans hskip
    have hlt : u.length < t.length := Nat.lt_of_lt_of_le (length_lt_of_dropSign? hsign) hle
    exact (follows_readSigned field (by omega) hu).bind fun item v _ hv => .ok _ hv
  | none =>
    have hprimary := follows_readPrimary (n := n) field (by omega) hskip
    rw [skipBlanks_skipBlanks] at hprimary
    exact hprimary.bind fun clause v _ hv => .ok _ hv
termination_by n

/-- A primary skips blanks in front of it, which a sign has left behind already. -/
theorem follows_readPrimary (field : String) {n : Nat} {t : List Char}
    (hn : s.toList.length + (6 * t.length + 1) < n) (h : t <:+ s.toList) :
    Follows s (outcome (Query.readPrimary field (skipBlanks t)))
      (readPrimary s field n (offset s.toList t)) := by
  obtain ⟨n, rfl⟩ := Nat.exists_eq_add_one.mpr (Nat.zero_lt_of_lt hn)
  have hskip : skipBlanks t <:+ s.toList := (skipBlanks_suffix t).trans h
  rw [outcome_readPrimary, readPrimary, skipBlanks_offset (by omega) h, pure_bind,
    peek_offset hskip, pure_bind]
  cases hblanks : skipBlanks t with
  | nil => exact follows_fail .missingTerm List.nil_suffix
  | cons c body =>
    have hbody : body.length < t.length := Text.length_lt_of_dropWhile hblanks
    rw [hblanks] at hskip
    rw [List.head?_cons]
    dsimp only
    cases hopener : Opener.of? c with
    | some opener =>
      obtain rfl := Opener.of?_eq_some_iff.mp hopener
      exact follows_readEnclosed field opener (by omega) hskip
    | none =>
      dsimp only
      split
      · exact follows_fail .unsupportedOperator hskip
      · split
        · exact follows_fail (.unexpected c) hskip
        · rw [strayOperator?_offset hskip, pure_bind]
          cases Query.strayOperator? (c :: body) with
          | some operator => exact follows_fail (.missingOperand operator) hskip
          | none =>
            dsimp only
            refine follows_readNamed field (by omega) hskip fun w u hlt hu => ?_
            exact follows_readValue w.text (by omega) hu
termination_by n

theorem follows_readValue (field : String) {n : Nat} {t : List Char}
    (hn : s.toList.length + (6 * t.length + 1) < n) (h : t <:+ s.toList) :
    Follows s (outcome (Query.readValue field t)) (readValue s field n (offset s.toList t)) := by
  obtain ⟨n, rfl⟩ := Nat.exists_eq_add_one.mpr (Nat.zero_lt_of_lt hn)
  have hskip : skipBlanks t <:+ s.toList := (skipBlanks_suffix t).trans h
  rw [outcome_readValue, readValue, skipBlanks_offset (by omega) h, pure_bind, peek_offset hskip,
    pure_bind]
  cases hblanks : skipBlanks t with
  | nil => exact follows_fail (.missingValue field) List.nil_suffix
  | cons c body =>
    have hbody : body.length < t.length := Text.length_lt_of_dropWhile hblanks
    rw [hblanks] at hskip
    rw [List.head?_cons]
    dsimp only
    cases hopener : Opener.of? c with
    | some opener =>
      obtain rfl := Opener.of?_eq_some_iff.mp hopener
      exact follows_readEnclosed field opener (by omega) hskip
    | none =>
      dsimp only
      split
      · exact follows_fail (.unexpected c) hskip
      · refine Follows.congr (r := Query.readWord (c :: body) >>= fun (w, rest) =>
          .ok (w.clause? field, rest)) ?_ ?_
        · exact (follows_readWord (by omega) hskip).bind fun w rest _ hrest => .ok _ hrest
        · cases Query.readWord (c :: body) <;> rfl
termination_by n

theorem follows_readEnclosed (field : String) (opener : Opener) {n : Nat} {body : List Char}
    (hn : s.toList.length + (6 * body.length + 6) < n) (h : opener.char :: body <:+ s.toList) :
    Follows s (outcome (Query.readEnclosed field opener (opener.char :: body) body))
      (readEnclosed s field opener n (offset s.toList (opener.char :: body))) := by
  obtain ⟨n, rfl⟩ := Nat.exists_eq_add_one.mpr (Nat.zero_lt_of_lt hn)
  have hbody : body <:+ s.toList := (List.suffix_cons _ body).trans h
  rw [outcome_readEnclosed, readEnclosed.eq_def]
  cases opener with
  | group =>
    dsimp only
    rw [consume_cons h, pure_bind]
    refine (follows_readAlternatives true field (by omega) hbody).bind fun items t _ ht => ?_
    dsimp only
    have hclose : skipBlanks t <:+ s.toList := (skipBlanks_suffix t).trans ht
    rw [skipBlanks_offset (by omega) ht, pure_bind, consume_offset hclose, pure_bind]
    generalize skipBlanks t = u at hclose ⊢
    split
    · next u => exact .ok _ ((List.suffix_cons _ u).trans hclose)
    · next hparen =>
      split
      · next hhead =>
        obtain ⟨v, hv⟩ := List.head?_eq_some_iff.mp (Prod.mk.inj hhead).1
        exact absurd hv (hparen v)
      · exact follows_fail .unclosedGroup h
  | phrase =>
    refine Follows.congr (r := closedAt ('"' :: body) .unterminatedPhrase (readQuoted? body) >>=
      fun (text, rest) => .ok (phrase? field text, rest)) ?_ ?_
    · exact (follows_readQuoted (by omega) h).bind fun text rest _ hrest => .ok _ hrest
    · cases readQuoted? body <;> rfl
  | regexp =>
    refine Follows.congr (r := closedAt ('/' :: body) .unterminatedRegexp (readRegexp? body) >>=
      fun (pattern, rest) => .ok (some (.regexp field (String.ofList pattern)), rest)) ?_ ?_
    · exact (follows_readRegexp (by omega) h).bind fun pattern rest _ hrest => .ok _ hrest
    · cases readRegexp? body <;> rfl
  | range isInclusive =>
    dsimp only
    refine Follows.congr (r := Query.readRange field ((Opener.range isInclusive).char :: body)
      isInclusive body >>= fun (clause, rest) => .ok (some clause, rest)) ?_ ?_
    · exact (follows_readRange field (by omega) h).bind fun clause rest _ hrest => .ok _ hrest
    · cases Query.readRange field ((Opener.range isInclusive).char :: body) isInclusive body <;> rfl
termination_by n

end

/-! ### Whole queries -/

theorem readAlternatives_skipBlanks (field : String) (t : List Char) :
    outcome (Query.readAlternatives true field (skipBlanks t)) =
      outcome (Query.readAlternatives true field t) := by
  rw [outcome_readAlternatives, outcome_readAlternatives, skipBlanks_skipBlanks]

/-- A query has a clause, for the cursor too, or a fault in front of one of its ends. -/
theorem parse_cases (field query : String) {n : Nat} (hn : 7 * query.toList.length + 5 < n) :
    (∃ c, Clause.parseWith field query = .ok c ∧ parse query n field = pure c) ∨
      ∃ fault rest, rest <:+ query.toList ∧
        Clause.parseWith field query = .error ⟨fault, offset query.toList rest⟩ ∧
          parse query n field = fail fault (offset query.toList rest) := by
  have hsteps : query.toList.length < n := by omega
  have hall : query.toList <:+ query.toList := List.suffix_rfl
  have hskip : skipBlanks query.toList <:+ query.toList := skipBlanks_suffix _
  have hblanks := skipBlanks_offset hsteps hall
  have hend := utf8Length_le_offset_iff hskip
  rw [offset_self] at hblanks
  rw [utf8Length_toList] at hend
  rw [parse, hblanks, pure_bind, Clause.parseWith]
  dsimp only
  by_cases hempty : skipBlanks query.toList = []
  · refine .inr ⟨.emptyQuery, query.toList, hall, ?_, ?_⟩ <;> rw [offset_self]
    · rw [if_pos (List.isEmpty_iff.mpr hempty)]
    · rw [if_pos (hend.mpr hempty)]
  · have hlength := length_skipBlanks_le query.toList
    have hfollows := follows_readAlternatives (n := n) true field (by omega) hskip
    rw [if_neg (mt List.isEmpty_iff.mp hempty), if_neg (mt hend.mp hempty), readQuery_eq,
      ← readAlternatives_skipBlanks]
    generalize outcome (Query.readAlternatives true field (skipBlanks query.toList)) = r
      at hfollows ⊢
    generalize readAlternatives query true field n
      (offset query.toList (skipBlanks query.toList)) = x at hfollows ⊢
    cases hfollows with
    | error e he => exact .inr ⟨e.fault, e.rest, he, rfl, rfl⟩
    | @ok items rest hrest =>
      have hclose : skipBlanks rest <:+ query.toList := (skipBlanks_suffix rest).trans hrest
      rw [pure_bind, ok_bind]
      dsimp only
      rw [skipBlanks_offset hsteps hrest, pure_bind, peek_offset hclose, pure_bind]
      cases hbehind : skipBlanks rest with
      | nil => exact .inl ⟨_, rfl, rfl⟩
      | cons c u => exact .inr ⟨.unexpected c, c :: u, hbehind ▸ hclose, rfl, rfl⟩

/-- **Reading ends at a place in the text.** Read with a cursor that moves over its bytes, a query
is read to an end within a number of steps linear in that of its characters, and no cut is off the
boundaries between these: however many more steps there are, the cursor gives the clause or the
error that the readers give. An error is at a boundary within the text. -/
theorem parse_total (field query : String) :
    (∀ n, 7 * query.length + 5 < n →
      (parse query n field).run = some ((Clause.parseWith field query).mapError .syntaxError)) ∧
      ∀ e, Clause.parseWith field query = .error e →
        e.position ≤ query.utf8ByteSize ∧ (⟨e.position⟩ : String.Pos.Raw).IsValid query := by
  constructor
  · intro n hn
    rw [← String.length_toList] at hn
    obtain ⟨c, hparse, hcursor⟩ | ⟨fault, rest, -, hparse, hcursor⟩ := parse_cases field query hn
    all_goals
      rw [hparse, hcursor]
      rfl
  · intro e herror
    obtain ⟨c, hparse, -⟩ | ⟨fault, rest, hrest, hparse, -⟩ :=
      parse_cases field query (Nat.lt_succ_self _)
    · rw [hparse] at herror
      cases herror
    · rw [hparse] at herror
      cases herror
      have hvalid := isValid_offset hrest
      exact ⟨hvalid.le_utf8ByteSize, hvalid⟩

/-- A parenthesis behind a letter of two bytes is not closed. -/
theorem parse_total_unclosed :
    (parse "é(ü" 27 "body").run = some (.error (.syntaxError ⟨.unclosedGroup, 2⟩)) ∧
      (⟨2⟩ : String.Pos.Raw).IsValid "é(ü" := by
  have hparse : Clause.parseWith "body" "é(ü" = .error ⟨.unclosedGroup, 2⟩ := by
    with_unfolding_all rfl
  obtain ⟨hrun, hposition⟩ := parse_total "body" "é(ü"
  have hends := hrun 27 (by decide)
  rw [hparse] at hends
  exact ⟨hends, (hposition _ hparse).2⟩

end RegistrySearch.Query.Cursor
