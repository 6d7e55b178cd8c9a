import RegistrySearch.Pattern.Basic
import RegistrySearch.Proofs.Pattern.Brackets
import RegistrySearch.Proofs.Pattern.Matching

/-!
# A pattern and the group around it

A pattern is tied by writing it into a group: `^(?:` in front, `)$` behind. The text that comes of
it is read as the pattern between its ties if the parenthesis behind the pattern is the one that
closes the group (`wholePiece?_tiedText`). It need not be, for one of two reasons: a pattern may
close the group itself, with a parenthesis that nothing in it has opened (`Overcloses`), or end in a
remark, which takes the parenthesis (`EndsInRemark`). The former are refused by themselves, the
latter between their ties.
-/

namespace RegistrySearch.Pattern

/-! ### Pieces -/

theorem Flags.skip_cons_of_ne {f : Flags} {c : Char} {s : List Char} (hblank : ¬Unicode.isBlank c)
    (hhash : c ≠ '#') : f.skip (c :: s) = c :: s := by
  unfold Flags.skip
  split
  · simp [skipFrom, hblank, hhash]
  · rfl

/-- A brace without bounds is no repetition, and nothing else either. -/
theorem readRepetitions_eq_none {f : Flags} {p : Piece} {s : List Char}
    (h : readBounds f s = none) : given (readRepetitions f p ('{' :: s)) = none := by
  rw [given_readRepetitions, Flags.skip_cons_of_ne (by decide) (by decide), readRounds?,
    readRepetition, h]
  rfl

/-! ### What alternatives leave -/

theorem suffix_of_readAtom {f : Flags} {s rest : List Char} {p : Piece}
    (h : given (readAtom f s) = some (p, rest)) : rest <:+ s := by
  cases s with
  | nil => cases h
  | cons c t =>
    refine List.IsSuffix.trans ?_ (List.suffix_cons c t)
    rw [given_readAtom] at h
    unfold readAtomFrom at h
    split at h
    · obtain ⟨x, hx, he⟩ := Option.map_eq_some_iff.mp h
      cases he
      exact suffix_of_readSet hx
    · obtain ⟨x, hx, he⟩ := Option.map_eq_some_iff.mp h
      cases he
      exact leavesEnd_readEscape f t _ _ hx
    · obtain ⟨x, -, he⟩ := Option.map_eq_some_iff.mp h
      cases he
      exact List.suffix_refl _
    · cases h
      exact List.suffix_refl _
    · cases h
      exact List.suffix_refl _
    · split at h
      · cases h
      · cases h
        exact List.suffix_refl _

/-- What alternatives leave is the end of their text. -/
theorem Reads.suffix {f : Flags} {s rest : List Char} {body : Body} (h : Reads f s body rest) :
    rest <:+ s := by
  have hskip : ∀ {f : Flags} {s t : List Char} {c : Char}, f.skip s = c :: t → t <:+ s :=
    fun hs => (List.suffix_cons _ _).trans (hs ▸ skip_suffix _ _)
  induction h with
  | stop => exact skip_suffix _ _
  | alternative hs _ ih => exact ih.trans (hskip hs)
  | switch hs ho _ ih =>
    exact ih.trans (((continues_readOpening _).leavesEnd _ _ _ ho).trans (hskip hs))
  | group hs ho _ hp _ ihinner ih =>
    have hopening := ((continues_readOpening _).leavesEnd _ _ _ ho).trans (hskip hs)
    have hinner := ((List.suffix_cons _ _).trans ihinner).trans hopening
    exact ih.trans ((suffix_of_readRepetitions hp).trans hinner)
  | piece hp hq _ ih =>
    have hpiece := (suffix_of_readAtom hp).trans (skip_suffix _ _)
    exact ih.trans ((suffix_of_readRepetitions hq).trans hpiece)

theorem leavesEnd_readBody (f : Flags) : LeavesEnd fun s => given (readBody f s) :=
  fun _ _ _ h => (reads_of_readBody h).suffix

theorem leavesEnd_readAfter (f : Flags) (p : Piece) (names : List String) :
    LeavesEnd (readAfter f p names) := (leavesEnd_readBody f).map (Body.push · p names)

theorem leavesEnd_readFollowing (f : Flags) (p : Piece) (names : List String) :
    LeavesEnd (readFollowing f p names) :=
  (leavesEnd_readRepetitions f p).bind fun q => leavesEnd_readAfter f q names

theorem leavesEnd_readBehind (f : Flags) (opening : Opening) (inner : Body) :
    LeavesEnd (readBehind f opening inner) := by
  intro s body rest h
  unfold readBehind at h
  split at h
  · exact (leavesEnd_readFollowing f _ _ _ body rest h).trans (List.suffix_cons _ _)
  · cases h

theorem leavesEnd_readGroup (f : Flags) (opening : Opening) : LeavesEnd (readGroup f opening) := by
  cases opening with
  | switch g => exact (leavesEnd_readBody g).map (Body.push · (.flat .empty) [])
  | capturing name => exact (leavesEnd_readBody f).bind (leavesEnd_readBehind f (.capturing name))
  | plain g => exact (leavesEnd_readBody g).bind (leavesEnd_readBehind f (.plain g))

/-! ### The two readings of alternatives -/

section readings

variable {f : Flags} {s : List Char}

/-- The two readings of the alternatives of all texts up to the length of `s` agree. -/
private def AgreesUpTo (s : List Char) : Prop :=
  ∀ f t, t.length ≤ s.length →
    Agrees (given (readBody f t)) (given (readBody f (t ++ closing)))

private theorem agrees_readFollowing (hbody : AgreesUpTo s) (p : Piece) (names : List String) :
    Agrees (readFollowing f p names s) (readFollowing f p names (s ++ closing)) := by
  refine (agrees_readRepetitions f p s).bind (k := fun q t => readAfter f q names t)
    (fun q => leavesEnd_readAfter f q names) fun q rest h => ?_
  obtain ⟨le, -⟩ := given_eq_some_iff.mp h
  exact (hbody f rest le).map (Body.push · q names)

private theorem agrees_readBehind (hbody : AgreesUpTo s) (opening : Opening) (inner : Body) :
    Agrees (readBehind f opening inner s) (readBehind f opening inner (s ++ closing)) := by
  cases s with
  | nil =>
    exact .beyond fun body rest h => leavesEnd_readFollowing f _ _ ['$'] body rest h
  | cons c rest =>
    by_cases hc : c = ')'
    · subst hc
      exact agrees_readFollowing (fun g t ht => hbody g t (Nat.le_succ_of_le ht)) _ _
    · simp [readBehind, hc, Agrees.none_none]

private theorem agrees_readGroup (hbody : AgreesUpTo s) (opening : Opening) :
    Agrees (readGroup f opening s) (readGroup f opening (s ++ closing)) := by
  have hinner : ∀ g o, Agrees ((given (readBody g s)).bind fun x => readBehind f o x.1 x.2)
      ((given (readBody g (s ++ closing))).bind fun x => readBehind f o x.1 x.2) := by
    intro g o
    refine (hbody g s (Nat.le_refl _)).bind (leavesEnd_readBehind f o) fun inner rest h => ?_
    obtain ⟨le, -⟩ := given_eq_some_iff.mp h
    exact agrees_readBehind (fun f' t ht => hbody f' t (Nat.le_trans ht le)) o inner
  cases opening with
  | switch g => exact (hbody g s (Nat.le_refl _)).map (Body.push · (.flat .empty) [])
  | capturing name => exact hinner _ _
  | plain g => exact hinner _ _

/-- The two readings of a set, a dot, a tie or a single character. -/
private theorem continues_readAtomFrom {c : Char} (hescape : c ≠ '\\') :
    Continues (readAtomFrom f c) := by
  by_cases hset : c = '['
  · subst hset
    have hset : Continues fun s => given (readSet f s) :=
      ⟨fun _ _ _ => suffix_of_readSet, agrees_readSet f⟩
    exact hset.map fun set => (⟨.chars set.set, set.depth⟩ : Piece)
  by_cases hdot : c = '.'
  · subst hdot
    have hdot : Continues fun s => f.dot?.map fun r => (Piece.flat r, s) := by
      simpa only [Option.map_map, Function.comp_def] using
        Continues.of_option (f.dot?.map Piece.flat)
    exact hdot
  by_cases hcaret : c = '^'
  · subst hcaret
    exact .some _
  by_cases hdollar : c = '$'
  · subst hdollar
    exact .some _
  have hplain : readAtomFrom f c = fun s =>
      if c = '*' || c = '+' || c = '?' || c = '{' then none else some (.flat (f.char c), s) := by
    funext s
    rw [readAtomFrom] <;> assumption
  rw [hplain]
  exact .ite .none (.some _)

/-- The two readings of a piece. What an escape leaves dangling is refused. -/
private theorem agrees_readPiece {c : Char} (hbody : AgreesUpTo s) :
    Agrees ((given (readAtom f (c :: s))).bind fun x => readFollowing f x.1 [] x.2)
      ((given (readAtom f (c :: (s ++ closing)))).bind fun x => readFollowing f x.1 [] x.2) := by
  have hfollowing : ∀ p t, t.length ≤ s.length →
      Agrees (readFollowing f p [] t) (readFollowing f p [] (t ++ closing)) := fun p t ht =>
    agrees_readFollowing (fun g t' ht' => hbody g t' (Nat.le_trans ht' ht)) p []
  by_cases hescape : c = '\\'
  · subst hescape
    simp only [given_readAtom, readAtomFrom, Option.bind_map, Function.comp_def]
    refine (agrees_readEscape f s).bind (k := fun atom t => readFollowing f (atom.toPiece f) [] t)
      (fun atom => leavesEnd_readFollowing f _ _) (fun atom rest h => ?_) fun a rest h => ?_
    · exact hfollowing _ rest (Nat.le_of_lt (length_lt_of_readEscape h))
    · dsimp only [readFollowing]
      rw [readRepetitions_eq_none h]
      rfl
  · have hatom := continues_readAtomFrom (f := f) hescape
    rw [given_readAtom, given_readAtom]
    refine (hatom.agrees s).bind (k := fun p t => readFollowing f p [] t)
      (fun p => leavesEnd_readFollowing f p []) fun p rest h => ?_
    exact hfollowing p rest (hatom.leavesEnd s p rest h).length_le

end readings

theorem agrees_readBody (f : Flags) (s : List Char) :
    Agrees (given (readBody f s)) (given (readBody f (s ++ closing))) := by
  rw [given_readBody, given_readBody]
  refine Agrees.skip .taken ?_
  cases hs : f.skip s with
  | nil => exact .left
  | cons c rest =>
    have hle : (c :: rest).length ≤ s.length := hs ▸ f.length_skip_le s
    have hlt : rest.length < s.length := hle
    have hrest : AgreesUpTo rest := fun g t ht => agrees_readBody g t
    rw [List.cons_append]
    by_cases hclose : c = ')'
    · subst hclose
      exact .left
    by_cases hbar : c = '|'
    · subst hbar
      exact (agrees_readBody f rest).map _
    by_cases hopen : c = '('
    · subst hopen
      refine ((continues_readOpening f).agrees rest).bind (leavesEnd_readGroup f)
        fun opening r h => ?_
      have hr := length_le_of_readOpening h
      exact agrees_readGroup (fun g t ht => hrest g t (Nat.le_trans ht hr)) opening
    · rw [readBodyFrom_eq hclose hbar hopen, readBodyFrom_eq hclose hbar hopen]
      exact agrees_readPiece hrest
termination_by s.length
decreasing_by all_goals omega

/-! ### Whole texts -/

/-- The piece that alternatives are if they are a whole text: no parenthesis is left over, and
groups have different names. -/
def pieceOf? : Option (Body × List Char) → Option Piece
  | some (body, []) => if body.names.Nodup then some body.toPiece else none
  | _ => none

/-- The piece that a text is read as. -/
def wholePiece? (text : String) : Option Piece :=
  pieceOf? (given (readBody .initial text.toList))

theorem ofText?_eq (text : String) :
    Regex.ofText? text =
      (wholePiece? text).bind fun p => if p.depth ≤ depthLimit then some p.regex else none := by
  unfold Regex.ofText? wholePiece?
  cases readBody .initial text.toList with
  | none => rfl
  | some x =>
    obtain ⟨body, rest, le⟩ := x
    cases rest with
    | cons c rest => rfl
    | nil =>
      rw [given_some]
      dsimp only [pieceOf?]
      by_cases hnames : body.names.Nodup
      · simp [hnames]
      · simp [hnames]

/-- A piece between its ties, which are a level of their own as the group is. -/
def Piece.tied (p : Piece) : Piece := ⟨p.regex.tied, p.depth + 2⟩

section ties

variable {pattern : String} {body : Body} {rest : List Char}

/-- Nothing is repeated in front of a text that begins with no operator. -/
private theorem readFollowing_eq (p : Piece) (names : List String) {s : List Char}
    (h : readRounds? .initial s = some (none, s)) :
    readFollowing .initial p names s = readAfter .initial p names s := by
  have hskip : Flags.initial.skip s = s := rfl
  rw [readFollowing, given_readRepetitions, hskip, h]
  rfl

/-- The tie behind a group. -/
private theorem readFollowing_dollar (p : Piece) (names : List String) :
    readFollowing .initial p names ['$'] =
      some ((Body.empty.push (.flat (.look .textEnd)) []).push p names, []) := by
  have hend : given (readBody .initial []) = some (.empty, []) := by
    rw [given_readBody]
    rfl
  have hdollar : given (readBody .initial ['$']) =
      some (Body.empty.push (.flat (.look .textEnd)) [], []) := by
    have hfrom : readBodyFrom .initial ['$'] =
        readFollowing .initial (.flat (.look .textEnd)) [] [] := by
      rw [readBodyFrom_eq (by decide) (by decide) (by decide), given_readAtom]
      rfl
    rw [given_readBody, show Flags.initial.skip ['$'] = ['$'] from rfl, hfrom,
      readFollowing_eq _ _ rfl, readAfter, hend]
    rfl
  rw [readFollowing_eq _ _ rfl, readAfter, hdollar]
  rfl

/-- A tied pattern is read up to the group, then the pattern with what stands behind it. -/
private theorem given_readBody_tiedText (pattern : String) :
    given (readBody .initial (tiedText pattern).toList) =
      ((given (readBody .initial (pattern.toList ++ closing))).bind fun x =>
        readBehind .initial (.plain .initial) x.1 x.2).map fun x =>
          (x.1.push (.flat (.look .textStart)) [], x.2) := by
  have htext : (tiedText pattern).toList =
      '^' :: '(' :: '?' :: ':' :: (pattern.toList ++ closing) := by
    simp [tiedText, closing]
  have hgroup : given (readBody .initial ('(' :: '?' :: ':' :: (pattern.toList ++ closing))) =
      (given (readBody .initial (pattern.toList ++ closing))).bind fun x =>
        readBehind .initial (.plain .initial) x.1 x.2 := by
    rw [given_readBody]
    rfl
  have hcaret : readBodyFrom .initial
      ('^' :: '(' :: '?' :: ':' :: (pattern.toList ++ closing)) =
        readFollowing .initial (.flat (.look .textStart)) []
          ('(' :: '?' :: ':' :: (pattern.toList ++ closing)) := by
    rw [readBodyFrom_eq (by decide) (by decide) (by decide), given_readAtom]
    rfl
  rw [htext, given_readBody, show ∀ s, Flags.initial.skip s = s from fun _ => rfl, hcaret,
    readFollowing_eq _ _ rfl, readAfter, hgroup]

private theorem toPiece_tied (p : Piece) (names : List String) :
    (((Body.empty.push (.flat (.look .textEnd)) []).push ⟨p.regex, p.depth + 1⟩ names).push
      (.flat (.look .textStart)) []).toPiece = p.tied := by
  simp [Body.toPiece, Body.push, Body.empty, Piece.concat, Piece.flat, Piece.tied, Regex.concat,
    Regex.choice, Regex.tied]

/-- A pattern that leaves the parenthesis behind it to the group is read as it is alone. -/
private theorem wholePiece?_tiedText_of_closing
    (h : given (readBody .initial (pattern.toList ++ closing)) = some (body, closing)) :
    wholePiece? (tiedText pattern) =
      if body.names.Nodup then some body.toPiece.tied else none := by
  have hbehind : readBehind .initial (.plain .initial) body closing =
      readFollowing .initial ⟨body.toPiece.regex, body.toPiece.depth + 1⟩ body.names ['$'] := rfl
  rw [wholePiece?, given_readBody_tiedText, h, Option.bind_some, hbehind, readFollowing_dollar,
    Option.map_some]
  dsimp only [pieceOf?]
  rw [toPiece_tied]
  simp [Body.push, Body.empty]

/-- A tied pattern is read only if a parenthesis closes the group. -/
private theorem exists_of_wholePiece?_tiedText (h : (wholePiece? (tiedText pattern)).isSome) :
    ∃ body rest,
      given (readBody .initial (pattern.toList ++ closing)) = some (body, ')' :: rest) := by
  rw [wholePiece?, given_readBody_tiedText] at h
  cases hbody : given (readBody .initial (pattern.toList ++ closing)) with
  | none =>
    rw [hbody] at h
    cases h
  | some x =>
    obtain ⟨body, rest⟩ := x
    rw [hbody, Option.bind_some] at h
    unfold readBehind at h
    dsimp only at h
    split at h
    · next rest' => exact ⟨body, rest', rfl⟩
    · cases h

end ties

/-! ### The parenthesis behind a pattern -/

/-- A pattern closes the group around it: one of its parentheses has no opening one. -/
def Overcloses (pattern : String) : Prop :=
  ∃ body rest, given (readBody .initial pattern.toList) = some (body, ')' :: rest)

/-- A pattern ends in a remark: the parenthesis behind it is passed over. -/
def EndsInRemark (pattern : String) : Prop :=
  ∃ body, given (readBody .initial pattern.toList) = some (body, []) ∧
    given (readBody .initial (pattern.toList ++ closing)) = some (body, [])

section whole

variable {pattern : String}

theorem wholePiece?_of_overcloses (h : Overcloses pattern) : wholePiece? pattern = none := by
  obtain ⟨body, rest, h⟩ := h
  rw [wholePiece?, h]
  rfl

theorem wholePiece?_tiedText_of_endsInRemark (h : EndsInRemark pattern) :
    wholePiece? (tiedText pattern) = none := by
  obtain ⟨body, -, h⟩ := h
  rw [← Option.not_isSome_iff_eq_none]
  intro hsome
  obtain ⟨body', rest, h'⟩ := exists_of_wholePiece?_tiedText hsome
  rw [h] at h'
  cases h'

/-- **Ties.** A pattern that neither closes the group around it nor ends in a remark is read between
its ties as it is read alone. -/
theorem wholePiece?_tiedText (hover : ¬Overcloses pattern) (hremark : ¬EndsInRemark pattern) :
    wholePiece? (tiedText pattern) = (wholePiece? pattern).map Piece.tied := by
  have hagrees := agrees_readBody .initial pattern.toList
  have hnone : (∀ body rest,
      given (readBody .initial (pattern.toList ++ closing)) ≠ some (body, ')' :: rest)) →
        wholePiece? (tiedText pattern) = none := by
    intro h
    rw [← Option.not_isSome_iff_eq_none]
    intro hsome
    obtain ⟨body, rest, h'⟩ := exists_of_wholePiece?_tiedText hsome
    exact h body rest h'
  unfold Overcloses at hover
  unfold EndsInRemark at hremark
  have halone : wholePiece? pattern = pieceOf? (given (readBody .initial pattern.toList)) := rfl
  rw [halone]
  generalize hx : given (readBody .initial pattern.toList) = x at hagrees hover hremark
  generalize hy : given (readBody .initial (pattern.toList ++ closing)) = y at hagrees hnone hremark
  cases hagrees with
  | @left body rest =>
    cases rest with
    | nil =>
      rw [wholePiece?_tiedText_of_closing hy]
      dsimp only [pieceOf?]
      split <;> rfl
    | cons c rest =>
      refine hnone fun body' rest' h => ?_
      cases h
      exact hover ⟨_, _, rfl⟩
  | @taken body => exact absurd ⟨body, rfl, rfl⟩ hremark
  | beyond hend =>
    refine hnone fun body rest h => ?_
    -- what is left behind the parenthesis does not begin with one
    rcases List.suffix_cons_iff.mp (hend body _ h) with hdollar | hnil
    · cases hdollar
    · cases List.suffix_nil.mp hnil

end whole

end RegistrySearch.Pattern
