import RegistrySearch.Proofs.Pattern.Escapes

/-!
# Sets in front of a closing parenthesis

A set and its members are read alike with the closing parenthesis behind them. A set ends in a
bracket, so that the parenthesis is taken into one that is unfinished, and then nothing is left.
-/

namespace RegistrySearch.Pattern

open Unicode (Ranges)

/-! ### Members of sets -/

theorem leavesEnd_readSetAtom (f : Flags) : LeavesEnd (readSetAtom f) := by
  intro s atom rest h
  unfold readSetAtom at h
  split at h
  · cases h
  · exact (leavesEnd_readEscape f _ _ _ h).trans (List.suffix_cons _ _)
  · cases h
    exact List.suffix_cons _ _

theorem agrees_readSetAtom (f : Flags) (s : List Char) :
    AgreesOrDangles f (readSetAtom f s) (readSetAtom f (s ++ closing)) := by
  cases s with
  | nil =>
    rw [List.nil_append]
    exact .inl (.beyond fun _ _ h =>
      suffix_tail_of_lt (leavesEnd_readSetAtom f _ _ _ h) (length_lt_of_readSetAtom h))
  | cons c rest =>
    rw [List.cons_append]
    by_cases hc : c = '\\'
    · subst hc
      exact agrees_readEscape f rest
    · have heq : ∀ t, readSetAtom f (c :: t) = some (.char c, t) := by
        intro t
        simp [readSetAtom]
      rw [heq, heq]
      exact .inl .left

private theorem head?_append {s : List Char} {c : Char} (hc : c ≠ ')') :
    (s ++ closing).head? = some c ↔ s.head? = some c := by
  cases s with
  | nil =>
    constructor
    · intro h
      exact absurd (Option.some.inj h).symm hc
    · intro h
      cases h
  | cons d t => rfl

private theorem head?_ne_of_filter {s : List Char} {c : Char} (hc : ¬Unicode.isBlank c)
    (h : c ∉ s.filter fun c => !Unicode.isBlank c) : s.head? ≠ some c := by
  intro hs
  refine h (List.mem_filter.mpr ⟨List.mem_of_head? hs, ?_⟩)
  simpa using hc

/-- The parenthesis is not the bracket or hyphen that keeps a hyphen from making a range. -/
theorem peekBehind_append {f : Flags} {s : List Char} {c : Char} (hc : c = ']' ∨ c = '-') :
    peekBehind f (s ++ closing) = some c ↔ peekBehind f s = some c := by
  have hparen : c ≠ ')' := by rcases hc with rfl | rfl <;> decide
  have hhash : c ≠ '#' := by rcases hc with rfl | rfl <;> decide
  have hblank : ¬Unicode.isBlank c := by rcases hc with rfl | rfl <;> decide
  have hclosing : closing.filter (fun c => !Unicode.isBlank c) = closing := by decide
  have hfilter : (s ++ closing).filter (fun c => !Unicode.isBlank c) =
      s.filter (fun c => !Unicode.isBlank c) ++ closing := by
    rw [List.filter_append, hclosing]
  have hnot := head?_ne_of_filter (s := s) hblank
  unfold peekBehind
  by_cases hverbose : f.verbose
  · rw [if_pos hverbose, if_pos hverbose, hfilter]
    generalize s.filter (fun c => !Unicode.isBlank c) = t at hnot
    have hneither : c ∉ t → (some ')' = some c ↔ s.head? = some c) := fun ht =>
      iff_of_false (fun h => hparen (Option.some.inj h).symm) (hnot ht)
    match t with
    | [] => exact hneither List.not_mem_nil
    | [d] =>
      by_cases hd : d = '#'
      · subst hd
        exact hneither (by simpa using hhash)
      · simp [hd, closing]
    | d :: e :: u =>
      by_cases hd : d = '#'
      · subst hd
        rfl
      · simp [hd]
  · rw [if_neg hverbose, if_neg hverbose]
    exact head?_append hparen

theorem dropHyphen?_append (f : Flags) (s : List Char) :
    dropHyphen? f s = none ∧ dropHyphen? f (s ++ closing) = none ∨
      ∃ behind, s = '-' :: behind ∧ dropHyphen? f s = some (f.skip behind) ∧
        dropHyphen? f (s ++ closing) = some (f.skip (behind ++ closing)) := by
  cases s with
  | nil => exact .inl ⟨rfl, rfl⟩
  | cons c rest =>
    by_cases hc : c = '-'
    · subst hc
      rw [List.cons_append, dropHyphen?, dropHyphen?]
      simp only [peekBehind_append (.inl rfl), peekBehind_append (.inr rfl)]
      split
      · exact .inl ⟨rfl, rfl⟩
      · exact .inr ⟨rest, rfl, rfl, rfl⟩
    · refine .inl ?_
      simp [dropHyphen?, hc]

theorem suffix_of_dropHyphen? {f : Flags} {s rest : List Char} (h : dropHyphen? f s = some rest) :
    rest <:+ s := by
  unfold dropHyphen? at h
  split at h
  · split at h
    · cases h
    · cases h
      exact (skip_suffix f _).trans (List.suffix_cons _ _)
  · cases h

/-- The range from a character to the one that is read. -/
private def rangeTo (f : Flags) (c : Char) : Atom × List Char → Option (Ranges × List Char)
  | (.char d, rest) =>
    if f.canList c && f.canList d && c ≤ d then some (.single c.toNat d.toNat, rest) else none
  | _ => none

/-- Reads on behind the first atom of a member, where no blanks and remarks stand in front. -/
private def readMemberFrom (f : Flags) (atom : Atom) (s : List Char) :
    Option (Ranges × List Char) :=
  match atom, dropHyphen? f s with
  | .char c, none => if f.canList c then some (.single c.toNat c.toNat, s) else none
  | .set set, none => some (set, s)
  | .char c, some behind => (readSetAtom f behind).bind (rangeTo f c)
  | _, _ => none

private theorem readMember_eq (f : Flags) (s : List Char) :
    readMember f s = (readSetAtom f s).bind fun x => readMemberFrom f x.1 (f.skip x.2) := by
  unfold readMember
  refine Option.bind_congr fun x _ => ?_
  obtain ⟨atom, rest⟩ := x
  cases atom with
  | char c =>
    cases h : dropHyphen? f (f.skip rest) with
    | none => simp only [readMemberFrom, h]
    | some behind =>
      simp only [readMemberFrom, h]
      rfl
  | set set => cases h : dropHyphen? f (f.skip rest) <;> simp only [readMemberFrom, h]
  | look a => simp only [readMemberFrom]

private theorem continues_rangeTo (f : Flags) (c : Char) (atom : Atom) :
    Continues fun rest => rangeTo f c (atom, rest) := by
  cases atom with
  | char d => exact .ite (.some _) .none
  | set set => exact .none
  | look a => exact .none

private theorem agrees_range (f : Flags) (c : Char) (s : List Char) :
    Agrees ((readSetAtom f s).bind (rangeTo f c))
      ((readSetAtom f (s ++ closing)).bind (rangeTo f c)) :=
  (agrees_readSetAtom f s).bind (fun atom => (continues_rangeTo f c atom).leavesEnd)
    (fun atom rest _ => (continues_rangeTo f c atom).agrees rest) fun _ _ _ => rfl

private theorem leavesEnd_readMemberFrom (f : Flags) (atom : Atom) :
    LeavesEnd (readMemberFrom f atom) := by
  intro s set rest h
  unfold readMemberFrom at h
  split at h
  · split at h
    · cases h
      exact List.suffix_refl _
    · cases h
  · cases h
    exact List.suffix_refl _
  · next c behind hbehind =>
    obtain ⟨x, hx, h⟩ := Option.bind_eq_some_iff.mp h
    have hrest := (continues_rangeTo f c x.1).leavesEnd x.2 set rest h
    exact hrest.trans ((leavesEnd_readSetAtom f _ _ _ hx).trans (suffix_of_dropHyphen? hbehind))
  · cases h

private theorem continues_readMemberFrom (f : Flags) (atom : Atom) :
    Continues (readMemberFrom f atom) where
  leavesEnd := leavesEnd_readMemberFrom f atom
  agrees s := by
    unfold readMemberFrom
    rcases dropHyphen?_append f s with ⟨hs, happ⟩ | ⟨behind, rfl, hs, happ⟩
    · rw [hs, happ]
      cases atom with
      | char c => exact (Continues.ite (.some _) .none).agrees s
      | set set => exact .left
      | look a => exact .none_none
    · rw [hs, happ]
      cases atom with
      | char c =>
        refine Agrees.skip (k := fun t => (readSetAtom f t).bind (rangeTo f c)) .none_none ?_
        exact agrees_range f c (f.skip behind)
      | set set => exact .none_none
      | look a => exact .none_none

theorem leavesEnd_readMember (f : Flags) : LeavesEnd (readMember f) := by
  rw [funext (readMember_eq f)]
  exact (leavesEnd_readSetAtom f).bind fun atom =>
    ((continues_readMemberFrom f atom).skip f).leavesEnd

theorem agrees_readMember (f : Flags) (s : List Char) :
    Agrees (readMember f s) (readMember f (s ++ closing)) := by
  have hbehind := fun atom => (continues_readMemberFrom f atom).skip f
  rw [readMember_eq, readMember_eq]
  refine (agrees_readSetAtom f s).bind (fun atom => (hbehind atom).leavesEnd)
    (fun atom rest _ => (hbehind atom).agrees rest) fun a rest hbounds => ?_
  simp only [readMemberFrom]

/-! ### Sets -/

theorem continues_dropCaret : Continues fun s => some (dropCaret s) := by
  refine .of_heads ['^'] (fun c hc => ?_) (Continues.some false) fun s hs => ?_
  · obtain rfl := List.mem_singleton.mp hc
    exact ⟨by decide, Continues.some true⟩
  · cases s with
    | nil => rfl
    | cons c rest =>
      have hc : c ≠ '^' := by simpa using hs
      simp [dropCaret, hc]

theorem readHyphens_of_head {f : Flags} {u : Union} {s : List Char} (h : s.head? ≠ some '-') :
    readHyphens f u s = (u, s) := by
  rw [readHyphens]
  rintro rest rfl
  exact h rfl

theorem agrees_readHyphens (f : Flags) (u : Union) (s : List Char) :
    Agrees (some (readHyphens f u s)) (some (readHyphens f u (s ++ closing))) := by
  by_cases hs : s.head? = some '-'
  · obtain ⟨rest, rfl⟩ := List.head?_eq_some_iff.mp hs
    have hlt : (f.skip rest).length < ('-' :: rest).length :=
      Nat.lt_succ_of_le (f.length_skip_le rest)
    rw [List.cons_append, readHyphens, readHyphens]
    have hnil : Agrees (some (readHyphens f (u.add (.single 0x2D 0x2D) 0) []))
        (some (readHyphens f (u.add (.single 0x2D 0x2D) 0) [])) := by
      rw [readHyphens_of_head (by simp)]
      exact .taken
    exact Agrees.skip (k := fun t => some (readHyphens f (u.add (.single 0x2D 0x2D) 0) t)) hnil
      (agrees_readHyphens f _ (f.skip rest))
  · have happ : (s ++ closing).head? ≠ some '-' := fun h => hs ((head?_append (by decide)).mp h)
    rw [readHyphens_of_head hs, readHyphens_of_head happ]
    exact .left
termination_by s.length

theorem continues_readHyphens (f : Flags) (u : Union) :
    Continues fun s => some (readHyphens f u s) where
  leavesEnd := by
    have hend : ∀ u s, (readHyphens f u s).2 <:+ s := by
      intro u s
      fun_induction readHyphens f u s with
      | case1 u rest ih => exact ih.trans ((skip_suffix f rest).trans (List.suffix_cons '-' rest))
      | case2 => exact List.suffix_refl _
    intro s v rest h
    rw [← show (readHyphens f u s).2 = rest by rw [Option.some.inj h]]
    exact hend u s
  agrees := agrees_readHyphens f u

theorem continues_readFirstBracket (f : Flags) (u : Union) :
    Continues fun s => some (readFirstBracket f u s) := by
  have hother : ∀ s : List Char, s.head? ≠ some ']' → readFirstBracket f u s = (u, s) := by
    intro s hs
    cases s with
    | nil => rfl
    | cons c rest =>
      have hc : c ≠ ']' := by simpa using hs
      simp [readFirstBracket, hc]
  by_cases hu : u.size = 0
  · refine .of_heads [']'] (fun c hc => ?_) (Continues.some u) fun s hs => ?_
    · obtain rfl := List.mem_singleton.mp hc
      simp only [readFirstBracket, hu, if_true]
      exact ⟨by decide, (Continues.some _).skip f⟩
    · rw [hother s (hs ']' (List.mem_singleton_self _))]
  · have hkeep : ∀ s, readFirstBracket f u s = (u, s) := by
      intro s
      unfold readFirstBracket
      split
      · rw [if_neg hu]
      · rfl
    simpa only [hkeep] using Continues.some u

/-- What a set begins with, as one value. -/
theorem continues_readSetStart (f : Flags) : Continues fun s =>
    some (((readSetStart f s).1, (readSetStart f s).2.1), (readSetStart f s).2.2) := by
  have hbracket : ∀ (isNegated : Bool) (u : Union), Continues fun rest =>
      some ((isNegated, (readFirstBracket f u rest).1), (readFirstBracket f u rest).2) := by
    intro isNegated u
    exact (continues_readFirstBracket f u).map (isNegated, ·)
  have hhyphens : ∀ isNegated : Bool, Continues fun rest =>
      (some (readHyphens f .empty rest)).bind fun x =>
        some ((isNegated, (readFirstBracket f x.1 x.2).1), (readFirstBracket f x.1 x.2).2) :=
    fun isNegated => (continues_readHyphens f .empty).bind (hbracket isNegated)
  exact (continues_dropCaret.bind fun isNegated => (hhyphens isNegated).skip f).skip f

/-! ### Classes and operators -/

theorem suffix_of_splitOnce {separator s head tail : List Char}
    (h : splitOnce separator s = some (head, tail)) : tail <:+ s := by
  fun_induction splitOnce separator s generalizing head tail with
  | case1 => cases h
  | case2 c rest _ =>
    cases h
    exact List.drop_suffix _ _
  | case3 c rest _ ih =>
    obtain ⟨x, hx, he⟩ := Option.map_eq_some_iff.mp h
    cases he
    exact (ih hx).trans (List.suffix_cons c rest)

theorem splitOnce_append {c : Char} (hc : c ∉ closing) (s : List Char) :
    splitOnce [c] (s ++ closing) = (splitOnce [c] s).map fun x => (x.1, x.2 ++ closing) := by
  induction s with
  | nil =>
    have hne : c ≠ ')' ∧ c ≠ '$' := by simpa [closing] using hc
    simp [closing, splitOnce, hne]
  | cons d s ih =>
    rw [List.cons_append, splitOnce, splitOnce, ih]
    by_cases hd : c = d
    · simp [hd]
    · simp [hd, Function.comp_def]

theorem suffix_of_readAsciiClass {f : Flags} {s rest : List Char} {set : Option Ranges}
    (h : readAsciiClass f s = some (set, rest)) : rest <:+ s := by
  unfold readAsciiClass at h
  split at h
  · next t =>
    dsimp only at h
    split at h
    · next name r hsplit =>
      obtain ⟨_, _, he⟩ := Option.map_eq_some_iff.mp h
      cases he
      have hcaret := continues_dropCaret.leavesEnd t _ _ rfl
      refine List.IsSuffix.trans ?_ (hcaret.trans (List.suffix_cons ':' t))
      exact (List.suffix_cons ']' _).trans (suffix_of_splitOnce hsplit)
    · cases h
  · cases h

/-- A class in brackets and colons does not end in front of the parenthesis. -/
theorem readAsciiClass_append (f : Flags) (s : List Char) :
    readAsciiClass f (s ++ closing) =
      (readAsciiClass f s).map fun x => (x.1, x.2 ++ closing) := by
  have hcaret : ∀ s, dropCaret (s ++ closing) = ((dropCaret s).1, (dropCaret s).2 ++ closing) := by
    intro s
    cases s with
    | nil => rfl
    | cons c rest =>
      by_cases hc : c = '^'
      · subst hc; rfl
      · simp [dropCaret, hc]
  cases s with
  | nil => rfl
  | cons c rest =>
    by_cases hc : c = ':'
    · subst hc
      rw [List.cons_append, readAsciiClass, readAsciiClass, hcaret]
      dsimp only
      rw [splitOnce_append (by decide)]
      cases splitOnce [':'] (dropCaret rest).2 with
      | none => rfl
      | some x =>
        obtain ⟨name, tail⟩ := x
        cases tail with
        | nil => rfl
        | cons d t =>
          by_cases hd : d = ']'
          · subst hd
            simp [Function.comp_def]
          · simp [hd]
    · simp [readAsciiClass, hc]

/-- The operator that is written with a character twice. -/
private def operator? (c : Char) : Option SetOperator :=
  if c = '&' then some .intersection
  else if c = '-' then some .difference
  else if c = '~' then some .symmetricDifference
  else none

private theorem read?_cons_cons (c d : Char) (s : List Char) :
    SetOperator.read? (c :: d :: s) =
      if c = d then (operator? c).map fun operator => (operator, s) else none := by
  unfold SetOperator.read?
  split
  · next h => cases h; rfl
  · next h => cases h; rfl
  · next h => cases h; rfl
  · next hand hminus htilde =>
    split
    · next h =>
      subst h
      have hc : c ≠ '&' ∧ c ≠ '-' ∧ c ≠ '~' := by
        refine ⟨?_, ?_, ?_⟩
        · rintro rfl; exact hand _ rfl
        · rintro rfl; exact hminus _ rfl
        · rintro rfl; exact htilde _ rfl
      simp [operator?, hc]
    · rfl

theorem suffix_of_readOperator {o : SetOperator} {s rest : List Char}
    (h : SetOperator.read? s = some (o, rest)) : rest <:+ s := by
  unfold SetOperator.read? at h
  split at h
  · cases h
    exact List.suffix_append ['&', '&'] rest
  · cases h
    exact List.suffix_append ['-', '-'] rest
  · cases h
    exact List.suffix_append ['~', '~'] rest
  · cases h

theorem read?_append (s : List Char) :
    SetOperator.read? (s ++ closing) =
      (SetOperator.read? s).map fun x => (x.1, x.2 ++ closing) := by
  match s with
  | [] => rfl
  | [c] =>
    have hnone : SetOperator.read? [c] = none := by
      simp [SetOperator.read?]
    rw [hnone, closing, List.singleton_append, read?_cons_cons]
    split
    · next h => subst h; rfl
    · rfl
  | c :: d :: t =>
    rw [List.cons_append, List.cons_append, read?_cons_cons, read?_cons_cons]
    split
    · rw [Option.map_map]
      rfl
    · rfl

/-! ### What sets leave -/

private theorem readMembersFrom_eq {f : Flags} {left : LeftSide} {u : Union} {c : Char}
    {t : List Char} (hclose : c ≠ ']') (hopen : c ≠ '[') :
    readMembersFrom f left u (c :: t) = readOperand f left u (c :: t) := by
  rw [readMembersFrom]
  · exact hclose
  · exact hopen

/-- The set whose content is read, or its complement. -/
private theorem continues_named (f : Flags) (isNegated : Bool) (content : NestedSet) :
    Continues fun rest => (f.named? isNegated content.set).map fun set =>
      ((⟨set, content.depth + 1⟩ : NestedSet), rest) := by
  cases f.named? isNegated content.set with
  | none => exact .none
  | some set => exact .some _

/-- What a set leaves is the end of its text if what its members leave is. -/
private theorem suffix_of_readSet_of {f : Flags} {s rest : List Char} {content : NestedSet}
    (hmembers : ∀ t, t.length ≤ s.length → ∀ u content rest,
      given (readMembers f none u t) = some (content, rest) → rest <:+ t)
    (h : given (readSet f s) = some (content, rest)) : rest <:+ s := by
  rw [given_readSet] at h
  obtain ⟨x, hx, h⟩ := Option.bind_eq_some_iff.mp h
  have hrest := (continues_named f _ x.1).leavesEnd x.2 content rest h
  have hstart := (continues_readSetStart f).leavesEnd s _ _ rfl
  exact (hrest.trans (hmembers _ hstart.length_le _ _ _ hx)).trans hstart

theorem suffix_of_readMembers {f : Flags} {left : LeftSide} {u : Union} {s rest : List Char}
    {content : NestedSet} (h : given (readMembers f left u s) = some (content, rest)) :
    rest <:+ s := by
  rw [given_readMembers] at h
  refine List.IsSuffix.trans ?_ (skip_suffix f s)
  cases hs : f.skip s with
  | nil =>
    rw [hs] at h
    cases h
  | cons c t =>
    have hle : (c :: t).length ≤ s.length := hs ▸ f.length_skip_le s
    have hlt : t.length < s.length := hle
    rw [hs] at h
    by_cases hclose : c = ']'
    · subst hclose
      cases h
      exact List.suffix_cons _ _
    by_cases hopen : c = '['
    · subst hopen
      refine List.IsSuffix.trans ?_ (List.suffix_cons _ t)
      rw [readMembersFrom] at h
      cases hclass : readAsciiClass f t with
      | none =>
        simp only [hclass] at h
        obtain ⟨x, hx, h⟩ := Option.bind_eq_some_iff.mp h
        have hset := suffix_of_readSet_of
          (fun r hr v content rest h => suffix_of_readMembers h) hx
        have hr := hset.length_le
        exact (suffix_of_readMembers h).trans hset
      | some x =>
        simp only [hclass] at h
        obtain ⟨set, -, h⟩ := Option.bind_eq_some_iff.mp h
        have hr := length_lt_of_readAsciiClass hclass
        exact (suffix_of_readMembers h).trans (suffix_of_readAsciiClass hclass)
    · rw [readMembersFrom_eq hclose hopen, readOperand] at h
      cases hoperator : SetOperator.read? (c :: t) with
      | none =>
        simp only [hoperator] at h
        obtain ⟨x, hx, h⟩ := Option.bind_eq_some_iff.mp h
        have hr := length_lt_of_readMember hx
        exact (suffix_of_readMembers h).trans (leavesEnd_readMember f _ _ _ hx)
      | some x =>
        simp only [hoperator] at h
        have hr := length_lt_of_readOperator hoperator
        exact (suffix_of_readMembers h).trans (suffix_of_readOperator hoperator)
termination_by s.length
decreasing_by all_goals omega

theorem suffix_of_readSet {f : Flags} {s rest : List Char} {content : NestedSet}
    (h : given (readSet f s) = some (content, rest)) : rest <:+ s :=
  suffix_of_readSet_of (fun _ _ _ _ _ => suffix_of_readMembers) h

/-! ### The two readings of a set -/

private theorem leavesEnd_readContent (f : Flags) (start : Bool × Union) :
    LeavesEnd (readContent f start) :=
  LeavesEnd.bind (k := fun s => given (readMembers f none start.2 s))
    (fun _ _ _ => suffix_of_readMembers)
    fun content => (continues_named f start.1 content).leavesEnd

/-- The two readings of a set agree if those of its members do. -/
private theorem agrees_readSet_of {f : Flags} {s : List Char}
    (hmembers : ∀ t, t.length ≤ s.length → ∀ u, Agrees (given (readMembers f none u t))
      (given (readMembers f none u (t ++ closing)))) :
    Agrees (given (readSet f s)) (given (readSet f (s ++ closing))) := by
  rw [given_readSet, given_readSet]
  refine ((continues_readSetStart f).agrees s).bind (k := readContent f) (leavesEnd_readContent f)
    fun start rest h => ?_
  have hle : rest.length ≤ s.length := by
    cases h
    exact length_readSetStart_le f s
  exact (hmembers rest hle start.2).bind
    (fun content => (continues_named f start.1 content).leavesEnd)
    fun content rest _ => (continues_named f start.1 content).agrees rest

theorem agrees_readMembers (f : Flags) (left : LeftSide) (u : Union) (s : List Char) :
    Agrees (given (readMembers f left u s)) (given (readMembers f left u (s ++ closing))) := by
  rw [given_readMembers, given_readMembers]
  refine Agrees.skip .none_none ?_
  cases hs : f.skip s with
  | nil =>
    have hclosing : readMembersFrom f left u closing = given (readMembers f left u closing) := by
      rw [given_readMembers, skip_closing]
    rw [List.nil_append, hclosing]
    refine .beyond fun content rest h => ?_
    obtain ⟨lt, -⟩ := given_eq_some_iff.mp h
    exact suffix_tail_of_lt (suffix_of_readMembers h) lt
  | cons c rest =>
    have hle : (c :: rest).length ≤ s.length := hs ▸ f.length_skip_le s
    have hlt : rest.length < s.length := hle
    rw [List.cons_append]
    by_cases hclose : c = ']'
    · subst hclose
      exact .left
    by_cases hopen : c = '['
    · subst hopen
      rw [readMembersFrom, readMembersFrom, readAsciiClass_append]
      cases hclass : readAsciiClass f rest with
      | none =>
        refine Agrees.bind (k := fun nested r =>
          given (readMembers f left (u.add nested.set nested.depth) r))
          (agrees_readSet_of fun t ht v => agrees_readMembers f none v t)
          (fun _ _ _ _ => suffix_of_readMembers) fun nested r hr => ?_
        obtain ⟨hr, -⟩ := given_eq_some_iff.mp hr
        exact agrees_readMembers f left _ r
      | some x =>
        obtain ⟨set, r⟩ := x
        have hr := length_lt_of_readAsciiClass hclass
        cases set with
        | none => exact .none_none
        | some set => exact agrees_readMembers f left (u.add set 0) r
    · have happ := read?_append (c :: rest)
      rw [List.cons_append] at happ
      rw [readMembersFrom_eq hclose hopen, readMembersFrom_eq hclose hopen, readOperand,
        readOperand, happ]
      cases hoperator : SetOperator.read? (c :: rest) with
      | none =>
        refine (agrees_readMember f (c :: rest)).bind (k := fun set r =>
          given (readMembers f left (u.add set 0) r)) (fun _ _ _ _ => suffix_of_readMembers)
          fun set r hr => ?_
        have hr := length_lt_of_readMember hr
        exact agrees_readMembers f left _ r
      | some x =>
        obtain ⟨operator, r⟩ := x
        have hr := length_lt_of_readOperator hoperator
        exact agrees_readMembers f _ .empty r
termination_by s.length
decreasing_by all_goals omega

theorem agrees_readSet (f : Flags) (s : List Char) :
    Agrees (given (readSet f s)) (given (readSet f (s ++ closing))) :=
  agrees_readSet_of fun t _ u => agrees_readMembers f none u t

end RegistrySearch.Pattern
