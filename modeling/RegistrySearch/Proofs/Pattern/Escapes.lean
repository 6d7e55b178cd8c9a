import RegistrySearch.Proofs.Pattern.Closing

/-!
# Escapes in front of a closing parenthesis

Escapes are read alike with the closing parenthesis behind them. The one exception is a brace behind
a word boundary: at the end of a text the boundary is refused, as its name is missing; in front of
the parenthesis it is read, and the brace is refused after it, as the bounds are missing. Such a
text `Dangles`, and whoever refuses it reads on in agreement (`AgreesOrDangles.bind`).
-/

namespace RegistrySearch.Pattern

variable {β : Type}

/-! ### Braces and numbers -/

theorem continues_readCount (f : Flags) (count : Nat) : Continues (readCount f count) := by
  induction count with
  | zero => exact .some []
  | succ count ih => exact .of_cons rfl fun c => (ih.map (c :: ·)).skip f

/-- Reads what stands in braces, where no blanks and remarks stand in front. -/
private def readBracedFrom (f : Flags) : List Char → Option (List Char × List Char)
  | [] => none
  | '}' :: rest => some ([], rest)
  | c :: rest => (readBraced f rest).map fun x => (c :: x.1, x.2)

private theorem readBraced_eq (f : Flags) (s : List Char) :
    readBraced f s = readBracedFrom f (f.skip s) := by
  rw [readBraced]
  split
  · next h => rw [h]; rfl
  · next h => rw [h]; rfl
  · next c rest hclose h =>
    simp only [h]
    rw [readBracedFrom]
    exact hclose

theorem leavesEnd_readBraced (f : Flags) : LeavesEnd (readBraced f) := by
  intro s taken rest h
  fun_induction readBraced f s generalizing taken rest with
  | case1 => cases h
  | case2 s r hs =>
    cases h
    exact (List.suffix_cons '}' r).trans (hs ▸ skip_suffix f s)
  | case3 s c r _ hs _ ih =>
    obtain ⟨x, hx, he⟩ := Option.map_eq_some_iff.mp h
    cases he
    exact (ih _ _ hx).trans ((List.suffix_cons c r).trans (hs ▸ skip_suffix f s))

theorem agrees_readBraced (f : Flags) (s : List Char) :
    Agrees (readBraced f s) (readBraced f (s ++ closing)) := by
  rw [readBraced_eq, readBraced_eq]
  refine Agrees.skip .none_none ?_
  cases h : f.skip s with
  | nil =>
    refine .beyond fun x rest hx => ?_
    obtain ⟨y, hy, he⟩ := Option.map_eq_some_iff.mp hx
    cases he
    exact leavesEnd_readBraced f ['$'] _ _ hy
  | cons c rest =>
    have hlt : rest.length < s.length := by
      have hle := f.length_skip_le s
      rwa [h] at hle
    by_cases hclose : c = '}'
    · subst hclose
      exact .left
    · simpa [readBracedFrom, hclose] using (agrees_readBraced f rest).map (c :: ·)
termination_by s.length

theorem continues_readBraced (f : Flags) : Continues (readBraced f) :=
  ⟨leavesEnd_readBraced f, agrees_readBraced f⟩

/-- The character that digits in braces denote, and the blanks and remarks behind them. -/
private theorem continues_hexSkip (f : Flags) (digits : List Char) :
    Continues fun rest => (hexChar? digits).bind fun c => some (Atom.char c, f.skip rest) := by
  cases hexChar? digits with
  | none => exact .none
  | some c => exact (Continues.some (Atom.char c)).skip f

/-- The character that a number of digits denotes. -/
private theorem continues_hexByte (f : Flags) (count : Nat) (digits : List Char) :
    Continues fun rest => (hexChar? digits).bind fun c =>
      if !f.unicode && count = 2 && 0x7F < c.toNat then none else some (Atom.char c, rest) := by
  cases hexChar? digits with
  | none => exact .none
  | some c => exact .ite .none (.some _)

/-- Reads a code point, where no blanks and remarks stand in front. -/
private def readHexFrom (f : Flags) (count : Nat) : List Char → Option (Atom × List Char)
  | '{' :: rest => (readBraced f rest).bind fun x =>
      (hexChar? x.1).bind fun c => some (.char c, f.skip x.2)
  | t => (readCount f count t).bind fun x => (hexChar? x.1).bind fun c =>
      if !f.unicode && count = 2 && 0x7F < c.toNat then none else some (.char c, x.2)

theorem continues_readHex (f : Flags) (count : Nat) : Continues (readHex f count) := by
  have hfrom : Continues (readHexFrom f count) := by
    refine .of_heads ['{'] (fun c hc => ?_)
      ((continues_readCount f count).bind (continues_hexByte f count)) fun s hs => ?_
    · obtain rfl := List.mem_singleton.mp hc
      exact ⟨by decide, (continues_readBraced f).bind (continues_hexSkip f)⟩
    · cases s with
      | nil => rfl
      | cons c rest =>
        have hc : c ≠ '{' := by simpa using hs
        simp [readHexFrom, hc]
  exact hfrom.skip f

/-- The set of a property in braces. -/
private theorem continues_braced (f : Flags) (isNegated : Bool) (content : List Char) :
    Continues fun rest => (bracedProperty? content).bind fun x =>
      (f.named? (isNegated != x.1) x.2).bind fun set => some (Atom.set set, rest) := by
  cases bracedProperty? content with
  | none => exact .none
  | some x =>
    obtain ⟨isUnequal, set⟩ := x
    cases hset : f.named? (isNegated != isUnequal) set with
    | none => simpa [hset] using Continues.none
    | some set' => simpa [hset] using Continues.some (Atom.set set')

/-- The set of a property of one letter, and the blanks and remarks behind it. -/
private theorem continues_letter (f : Flags) (isNegated : Bool) (c : Char) :
    Continues fun rest => (propertySet? [c]).bind fun set =>
      (f.named? isNegated set).bind fun set => some (Atom.set set, f.skip rest) := by
  cases propertySet? [c] with
  | none => exact .none
  | some set =>
    cases hset : f.named? isNegated set with
    | none => simpa [hset] using Continues.none
    | some set' => simpa [hset] using (Continues.some (Atom.set set')).skip f

/-- Reads a property, where no blanks and remarks stand in front. -/
private def readPropertyFrom (f : Flags) (isNegated : Bool) :
    List Char → Option (Atom × List Char)
  | [] => none
  | '{' :: rest => (readBraced f rest).bind fun x => (bracedProperty? x.1).bind fun y =>
      (f.named? (isNegated != y.1) y.2).bind fun set => some (.set set, x.2)
  | c :: rest =>
    if c = '\\' then none
    else (propertySet? [c]).bind fun set =>
      (f.named? isNegated set).bind fun set => some (.set set, f.skip rest)

theorem continues_readProperty (f : Flags) (isNegated : Bool) :
    Continues (readProperty f isNegated) := by
  have hfrom : Continues (readPropertyFrom f isNegated) := by
    refine .of_cons rfl fun c => ?_
    by_cases hc : c = '{'
    · subst hc
      exact (continues_readBraced f).bind (continues_braced f isNegated)
    · have hletter := Continues.ite (c := c = '\\') .none (continues_letter f isNegated c)
      simpa [readPropertyFrom, hc] using hletter
  exact .ite .none (hfrom.skip f)

/-! ### Word boundaries -/

/-- What is read ends in front of a brace that opens no bounds. -/
def Dangles (f : Flags) (y : Option (Atom × List Char)) : Prop :=
  ∃ a rest, y = some (.look a, '{' :: rest) ∧ readBounds f rest = none

/-- Where a reader of escapes does not agree with itself, nothing is given on the text alone, and a
brace dangles in front of the parenthesis. -/
def AgreesOrDangles (f : Flags) (x y : Option (Atom × List Char)) : Prop :=
  Agrees x y ∨ x = none ∧ Dangles f y

/-- A reader that refuses a dangling brace agrees with itself. -/
theorem AgreesOrDangles.bind {f : Flags} {x y : Option (Atom × List Char)}
    {k : Atom → List Char → Option (β × List Char)} (h : AgreesOrDangles f x y)
    (hend : ∀ atom, LeavesEnd (k atom))
    (hk : ∀ atom rest, x = some (atom, rest) → Agrees (k atom rest) (k atom (rest ++ closing)))
    (hdangle : ∀ a rest, readBounds f rest = none → k (.look a) ('{' :: rest) = none) :
    Agrees (x.bind fun p => k p.1 p.2) (y.bind fun p => k p.1 p.2) := by
  rcases h with h | ⟨rfl, a, rest, rfl, hbounds⟩
  · exact h.bind hend hk
  · rw [Option.bind_some, hdangle a rest hbounds]
    exact .none_none

theorem readBounds_eq_none_of_skip {f : Flags} {s : List Char} (h : f.skip s = closing) :
    readBounds f s = none := by
  have hdigits : readDigits f closing = ([], closing) := by
    rw [closing, readDigits]
    rfl
  have hrounds : readRounds f closing = none := by
    have hblank : closing.dropWhile Unicode.isBlank = closing := by decide
    rw [readRounds, hblank, hdigits]
    rfl
  rw [readBounds, h, hrounds]
  rfl

/-- The named word boundary in braces. -/
private theorem continues_namedBoundary (ascii : Bool) (name : List Char) :
    Continues fun rest => (namedBoundary? ascii name).bind fun a => some (Atom.look a, rest) := by
  cases namedBoundary? ascii name with
  | none => exact .none
  | some a => exact .some _

theorem leavesEnd_readBoundary (f : Flags) : LeavesEnd (readBoundary f) := by
  intro s atom rest h
  unfold readBoundary at h
  split at h
  · next t =>
    split at h
    · cases h
    · split at h
      · have hname := (continues_readBraced f).bind (continues_namedBoundary !f.unicode)
        exact (hname.leavesEnd t atom rest h).trans (List.suffix_cons '{' t)
      · cases h
        exact List.suffix_refl _
  · cases h
    exact List.suffix_refl _

theorem agrees_readBoundary (f : Flags) (s : List Char) :
    AgreesOrDangles f (readBoundary f s) (readBoundary f (s ++ closing)) := by
  cases s with
  | nil => exact .inl .left
  | cons c rest =>
    by_cases hc : c = '{'
    · subst hc
      have hname := ((continues_readBraced f).bind (continues_namedBoundary !f.unicode)).agrees rest
      rw [List.cons_append, readBoundary, readBoundary]
      rcases skip_append f rest with happ | ⟨hnil, happ⟩
      · rw [happ]
        cases hskip : f.skip rest with
        | nil =>
          refine .inr ⟨rfl, _, _, rfl, readBounds_eq_none_of_skip ?_⟩
          rw [happ, hskip]
          rfl
        | cons d t =>
          refine .inl ?_
          by_cases hd : isBoundaryChar d
          · simpa [hd] using hname
          · simp only [List.cons_append, hd, Bool.false_eq_true, if_false]
            exact .left
      · rw [happ, hnil]
        exact .inl .none_none
    · have heq : ∀ t, readBoundary f (c :: t) = some (.look (.boundary !f.unicode), c :: t) := by
        intro t
        simp [readBoundary, hc]
      rw [List.cons_append, heq, heq]
      exact .inl .left

/-! ### Escapes -/

/-- The escapes of one character. -/
theorem readEscape_eq {f : Flags} {c : Char} {rest : List Char} (hx : c ≠ 'x')
    (hu : c ≠ 'u') (hU : c ≠ 'U') (hp : c ≠ 'p') (hP : c ≠ 'P') (hb : c ≠ 'b') :
    readEscape f (c :: rest) = (simpleEscape? f c).map fun atom => (atom, rest) := by
  unfold readEscape
  split
  · next h => cases h
  · next h => exact absurd (List.cons.inj h).1 hx
  · next h => exact absurd (List.cons.inj h).1 hu
  · next h => exact absurd (List.cons.inj h).1 hU
  · next h => exact absurd (List.cons.inj h).1 hp
  · next h => exact absurd (List.cons.inj h).1 hP
  · next h => exact absurd (List.cons.inj h).1 hb
  · next h => cases h; rfl

/-- All escapes but word boundaries. -/
theorem continues_readEscape {f : Flags} {c : Char} (hb : c ≠ 'b') :
    Continues fun rest => readEscape f (c :: rest) := by
  by_cases hx : c = 'x'
  · subst hx
    exact continues_readHex f 2
  by_cases hu : c = 'u'
  · subst hu
    exact continues_readHex f 4
  by_cases hU : c = 'U'
  · subst hU
    exact continues_readHex f 8
  by_cases hp : c = 'p'
  · subst hp
    exact continues_readProperty f false
  by_cases hP : c = 'P'
  · subst hP
    exact continues_readProperty f true
  simpa only [readEscape_eq hx hu hU hp hP hb] using Continues.of_option (simpleEscape? f c)

theorem leavesEnd_readEscape (f : Flags) : LeavesEnd (readEscape f) := by
  intro s atom rest h
  cases s with
  | nil => cases h
  | cons c t =>
    refine List.IsSuffix.trans ?_ (List.suffix_cons c t)
    by_cases hc : c = 'b'
    · subst hc
      exact leavesEnd_readBoundary f t atom rest h
    · exact (continues_readEscape hc).leavesEnd t atom rest h

theorem agrees_readEscape (f : Flags) (s : List Char) :
    AgreesOrDangles f (readEscape f s) (readEscape f (s ++ closing)) := by
  cases s with
  | nil =>
    have hnil : readEscape f [] = none := rfl
    rw [List.nil_append, hnil]
    exact Or.inl (.beyond fun _ _ h =>
      suffix_tail_of_lt (leavesEnd_readEscape f _ _ _ h) (length_lt_of_readEscape h))
  | cons c rest =>
    by_cases hc : c = 'b'
    · subst hc
      exact agrees_readBoundary f rest
    · exact Or.inl ((continues_readEscape hc).agrees rest)

end RegistrySearch.Pattern
