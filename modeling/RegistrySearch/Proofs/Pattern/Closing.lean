import RegistrySearch.Proofs.Pattern.Reading

/-!
# What is read in front of a closing parenthesis

A pattern is read twice: on its own, and with `closing` behind it, the parenthesis of the group
around it and the tie. The two readings take the same steps as long as the pattern lasts. In the end
either the parenthesis is left over in the second reading, or a remark that the pattern leaves open
takes it; and where the first reading finds the pattern unfinished, the second one goes on into the
parenthesis, which then closes no group any more.

`Agrees` says how the results of the two compare, and a reader for which they do on every text
`Continues`. Readers that are put together from such readers continue, too (`Agrees.bind`,
`Continues.bind`), so that each of them is treated once, in the order in which they call each other.
-/

namespace RegistrySearch.Pattern

variable {α β : Type}

/-- What stands behind a pattern: the parenthesis that closes the group around it, and a tie. -/
def closing : List Char := [')', '$']

/-! ### Agreement -/

/-- What a reader gives on a text and on the text with `closing` behind it: the same, and `closing`
is left for what follows, or a remark takes it. Where nothing is given on the text alone, the
parenthesis is taken. -/
inductive Agrees : Option (α × List Char) → Option (α × List Char) → Prop where
  | left {a : α} {rest : List Char} : Agrees (some (a, rest)) (some (a, rest ++ closing))
  | taken {a : α} : Agrees (some (a, [])) (some (a, []))
  | beyond {y : Option (α × List Char)}
      (h : ∀ a rest, y = some (a, rest) → rest <:+ closing.tail) : Agrees none y

/-- A reader takes something off the front: what it leaves is the end of its text. -/
def LeavesEnd (k : List Char → Option (α × List Char)) : Prop :=
  ∀ s a rest, k s = some (a, rest) → rest <:+ s

/-- What is left of `closing` once its parenthesis is taken. -/
theorem suffix_tail_of_lt {rest : List Char} (h : rest <:+ closing)
    (hlt : rest.length < closing.length) : rest <:+ closing.tail := by
  rcases List.suffix_cons_iff.mp h with rfl | h
  · exact absurd hlt (Nat.lt_irrefl _)
  · exact h

namespace Agrees

variable {x y : Option (α × List Char)}

theorem none_none : Agrees (none : Option (α × List Char)) none :=
  .beyond fun _ _ h => by cases h

/-- What is given behind a remark that took everything is the same. -/
theorem nil_nil {k : List Char → Option (α × List Char)} (h : LeavesEnd k) :
    Agrees (k []) (k []) := by
  cases hk : k [] with
  | none => exact none_none
  | some x =>
    obtain ⟨a, rest⟩ := x
    obtain rfl := List.suffix_nil.mp (h [] a rest hk)
    exact .taken

/-- **Reading on.** A reader that takes over where two readings agree, and agrees with itself there,
keeps the agreement. -/
theorem bind {k : α → List Char → Option (β × List Char)} (h : Agrees x y)
    (hend : ∀ a, LeavesEnd (k a))
    (hk : ∀ a rest, x = some (a, rest) → Agrees (k a rest) (k a (rest ++ closing))) :
    Agrees (x.bind fun p => k p.1 p.2) (y.bind fun p => k p.1 p.2) := by
  cases h with
  | left => exact hk _ _ rfl
  | taken => exact nil_nil (hend _)
  | beyond h =>
    refine .beyond fun b rest hb => ?_
    obtain ⟨p, hp, hb⟩ := Option.bind_eq_some_iff.mp hb
    exact (hend p.1 p.2 b rest hb).trans (h p.1 p.2 hp)

theorem map (g : α → β) (h : Agrees x y) :
    Agrees (x.map fun p => (g p.1, p.2)) (y.map fun p => (g p.1, p.2)) := by
  cases h with
  | left => exact .left
  | taken => exact .taken
  | beyond h =>
    refine .beyond fun b rest hb => ?_
    obtain ⟨p, hp, hb⟩ := Option.map_eq_some_iff.mp hb
    cases hb
    exact h p.1 p.2 hp

end Agrees

/-! ### Readers that agree -/

/-- A reader that gives the same whether or not `closing` stands behind its text. -/
structure Continues (k : List Char → Option (α × List Char)) : Prop where
  leavesEnd : LeavesEnd k
  agrees : ∀ s, Agrees (k s) (k (s ++ closing))

theorem leavesEnd_some (a : α) : LeavesEnd fun s => some (a, s) := by
  intro s a rest h
  cases h
  exact List.suffix_refl _

theorem leavesEnd_none : LeavesEnd fun _ => (none : Option (α × List Char)) := by
  intro s a rest h
  cases h

theorem LeavesEnd.bind {k : List Char → Option (α × List Char)}
    {g : α → List Char → Option (β × List Char)} (hk : LeavesEnd k) (hg : ∀ a, LeavesEnd (g a)) :
    LeavesEnd fun s => (k s).bind fun p => g p.1 p.2 := by
  intro s b rest hb
  obtain ⟨p, hp, hb⟩ := Option.bind_eq_some_iff.mp hb
  exact (hg p.1 p.2 b rest hb).trans (hk s p.1 p.2 hp)

theorem LeavesEnd.map {k : List Char → Option (α × List Char)} (hk : LeavesEnd k) (g : α → β) :
    LeavesEnd fun s => (k s).map fun p => (g p.1, p.2) := by
  intro s b rest h
  obtain ⟨p, hp, he⟩ := Option.map_eq_some_iff.mp h
  cases he
  exact hk s p.1 p.2 hp

theorem LeavesEnd.comp {k : List Char → Option (α × List Char)} {drop : List Char → List Char}
    (hk : LeavesEnd k) (hdrop : ∀ s, drop s <:+ s) : LeavesEnd fun s => k (drop s) :=
  fun s a rest h => (hk (drop s) a rest h).trans (hdrop s)

namespace Continues

variable {k : List Char → Option (α × List Char)}

theorem some (a : α) : Continues fun s => Option.some (a, s) := ⟨leavesEnd_some a, fun _ => .left⟩

theorem none : Continues fun _ => (Option.none : Option (α × List Char)) :=
  ⟨leavesEnd_none, fun _ => .none_none⟩

theorem bind {g : α → List Char → Option (β × List Char)} (hk : Continues k)
    (hg : ∀ a, Continues (g a)) : Continues fun s => (k s).bind fun p => g p.1 p.2 where
  leavesEnd := hk.leavesEnd.bind fun a => (hg a).leavesEnd
  agrees s := (hk.agrees s).bind (fun a => (hg a).leavesEnd) fun a rest _ => (hg a).agrees rest

theorem map (g : α → β) (hk : Continues k) :
    Continues fun s => (k s).map fun p => (g p.1, p.2) :=
  ⟨hk.leavesEnd.map g, fun s => (hk.agrees s).map g⟩

/-- A condition on what is given. -/
theorem of_option (x : Option α) : Continues fun s => x.map fun a => (a, s) := by
  cases x with
  | none => exact none
  | some a => exact Continues.some a

theorem ite {c : Prop} [Decidable c] {k' : List Char → Option (α × List Char)} (hk : Continues k)
    (hk' : Continues k') : Continues fun s => if c then k s else k' s := by
  by_cases hc : c
  · simpa only [if_pos hc] using hk
  · simpa only [if_neg hc] using hk'

/-- What comes first in a text decides what is read. At the end of the text there is nothing to
read, whatever may be read of the parenthesis. -/
theorem of_cons (hnil : k [] = Option.none) (hcons : ∀ c, Continues fun rest => k (c :: rest)) :
    Continues k where
  leavesEnd := by
    intro s a rest h
    cases s with
    | nil =>
      rw [hnil] at h
      cases h
    | cons c s => exact ((hcons c).leavesEnd s a rest h).trans (List.suffix_cons c s)
  agrees s := by
    cases s with
    | nil =>
      rw [hnil]
      exact .beyond fun a rest h => (hcons ')').leavesEnd ['$'] a rest h
    | cons c s => exact (hcons c).agrees s

/-- Some characters in the first place decide what is read; any other text is read in one way. -/
theorem of_heads (heads : List Char) {other : List Char → Option (α × List Char)}
    (hheads : ∀ c ∈ heads, c ≠ ')' ∧ Continues fun rest => k (c :: rest)) (hother : Continues other)
    (h : ∀ s, (∀ c ∈ heads, s.head? ≠ Option.some c) → k s = other s) : Continues k where
  leavesEnd := by
    intro s a rest hs
    by_cases hhead : ∀ c ∈ heads, s.head? ≠ Option.some c
    · rw [h s hhead] at hs
      exact hother.leavesEnd s a rest hs
    · obtain ⟨c, hc, hsc⟩ : ∃ c ∈ heads, s.head? = Option.some c := by simpa using hhead
      obtain ⟨t, rfl⟩ := List.head?_eq_some_iff.mp hsc
      exact ((hheads c hc).2.leavesEnd t a rest hs).trans (List.suffix_cons c t)
  agrees s := by
    by_cases hhead : ∀ c ∈ heads, s.head? ≠ Option.some c
    · have happ : ∀ c ∈ heads, (s ++ closing).head? ≠ Option.some c := by
        intro c hc hsc
        cases s with
        | nil => exact (hheads c hc).1 (Option.some.inj hsc).symm
        | cons d t => exact hhead c hc hsc
      rw [h s hhead, h _ happ]
      exact hother.agrees s
    · obtain ⟨c, hc, hsc⟩ : ∃ c ∈ heads, s.head? = Option.some c := by simpa using hhead
      obtain ⟨t, rfl⟩ := List.head?_eq_some_iff.mp hsc
      exact (hheads c hc).2.agrees t

/-- A reader that takes at least one character, behind a character. -/
theorem comp_cons (hk : Continues k)
    (hlt : ∀ {s a rest}, k s = Option.some (a, rest) → rest.length < s.length) (c : Char) :
    Continues fun rest => k (c :: rest) where
  leavesEnd s a rest h := by
    rcases List.suffix_cons_iff.mp (hk.leavesEnd (c :: s) a rest h) with rfl | hrest
    · exact absurd (hlt h) (Nat.lt_irrefl _)
    · exact hrest
  agrees s := hk.agrees (c :: s)

/-- Dropping what does not reach into `closing` keeps the agreement. -/
theorem comp_append {drop : List Char → List Char} (hk : Continues k)
    (hend : ∀ s, drop s <:+ s) (hdrop : ∀ s, drop (s ++ closing) = drop s ++ closing) :
    Continues fun s => k (drop s) where
  leavesEnd := hk.leavesEnd.comp hend
  agrees s := by
    rw [hdrop]
    exact hk.agrees _

end Continues

/-! ### Blanks and remarks -/

theorem skipFrom_suffix (inRemark : Bool) (s : List Char) : Flags.skipFrom inRemark s <:+ s := by
  induction s generalizing inRemark with
  | nil => exact List.suffix_refl _
  | cons c rest ih =>
    have hrest := fun b => (ih b).trans (List.suffix_cons c rest)
    simp only [Flags.skipFrom]
    split
    · exact hrest _
    · split
      · exact hrest _
      · split
        · exact hrest _
        · exact List.suffix_refl _

theorem skip_suffix (f : Flags) (s : List Char) : f.skip s <:+ s := by
  unfold Flags.skip
  split
  · exact skipFrom_suffix false s
  · exact List.suffix_refl _

theorem dropLazy_suffix (s : List Char) : dropLazy s <:+ s := by
  unfold dropLazy
  split
  · exact List.suffix_cons _ _
  · exact List.suffix_refl _

theorem skipFrom_append (inRemark : Bool) (s : List Char) :
    Flags.skipFrom inRemark (s ++ closing) = Flags.skipFrom inRemark s ++ closing ∨
      Flags.skipFrom inRemark s = [] ∧ Flags.skipFrom inRemark (s ++ closing) = [] := by
  induction s generalizing inRemark with
  | nil =>
    cases inRemark with
    | false => exact .inl (by decide)
    | true => exact .inr ⟨rfl, by decide⟩
  | cons c rest ih =>
    simp only [List.cons_append, Flags.skipFrom]
    split
    · exact ih _
    · split
      · exact ih _
      · split
        · exact ih _
        · exact .inl rfl

/-- A remark that a text leaves open takes the parenthesis, too. -/
theorem skip_append (f : Flags) (s : List Char) :
    f.skip (s ++ closing) = f.skip s ++ closing ∨
      f.skip s = [] ∧ f.skip (s ++ closing) = [] := by
  unfold Flags.skip
  split
  · exact skipFrom_append false s
  · exact .inl rfl

theorem skip_closing (f : Flags) : f.skip closing = closing := by
  unfold Flags.skip
  split
  · decide
  · rfl

theorem Agrees.skip {k : List Char → Option (α × List Char)} {f : Flags} {s : List Char}
    (hnil : Agrees (k []) (k [])) (h : Agrees (k (f.skip s)) (k (f.skip s ++ closing))) :
    Agrees (k (f.skip s)) (k (f.skip (s ++ closing))) := by
  rcases skip_append f s with happ | ⟨hs, happ⟩
  · rwa [happ]
  · rwa [happ, hs]

theorem Continues.skip {k : List Char → Option (α × List Char)} (f : Flags) (hk : Continues k) :
    Continues fun s => k (f.skip s) where
  leavesEnd := hk.leavesEnd.comp (skip_suffix f)
  agrees s := .skip (.nil_nil hk.leavesEnd) (hk.agrees (f.skip s))

theorem Continues.dropWhile {k : List Char → Option (α × List Char)} (hk : Continues k) :
    Continues fun s => k (s.dropWhile Unicode.isBlank) := by
  refine hk.comp_append (fun _ => List.dropWhile_suffix _) fun s => ?_
  rw [List.dropWhile_append]
  split
  · next h =>
    rw [List.isEmpty_iff.mp h]
    decide
  · rfl

theorem Continues.dropLazy {k : List Char → Option (α × List Char)} (hk : Continues k) :
    Continues fun s => k (dropLazy s) := by
  refine hk.comp_append dropLazy_suffix fun s => ?_
  cases s with
  | nil => rfl
  | cons c rest =>
    by_cases hc : c = '?'
    · subst hc
      rfl
    · simp [Pattern.dropLazy, hc]

/-! ### Repetitions -/

private theorem leavesEnd_readDigits (f : Flags) : LeavesEnd fun s => some (readDigits f s) := by
  have hend : ∀ s, (readDigits f s).2 <:+ s := by
    intro s
    fun_induction readDigits f s with
    | case1 => exact List.suffix_refl _
    | case2 => exact List.suffix_refl _
    | case3 c rest d hc ds rest' hr ih =>
      rw [hr] at ih
      exact ih.trans ((skip_suffix f rest).trans (List.suffix_cons c rest))
  intro s ds rest h
  rw [← show (readDigits f s).2 = rest by rw [Option.some.inj h]]
  exact hend s

theorem continues_readDigits (f : Flags) : Continues fun s => some (readDigits f s) where
  leavesEnd := leavesEnd_readDigits f
  agrees s := by
    fun_induction readDigits f s with
    | case1 =>
      have hclosing : readDigits f closing = ([], closing) := by
        rw [closing, readDigits]
        rfl
      rw [List.nil_append, hclosing]
      exact .left
    | case2 c rest hc =>
      rw [List.cons_append, readDigits]
      simp only [hc]
      exact .left
    | case3 c rest d hc ds rest' hr ih =>
      rw [List.cons_append, readDigits]
      simp only [hc]
      have hdigits := (Agrees.skip (.nil_nil (leavesEnd_readDigits f)) ih).map (d :: ·)
      rwa [hr] at hdigits

theorem continues_readRounds (f : Flags) : Continues (readRounds f) := by
  have hbehind : ∀ ds, Continues fun rest => if ds.isEmpty || 2 ^ 32 ≤ Numeral.ofDigits ds then none
      else some (Numeral.ofDigits ds, f.skip (rest.dropWhile Unicode.isBlank)) := fun ds =>
    .ite .none (((Continues.some _).skip f).dropWhile)
  exact ((continues_readDigits f).bind hbehind).dropWhile

theorem continues_dropLazy_skip (f : Flags) (a : α) :
    Continues fun s => some (a, dropLazy (f.skip s)) :=
  ((Continues.some a).dropLazy).skip f

theorem continues_readBrace (f : Flags) (bounds : Nat × Option Nat) :
    Continues (readBrace f bounds) := by
  refine .of_cons rfl fun c => ?_
  by_cases hclose : c = '}'
  · subst hclose
    exact continues_dropLazy_skip f bounds
  · simpa [readBrace, hclose] using Continues.none

theorem continues_readMost (f : Flags) (least : Nat) : Continues (readMost f least) := by
  have hmost : ∀ most, Continues fun rest =>
      if least ≤ most then readBrace f (least, some most) rest else none := fun most =>
    .ite (continues_readBrace f _) .none
  refine .of_heads ['}'] (fun c hc => ?_) ((continues_readRounds f).bind hmost) fun s hs => ?_
  · obtain rfl := List.mem_singleton.mp hc
    exact ⟨by decide, continues_dropLazy_skip f _⟩
  · cases s with
    | nil => rfl
    | cons c rest =>
      have hclose : c ≠ '}' := by simpa using hs
      simp [readMost, hclose]

theorem continues_readBoundsBehind (f : Flags) (least : Nat) :
    Continues (readBoundsBehind f least) := by
  refine .of_cons rfl fun c => ?_
  by_cases hclose : c = '}'
  · subst hclose
    exact continues_dropLazy_skip f _
  · by_cases hcomma : c = ','
    · subst hcomma
      exact (continues_readMost f least).skip f
    · simpa [readBoundsBehind, hclose, hcomma] using Continues.none

theorem continues_readBounds (f : Flags) :
    Continues fun s => (readBounds f s).map fun x => ((x.1, x.2.1), x.2.2) := by
  simp only [map_readBounds]
  exact ((continues_readRounds f).bind (continues_readBoundsBehind f)).skip f

theorem continues_readRounds? (f : Flags) : Continues (readRounds? f) := by
  have hbounds : ∀ x : Option (Nat × Option Nat), Continues fun rest =>
      some (x, dropLazy rest) := fun x => (Continues.some x).dropLazy
  refine .of_heads ['*', '+', '?', '{'] (fun c hc => ?_) (Continues.some none) fun s hs => ?_
  · simp only [List.mem_cons, List.not_mem_nil, or_false] at hc
    rcases hc with rfl | rfl | rfl | rfl
    · exact ⟨by decide, hbounds (some (0, none))⟩
    · exact ⟨by decide, hbounds (some (1, none))⟩
    · exact ⟨by decide, hbounds (some (0, some 1))⟩
    · refine ⟨by decide, ?_⟩
      have h := (continues_readBounds f).map some
      simpa [readRounds?, readRepetition, Function.comp_def] using h
  · cases s with
    | nil => rfl
    | cons c rest =>
      have hc : c ≠ '*' ∧ c ≠ '+' ∧ c ≠ '?' ∧ c ≠ '{' := by simpa using hs
      simp [readRounds?, readRepetition, hc]

theorem suffix_of_readRepetitions {f : Flags} {p q : Piece} {s rest : List Char}
    (h : given (readRepetitions f p s) = some (q, rest)) : rest <:+ s := by
  rw [given_readRepetitions] at h
  obtain ⟨x, hx, h⟩ := Option.bind_eq_some_iff.mp h
  obtain ⟨bounds?, r⟩ := x
  have hr := ((continues_readRounds? f).leavesEnd _ _ _ hx).trans (skip_suffix f s)
  cases bounds? with
  | none =>
    cases h
    exact hr
  | some bounds =>
    have hlt := Nat.lt_of_lt_of_le (length_lt_of_readRounds? hx) (f.length_skip_le s)
    exact (suffix_of_readRepetitions h).trans hr
termination_by s.length

theorem leavesEnd_readRepetitions (f : Flags) (p : Piece) :
    LeavesEnd fun s => given (readRepetitions f p s) := fun _ _ _ => suffix_of_readRepetitions

theorem agrees_readRepetitions (f : Flags) (p : Piece) (s : List Char) :
    Agrees (given (readRepetitions f p s)) (given (readRepetitions f p (s ++ closing))) := by
  rw [given_readRepetitions, given_readRepetitions]
  refine Agrees.skip (k := fun t => (readRounds? f t).bind fun x => readFurther f p x.1 x.2)
    .taken ?_
  refine ((continues_readRounds? f).agrees (f.skip s)).bind (fun bounds? => ?_)
    fun bounds? rest h => ?_
  · cases bounds? with
    | none => exact leavesEnd_some p
    | some bounds => exact leavesEnd_readRepetitions f _
  · cases bounds? with
    | none => exact .left
    | some bounds =>
      have hlt := Nat.lt_of_lt_of_le (length_lt_of_readRounds? h) (f.length_skip_le s)
      exact agrees_readRepetitions f _ rest
termination_by s.length

/-! ### Groups -/

theorem continues_splitWhere (stops : Char → Bool) :
    Continues fun s => (splitWhere stops s).map fun x => ((x.1, x.2.1), x.2.2) := by
  have hend : LeavesEnd fun s => (splitWhere stops s).map fun x => ((x.1, x.2.1), x.2.2) := by
    intro s x rest h
    induction s generalizing x with
    | nil => cases h
    | cons c s ih =>
      dsimp only [splitWhere] at h
      split at h
      · cases h
        exact List.suffix_cons c _
      · rw [Option.map_map] at h
        obtain ⟨y, hy, he⟩ := Option.map_eq_some_iff.mp h
        cases he
        exact (ih _ (Option.map_eq_some_iff.mpr ⟨y, hy, rfl⟩)).trans (List.suffix_cons c s)
  refine ⟨hend, fun s => ?_⟩
  induction s with
  | nil =>
    refine .beyond fun x rest h => suffix_tail_of_lt (hend _ x rest h) ?_
    obtain ⟨y, hy, he⟩ := Option.map_eq_some_iff.mp h
    cases he
    exact length_lt_of_splitWhere hy
  | cons c s ih =>
    rw [List.cons_append, splitWhere, splitWhere]
    split
    · exact .left
    · have hmap := ih.map fun x => (c :: x.1, x.2)
      simpa only [Option.map_map, Function.comp_def] using hmap

theorem continues_readGroupName : Continues readGroupName := by
  have hname : ∀ x : List Char × Char, Continues fun rest =>
      if isGroupName x.1 then some (Opening.capturing (some (String.ofList x.1)), rest) else none :=
    fun x => .ite (.some _) .none
  have h := (continues_splitWhere (· = '>')).bind hname
  have heq : readGroupName = fun s =>
      ((splitWhere (· = '>') s).map fun x => ((x.1, x.2.1), x.2.2)).bind fun p =>
        if isGroupName p.1.1 then some (.capturing (some (String.ofList p.1.1)), p.2)
        else none := by
    funext s
    rw [readGroupName]
    cases splitWhere (· = '>') s <;> rfl
  rwa [heq]

theorem continues_readSwitches (f : Flags) : Continues (readSwitches f) := by
  have hflags : ∀ x : List Char × Char, Continues fun rest =>
      if x.2 = ':' then (f.read? x.1).map fun g => (Opening.plain g, rest)
      else if x.1.isEmpty then none
      else (f.read? x.1).map fun g => (.switch g, rest) := by
    intro x
    have hread : ∀ opening : Flags → Opening, Continues fun rest =>
        (f.read? x.1).map fun g => (opening g, rest) := by
      intro opening
      simpa only [Option.map_map, Function.comp_def] using
        Continues.of_option ((f.read? x.1).map opening)
    exact .ite (hread _) (.ite .none (hread _))
  have h := (continues_splitWhere fun c => c = ':' || c = ')').bind hflags
  have heq : readSwitches f = fun s =>
      ((splitWhere (fun c => c = ':' || c = ')') s).map
        fun x => ((x.1, x.2.1), x.2.2)).bind fun p =>
        if p.1.2 = ':' then (f.read? p.1.1).map fun g => (.plain g, p.2)
        else if p.1.1.isEmpty then none
        else (f.read? p.1.1).map fun g => (.switch g, p.2) := by
    funext s
    rw [readSwitches]
    cases splitWhere (fun c => c = ':' || c = ')') s <;> rfl
  rwa [heq]

/-- What opens a group, behind a question mark. -/
private def readMark (f : Flags) : List Char → Option (Opening × List Char)
  | 'P' :: '<' :: rest => readGroupName rest
  | '<' :: rest => readGroupName rest
  | rest => readSwitches f rest

private theorem continues_readMark (f : Flags) : Continues (readMark f) := by
  refine .of_heads ['P', '<'] (fun c hc => ?_) (continues_readSwitches f) fun s hs => ?_
  · simp only [List.mem_cons, List.not_mem_nil, or_false] at hc
    rcases hc with rfl | rfl
    · have hswitches := (continues_readSwitches f).comp_cons length_lt_of_readSwitches 'P'
      refine ⟨by decide, .of_heads ['<'] (fun c hc => ?_) hswitches fun s hs => ?_⟩
      · obtain rfl := List.mem_singleton.mp hc
        exact ⟨by decide, continues_readGroupName⟩
      · cases s with
        | nil => rfl
        | cons c rest =>
          have hc : c ≠ '<' := by simpa using hs
          simp [readMark, hc]
    · exact ⟨by decide, continues_readGroupName⟩
  · cases s with
    | nil => rfl
    | cons c rest =>
      have hc : c ≠ 'P' ∧ c ≠ '<' := by simpa using hs
      simp [readMark, hc]

/-- What opens a group, where no blanks and remarks stand in front. -/
private def readOpeningFrom (f : Flags) : List Char → Option (Opening × List Char)
  | '?' :: rest => readMark f rest
  | rest => some (.capturing none, rest)

private theorem readOpening_eq (f : Flags) (s : List Char) :
    readOpening f s = readOpeningFrom f (f.skip s) := by
  rw [readOpening]
  split
  · next h => rw [h]; rfl
  · next h => rw [h]; rfl
  · next hname hangle h =>
    rw [h, readOpeningFrom, readMark]
    · exact fun rest hrest => hname rest (by rw [hrest])
    · exact fun rest hrest => hangle rest (by rw [hrest])
  · next hmark =>
    rw [readOpeningFrom]
    exact hmark

theorem continues_readOpening (f : Flags) : Continues (readOpening f) := by
  have hopening : Continues (readOpeningFrom f) := by
    refine .of_heads ['?'] (fun c hc => ?_) (Continues.some (.capturing none)) fun s hs => ?_
    · obtain rfl := List.mem_singleton.mp hc
      exact ⟨by decide, continues_readMark f⟩
    · cases s with
      | nil => rfl
      | cons c rest =>
        have hc : c ≠ '?' := by simpa using hs
        simp [readOpeningFrom, hc]
  rw [funext (readOpening_eq f)]
  exact hopening.skip f

end RegistrySearch.Pattern
