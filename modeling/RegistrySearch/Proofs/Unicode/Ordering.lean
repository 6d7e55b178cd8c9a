import RegistrySearch.Proofs.Unicode.Decomposition

/-!
# The order of combining marks

Ordering a text moves marks behind marks of lower class, and nothing across a character without a
class. A text is left as it is exactly if neighbouring marks are in order (`IsOrdered`), so an
ordered text stays so when marks are taken out of it, and a decomposed text is decomposed.

Where a text is cut in two, ordering the parts orders the whole unless a mark behind the cut has a
lower class than one in front of it (`InOrderAcross`); then the order of the whole does not even
begin with that of the first part (`orderMarks_append_or`).
-/

namespace RegistrySearch.Unicode

/-- Two neighbours are in order: the second one is no mark of a lower class. -/
def InOrder (c d : Char) : Prop := combiningClass d = 0 ∨ combiningClass c ≤ combiningClass d

/-- All neighbours are in order. -/
def IsOrdered (s : List Char) : Prop := s.IsChain InOrder

variable {c d : Char} {s t : List Char}

/-- In front of what it is in order with, a character stays. -/
theorem insertMark_eq_cons (h : ∀ d ∈ s.head?, InOrder c d) : insertMark c s = c :: s := by
  cases s with
  | nil => rfl
  | cons d s =>
    have hcd := h d rfl
    rw [insertMark, if_neg]
    rw [InOrder] at hcd
    omega

theorem insertMark_perm (c : Char) (s : List Char) : (insertMark c s).Perm (c :: s) := by
  induction s with
  | nil => exact .refl _
  | cons d s ih =>
    rw [insertMark]
    split
    · exact (ih.cons d).trans (.swap c d s)
    · exact .refl _

theorem orderMarks_perm (s : List Char) : (orderMarks s).Perm s := by
  induction s with
  | nil => exact .refl _
  | cons c s ih => exact (insertMark_perm c _).trans (ih.cons c)

/-- A text with a character put in begins as before or with that character. -/
private theorem head?_insertMark (h : d ∈ (insertMark c s).head?) : d = c ∨ d ∈ s.head? := by
  cases s with
  | nil => exact .inl (Option.some.inj h).symm
  | cons e s =>
    rw [insertMark] at h
    split at h
    · exact .inr h
    · exact .inl (Option.some.inj h).symm

theorem isOrdered_insertMark (hs : IsOrdered s) : IsOrdered (insertMark c s) := by
  induction s with
  | nil => exact .singleton c
  | cons d s ih =>
    rw [insertMark]
    split
    · next hlt =>
      -- behind `d` stands then what stood there before, or the mark, which is of higher class
      obtain ⟨hd, hs⟩ := List.isChain_cons.mp hs
      refine List.isChain_cons.mpr ⟨fun e he => ?_, ih hs⟩
      obtain rfl | he := head?_insertMark he
      · exact .inr (Nat.le_of_lt hlt.2)
      · exact hd e he
    · next hnot =>
      refine List.isChain_cons_cons.mpr ⟨?_, hs⟩
      rw [InOrder]
      omega

theorem isOrdered_orderMarks (s : List Char) : IsOrdered (orderMarks s) := by
  induction s with
  | nil => exact .nil
  | cons c s ih => exact isOrdered_insertMark ih

/-- An ordered text is left as it is. -/
theorem orderMarks_eq_self (h : IsOrdered s) : orderMarks s = s := by
  induction s with
  | nil => rfl
  | cons c s ih =>
    obtain ⟨hc, hs⟩ := List.isChain_cons.mp h
    rw [orderMarks, ih hs, insertMark_eq_cons hc]

/-- What follows a character when others with a class are taken out is in order with it. -/
private theorem inOrder_head?_filter {p : Char → Bool} (h : IsOrdered (c :: s))
    (hp : ∀ d ∈ s, p d = false → combiningClass d ≠ 0) :
    ∀ d ∈ (s.filter p).head?, InOrder c d := by
  induction s generalizing c with
  | nil => rintro d ⟨⟩
  | cons e s ih =>
    obtain ⟨hce, hs⟩ := List.isChain_cons_cons.mp h
    intro d hd
    cases hpe : p e with
    | true =>
      rw [List.filter_cons_of_pos hpe] at hd
      exact Option.some.inj hd ▸ hce
    | false =>
      -- the class of `e` lies between those of `c` and of what follows
      rw [List.filter_cons_of_neg (by simp [hpe])] at hd
      have hne := hp e List.mem_cons_self hpe
      have hed := ih hs (fun d hd => hp d (List.mem_cons_of_mem e hd)) d hd
      rw [InOrder] at hce hed ⊢
      omega

/-- A text stays ordered when characters with a class are taken out of it. -/
theorem IsOrdered.filter {p : Char → Bool} (h : IsOrdered s)
    (hp : ∀ c ∈ s, p c = false → combiningClass c ≠ 0) : IsOrdered (s.filter p) := by
  induction s with
  | nil => exact .nil
  | cons c s ih =>
    have hp' : ∀ d ∈ s, p d = false → combiningClass d ≠ 0 := fun d hd =>
      hp d (List.mem_cons_of_mem c hd)
    have hs := ih (List.isChain_cons.mp h).2 hp'
    cases hpc : p c with
    | true =>
      rw [List.filter_cons_of_pos hpc]
      exact List.isChain_cons.mpr ⟨inOrder_head?_filter h hp', hs⟩
    | false => rwa [List.filter_cons_of_neg (by simp [hpc])]

/-- A text is as ordered as another one with the same classes. -/
theorem IsOrdered.of_forall₂ (h : IsOrdered s)
    (hclass : List.Forall₂ (fun c d => combiningClass d = combiningClass c) s t) :
    IsOrdered t := by
  induction hclass with
  | nil => exact .nil
  | cons hcd hst ih =>
    obtain ⟨hc, hs⟩ := List.isChain_cons.mp h
    refine List.isChain_cons.mpr ⟨fun e he => ?_, ih hs⟩
    cases hst with
    | nil => cases he
    | cons hce _ =>
      cases he
      have horder := hc _ rfl
      rwa [InOrder, ← hcd, ← hce] at horder

private theorem insertMark_append_cons (hd : combiningClass d = 0) :
    insertMark c (s ++ d :: t) = insertMark c s ++ d :: t := by
  induction s with
  | nil => exact insertMark_eq_cons fun e he => .inl (Option.some.inj he ▸ hd)
  | cons e s ih =>
    rw [List.cons_append, insertMark, insertMark, ih]
    split <;> rfl

/-- Nothing is moved across a character without a class. -/
theorem orderMarks_append_cons (hd : combiningClass d = 0) :
    orderMarks (s ++ d :: t) = orderMarks s ++ d :: orderMarks t := by
  induction s with
  | nil =>
    refine insertMark_eq_cons fun e _ => .inr ?_
    rw [hd]
    exact Nat.zero_le _
  | cons c s ih =>
    rw [List.cons_append, orderMarks, ih, insertMark_append_cons hd, orderMarks]

/-! ### Order and parts -/

/-- Whether a mark is put in or taken out first does not matter. -/
private theorem filter_insertMark {p : Char → Bool} (hs : IsOrdered s)
    (hp : ∀ d ∈ s, p d = false → combiningClass d ≠ 0) :
    (insertMark c s).filter p =
      if p c then insertMark c (s.filter p) else s.filter p := by
  induction s with
  | nil =>
    cases hc : p c <;> simp [insertMark, hc]
  | cons d s ih =>
    have ih := ih (List.isChain_cons.mp hs).2 fun e he => hp e (List.mem_cons_of_mem d he)
    rw [insertMark]
    split
    · next hlt =>
      rw [List.filter_cons, List.filter_cons, ih]
      cases p c <;> cases p d
      · rfl
      · rfl
      · rfl
      · simp only [if_true, insertMark, if_pos hlt]
    · next hnot =>
      have hcd : InOrder c d := by
        rw [InOrder]
        omega
      have hchain : IsOrdered (c :: d :: s) := List.isChain_cons_cons.mpr ⟨hcd, hs⟩
      rw [List.filter_cons, insertMark_eq_cons (inOrder_head?_filter hchain hp)]

/-- **Filtering.** Marks may be taken out of a text before it is ordered. -/
theorem filter_orderMarks {p : Char → Bool} (hp : ∀ c ∈ s, p c = false → combiningClass c ≠ 0) :
    (orderMarks s).filter p = orderMarks (s.filter p) := by
  induction s with
  | nil => rfl
  | cons c s ih =>
    have ih := ih fun d hd => hp d (List.mem_cons_of_mem c hd)
    have hperm : ∀ d ∈ orderMarks s, p d = false → combiningClass d ≠ 0 := fun d hd =>
      hp d (List.mem_cons_of_mem c ((orderMarks_perm s).mem_iff.mp hd))
    rw [orderMarks, filter_insertMark (isOrdered_orderMarks s) hperm, ih, List.filter_cons]
    split <;> rfl

/-- Two texts part at a mark: there the second one has a mark of lower class. -/
def PartsAtMark (s t : List Char) : Prop :=
  ∃ u c d s' t', s = u ++ c :: s' ∧ t = u ++ d :: t' ∧ combiningClass d ≠ 0 ∧
    combiningClass d < combiningClass c

theorem PartsAtMark.cons (h : PartsAtMark s t) (c : Char) : PartsAtMark (c :: s) (c :: t) := by
  obtain ⟨u, d, e, s', t', rfl, rfl, hclass⟩ := h
  exact ⟨c :: u, d, e, s', t', rfl, rfl, hclass⟩

/-- Texts that part at a mark do so in the classes of their characters. -/
theorem PartsAtMark.not_isPrefix (h : PartsAtMark s t) :
    ¬s.map combiningClass <+: t.map combiningClass := by
  obtain ⟨u, c, d, s', t', rfl, rfl, -, hlt⟩ := h
  rw [List.map_append, List.map_append, List.prefix_append_right_inj, List.map_cons, List.map_cons,
    List.cons_prefix_cons]
  rintro ⟨hclass, -⟩
  omega

/-- Texts that part at a mark go on to do so when another mark is put in. -/
private theorem PartsAtMark.insertMark (h : PartsAtMark s t) (c : Char) :
    PartsAtMark (insertMark c s) (insertMark c t) := by
  obtain ⟨u, d, e, s', t', rfl, rfl, hne, hlt⟩ := h
  induction u with
  | nil =>
    simp only [List.nil_append, Unicode.insertMark]
    by_cases hd : combiningClass d ≠ 0 ∧ combiningClass d < combiningClass c
    · rw [if_pos hd, if_pos ⟨hne, Nat.lt_trans hlt hd.2⟩]
      exact ⟨[], d, e, _, _, rfl, rfl, hne, hlt⟩
    · rw [if_neg hd]
      split
      · next he => exact ⟨[], c, e, _, _, rfl, rfl, he⟩
      · exact ⟨[c], d, e, _, _, rfl, rfl, hne, hlt⟩
  | cons b u ih =>
    simp only [List.cons_append, Unicode.insertMark]
    split
    · exact ih.cons b
    · exact ⟨c :: b :: u, d, e, s', t', rfl, rfl, hne, hlt⟩

/-- A mark that is put into a text in front of another one stays there, or ends up behind a mark
of the other. -/
private theorem insertMark_append_or (c : Char) (s t : List Char) :
    insertMark c (s ++ t) = insertMark c s ++ t ∨
      PartsAtMark (insertMark c s) (insertMark c (s ++ t)) := by
  induction s with
  | nil =>
    cases t with
    | nil => exact .inl rfl
    | cons b t =>
      rw [List.nil_append, insertMark, insertMark]
      split
      · next hb => exact .inr ⟨[], c, b, [], insertMark c t, rfl, rfl, hb⟩
      · exact .inl rfl
  | cons d s ih =>
    simp only [List.cons_append, insertMark]
    split
    · exact ih.imp (congrArg (d :: ·)) (·.cons d)
    · exact .inl rfl

/-- **Concatenation.** Two texts are ordered each on its own, or a mark of the second one moves in
front of one of the first. -/
theorem orderMarks_append_or (s t : List Char) :
    orderMarks (s ++ t) = orderMarks s ++ orderMarks t ∨
      PartsAtMark (orderMarks s) (orderMarks (s ++ t)) := by
  induction s with
  | nil => exact .inl rfl
  | cons c s ih =>
    rw [List.cons_append, orderMarks, orderMarks]
    obtain h | h := ih
    · rw [h]
      exact insertMark_append_or c (orderMarks s) (orderMarks t)
    · exact .inr (h.insertMark c)

/-- The texts on both sides of a cut are in order with each other. -/
def InOrderAcross (s t : List Char) : Prop := ∀ c ∈ s.getLast?, ∀ d ∈ t.head?, InOrder c d

private theorem inOrderAcross_cons_iff (hne : s ≠ []) :
    InOrderAcross (c :: s) t ↔ InOrderAcross s t := by
  rw [InOrderAcross, List.getLast?_cons_of_ne_nil hne, InOrderAcross]

private theorem insertMark_ne_nil : insertMark c s ≠ [] := by
  rw [← List.length_pos_iff, (insertMark_perm c s).length_eq]
  exact Nat.succ_pos _

/-- A text is in order with what follows if it is with a mark put in. -/
private theorem InOrderAcross.of_insertMark (h : InOrderAcross (insertMark c s) t) :
    InOrderAcross s t := by
  induction s with
  | nil =>
    intro c hc
    cases hc
  | cons d s ih =>
    rw [insertMark] at h
    split at h
    · next hlt =>
      rw [inOrderAcross_cons_iff insertMark_ne_nil] at h
      cases s with
      | nil =>
        -- the mark stands last, behind one of lower class
        intro e he f hf
        obtain rfl : d = e := Option.some.inj he
        have hcf : InOrder c f := h c rfl f hf
        rw [InOrder] at hcf ⊢
        omega
      | cons e s => exact (inOrderAcross_cons_iff (List.cons_ne_nil e s)).mpr (ih h)
    · exact (inOrderAcross_cons_iff (List.cons_ne_nil d s)).mp h

private theorem insertMark_append (h : InOrderAcross (insertMark c s) t) :
    insertMark c (s ++ t) = insertMark c s ++ t := by
  induction s with
  | nil => exact insertMark_eq_cons (h c rfl)
  | cons d s ih =>
    rw [insertMark] at h
    rw [List.cons_append, insertMark, insertMark]
    split at h
    · next hlt =>
      rw [inOrderAcross_cons_iff insertMark_ne_nil] at h
      rw [if_pos hlt, if_pos hlt, ih h, List.cons_append]
    · next hnot => rw [if_neg hnot, if_neg hnot, List.cons_append, List.cons_append]

/-- Texts are ordered each on its own exactly if that leaves them in order with each other. -/
theorem orderMarks_append_eq_iff :
    orderMarks (s ++ t) = orderMarks s ++ orderMarks t ↔
      InOrderAcross (orderMarks s) (orderMarks t) := by
  constructor
  · intro h
    have hordered : IsOrdered (orderMarks s ++ orderMarks t) := h ▸ isOrdered_orderMarks (s ++ t)
    exact (List.isChain_append.mp hordered).2.2
  · intro h
    induction s with
    | nil => rfl
    | cons c s ih =>
      rw [orderMarks] at h
      rw [List.cons_append, orderMarks, ih h.of_insertMark, insertMark_append h, orderMarks]

/-- Texts of which the second does not begin with a combining mark are decomposed each on its own. -/
theorem decomposed_append
    (h : ∀ c ∈ t.head?, ∀ d ∈ (decompose c).head?, combiningClass d = 0) :
    decomposed (s ++ t) = decomposed s ++ decomposed t := by
  cases t with
  | nil => rw [List.append_nil]; exact (List.append_nil _).symm
  | cons c t =>
    obtain ⟨d, rest, hd⟩ := List.exists_cons_of_ne_nil (decompose_ne_nil c)
    have hclass : combiningClass d = 0 := h c rfl d (by rw [hd, List.head?_cons, Option.mem_def])
    have hfirst : orderMarks (d :: (rest ++ t.flatMap decompose)) =
        d :: orderMarks (rest ++ t.flatMap decompose) := orderMarks_append_cons (s := []) hclass
    simp only [decomposed, List.flatMap_append, List.flatMap_cons, hd, List.cons_append, hfirst,
      orderMarks_append_cons hclass]

/-- **Idempotence.** A decomposed text is its own decomposed form. -/
theorem decomposed_eq_self (hs : ∀ c ∈ s, decompose c = [c]) (h : IsOrdered s) :
    decomposed s = s := by
  have hflat : s.flatMap decompose = s := by
    rw [List.flatMap_congr hs, List.flatMap_singleton']
  rw [decomposed, hflat, orderMarks_eq_self h]

theorem mem_decomposed : d ∈ decomposed s ↔ ∃ c ∈ s, d ∈ decompose c := by
  rw [decomposed, (orderMarks_perm _).mem_iff, List.mem_flatMap]

theorem decomposed_ne_nil (h : s ≠ []) : decomposed s ≠ [] := by
  obtain ⟨c, hc⟩ := List.exists_mem_of_ne_nil _ h
  obtain ⟨d, hd⟩ := List.exists_mem_of_ne_nil _ (decompose_ne_nil c)
  exact List.ne_nil_of_mem (mem_decomposed.mpr ⟨c, hc, hd⟩)

theorem decompose_of_mem_decomposed (h : c ∈ decomposed s) : decompose c = [c] := by
  obtain ⟨d, -, hd⟩ := mem_decomposed.mp h
  exact decompose_of_mem_decompose hd

theorem decomposed_decomposed (s : List Char) : decomposed (decomposed s) = decomposed s :=
  decomposed_eq_self (fun _ hc => decompose_of_mem_decomposed hc) (isOrdered_orderMarks _)

end RegistrySearch.Unicode
