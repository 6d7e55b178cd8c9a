import RegistrySearch.Proofs.Query.Outline

/-!
# Drawn clauses

A drawn clause shows its outline, and no more than that depends on whether it is painted: taking the
escape sequences out of a painted one leaves the one without colours.

Whatever is painted piece by piece, the pieces are taken apart again independently of each other, as
no piece ends within an escape sequence. So `Unpaints` speaks of a piece together with whatever
follows, and goes along with everything that a drawing is put together from.
-/

namespace RegistrySearch.Query

/-- Whether a character stands among the parameters of an escape sequence. -/
def isParameter (c : Char) : Bool := c.isDigit || c = ';'

/-- The text behind an escape sequence that sets styles, read behind its escape character. -/
def sequenceRest? : List Char → Option (List Char)
  | '[' :: s =>
    match s.dropWhile isParameter with
    | 'm' :: rest => some rest
    | _ => none
  | _ => none

theorem length_lt_of_sequenceRest? {s rest : List Char} (h : sequenceRest? s = some rest) :
    rest.length < s.length := by
  unfold sequenceRest? at h
  split at h
  · next s =>
    split at h
    · next rest' hrest =>
      cases h
      have hle := Text.length_dropWhile_le isParameter s
      rw [hrest, List.length_cons] at hle
      rw [List.length_cons]
      omega
    · cases h
  · cases h

/-- A text without the escape sequences that set styles. -/
def unpainted : List Char → List Char
  | [] => []
  | c :: s =>
    if c = '\x1b' then
      match h : sequenceRest? s with
      | some rest =>
        have := length_lt_of_sequenceRest? h
        unpainted rest
      | none => c :: unpainted s
    else c :: unpainted s
termination_by s => s.length
decreasing_by all_goals simp only [List.length_cons]; omega

/-- A piece of text is another one with escape sequences in it, whatever follows. -/
def Unpaints (s t : List Char) : Prop := ∀ rest, unpainted (s ++ rest) = t ++ unpainted rest

variable {s t u v : List Char}

theorem unpainted_cons_of_ne {c : Char} (h : c ≠ '\x1b') (s : List Char) :
    unpainted (c :: s) = c :: unpainted s := by
  rw [unpainted, if_neg h]

/-- A text without escape characters is left as it is. -/
theorem unpaints_self (h : '\x1b' ∉ s) : Unpaints s s := by
  intro rest
  induction s with
  | nil => rfl
  | cons c s ih =>
    rw [List.mem_cons, not_or] at h
    rw [List.cons_append, unpainted_cons_of_ne (Ne.symm h.1), ih h.2, List.cons_append]

theorem Unpaints.append (h : Unpaints s t) (h' : Unpaints u v) : Unpaints (s ++ u) (t ++ v) := by
  intro rest
  rw [List.append_assoc, h, h', List.append_assoc]

theorem Unpaints.cons {c : Char} (hc : c ≠ '\x1b') (h : Unpaints s t) :
    Unpaints (c :: s) (c :: t) := by
  intro rest
  rw [List.cons_append, unpainted_cons_of_ne hc, h, List.cons_append]

/-- An escape sequence is taken out. -/
theorem unpaints_escapeSequence {code : List Char} (h : ∀ c ∈ code, isParameter c) :
    Unpaints (escapeSequence code) [] := by
  intro rest
  have htext : escapeSequence code ++ rest = '\x1b' :: '[' :: (code ++ 'm' :: rest) := by
    rw [escapeSequence, List.cons_append, List.cons_append, List.append_assoc]
    rfl
  have hdrop : (code ++ 'm' :: rest).dropWhile isParameter = 'm' :: rest := by
    rw [List.dropWhile_append_of_pos h]
    rfl
  have hrest : sequenceRest? ('[' :: (code ++ 'm' :: rest)) = some rest := by
    rw [sequenceRest?, hdrop]
    rfl
  rw [htext, unpainted, if_pos rfl]
  split
  · next rest' h' =>
    rw [hrest] at h'
    cases h'
    rfl
  · next h' =>
    rw [hrest] at h'
    cases h'

/-- A painted piece of text is that text, with escape sequences. -/
theorem unpaints_paint (color : Bool) (style : Style) (h : '\x1b' ∉ s) :
    Unpaints (paint color style s) s := by
  cases color with
  | false => exact unpaints_self h
  | true =>
    have hcode : ∀ c ∈ style.code, isParameter c :=
      List.all_eq_true.mp (by cases style <;> decide)
    have hreset : Unpaints (escapeSequence ['0']) [] :=
      unpaints_escapeSequence (List.all_eq_true.mp (by decide))
    have hpainted := ((unpaints_escapeSequence hcode).append (unpaints_self h)).append hreset
    rwa [List.nil_append, List.append_nil] at hpainted

theorem Occur.unpaints_label (color : Bool) (occur : Occur) :
    Unpaints (occur.label color) (occur.label false) := by
  cases occur <;> exact unpaints_paint color _ (by decide)

namespace Clause

/-- A text that breaks no line has no escape characters. -/
theorem notMem_of_forall_isInLine (h : ∀ c ∈ s, isInLine c) : '\x1b' ∉ s :=
  fun hmem => absurd (h _ hmem) (by decide)

/-- A painted label is the label, with escape sequences. -/
theorem unpaints_label {c : Clause} (h : c.IsDrawable) (color : Bool) :
    Unpaints (c.label color) (c.label false) := by
  cases hfield : c.field? with
  | some field =>
    have hlabel := notMem_of_forall_isInLine h.isInLine_of_mem_label
    rw [label_leaf hfield, paint_false, List.mem_append, List.mem_cons, not_or, not_or] at hlabel
    rw [label_leaf hfield, label_leaf hfield, paint_false]
    exact (unpaints_paint color .dim hlabel.1).append
      ((unpaints_self hlabel.2.2).cons (by decide))
  | none =>
    cases c with
    | boolean children =>
      have hname : Unpaints (paint color .bold "Boolean".toList) "Boolean".toList :=
        unpaints_paint color .bold (by decide)
      cases children with
      | nil => exact hname.append (unpaints_self (by decide))
      | cons child children => exact hname
    | term | phrase | wildcard | regexp | range => cases hfield

/-- What stands below painted children is what stands below them without colours. -/
private theorem unpaints_treeChildren {color : Bool} {children : List (Occur × Clause)}
    (h : ∀ child ∈ children, child.2.IsDrawable)
    (ih : ∀ child ∈ children, ∀ margin, '\x1b' ∉ margin →
      Unpaints (treeBelow color margin child.2) (treeBelow false margin child.2))
    {margin : List Char} (hmargin : '\x1b' ∉ margin) :
    Unpaints (treeChildren color margin children) (treeChildren false margin children) := by
  induction children with
  | nil => exact unpaints_self List.not_mem_nil
  | cons child children ihc =>
    obtain ⟨hchild, hchildren⟩ := List.forall_mem_cons.mp h
    obtain ⟨ihchild, ihchildren⟩ := List.forall_mem_cons.mp ih
    obtain ⟨occur, child⟩ := child
    have hbranch : '\x1b' ∉ branch children.isEmpty := by cases children.isEmpty <;> decide
    have hindentation : '\x1b' ∉ margin ++ indentation children.isEmpty := by
      rw [List.mem_append, not_or]
      exact ⟨hmargin, by cases children.isEmpty <;> decide⟩
    have hspace : ' ' ≠ '\x1b' := by decide
    have hbreak : '\n' ≠ '\x1b' := by decide
    have hrules := (unpaints_self hmargin).append (unpaints_self hbranch)
    have hline := (hrules.append (occur.unpaints_label color)).append
      ((unpaints_label hchild color).cons hspace)
    have hbelow := hline.append ((ihchild _ hindentation).cons hbreak)
    exact hbelow.append (ihc hchildren ihchildren)

theorem unpaints_treeBelow {c : Clause} (h : c.IsDrawable) (color : Bool) {margin : List Char}
    (hmargin : '\x1b' ∉ margin) :
    Unpaints (treeBelow color margin c) (treeBelow false margin c) := by
  induction c using induct generalizing margin with
  | leaf c field hfield =>
    cases c with
    | boolean => cases hfield
    | term | phrase | wildcard | regexp | range => exact unpaints_self List.not_mem_nil
  | boolean children ih =>
    have hchildren := isDrawable_boolean.mp h
    exact unpaints_treeChildren hchildren
      (fun child hc margin hmargin => ih child hc (hchildren child hc) hmargin) hmargin

/-- **Colours.** A painted clause is the one without colours, with escape sequences. -/
theorem unpaints_treeChars {c : Clause} (h : c.IsDrawable) (color : Bool) :
    Unpaints (c.treeChars color) (c.treeChars false) :=
  (unpaints_label h color).append ((unpaints_treeBelow h color List.not_mem_nil).cons (by decide))

instance (c : Clause) : Decidable c.IsDrawable :=
  decidable_of_iff (c.leaves.all fun leaf => leaf.texts.all fun text => text.toList.all isInLine)
    (by simp only [List.all_eq_true, IsDrawable])

/-- **Drawn clauses.** A clause whose texts have neither line breaks nor escape characters is drawn
with one line for every address, in the order of the addresses, which are those of all clauses
inside it; clauses with other addresses are drawn differently; and the painted clause is the same
one, with escape sequences. -/
theorem tree_faithful {c : Clause} (h : c.IsDrawable) :
    ((Text.splitAt '\n' (c.tree false).toList).map some = c.addresses.map c.line? ++ [some []] ∧
        c.addresses.Pairwise (· < ·) ∧
        ∀ address, address ∈ c.addresses ↔ (c.follow? address).isSome) ∧
      (∀ d : Clause, d.IsDrawable → c.tree false = d.tree false → c.addresses = d.addresses) ∧
      unpainted (c.tree true).toList = (c.tree false).toList := by
  refine ⟨⟨?_, c.pairwise_addresses, c.mem_addresses⟩,
    fun d hd htree => addresses_eq_of_tree_eq h hd htree, ?_⟩
  · rw [h.splitAt_tree, List.map_append, map_some_lines]
    rfl
  · rw [tree, tree, String.toList_ofList, String.toList_ofList]
    have hpainted := unpaints_treeChars h true []
    rwa [List.append_nil, unpainted, List.append_nil] at hpainted

/-- A combination inside another one, and the same leaves side by side: they are drawn differently.
-/
theorem tree_faithful_nested :
    (boolean [(.must, term "type" "oauth"),
        (.should, boolean [(.mustNot, term "enabled" "false")])]).IsDrawable ∧
      (boolean [(.must, term "type" "oauth"), (.should, boolean []),
        (.mustNot, term "enabled" "false")]).IsDrawable ∧
      (boolean [(.must, term "type" "oauth"),
          (.should, boolean [(.mustNot, term "enabled" "false")])]).tree false ≠
        (boolean [(.must, term "type" "oauth"), (.should, boolean []),
          (.mustNot, term "enabled" "false")]).tree false ∧
      unpainted ((boolean [(.must, term "type" "oauth"),
          (.should, boolean [(.mustNot, term "enabled" "false")])]).tree true).toList =
        ((boolean [(.must, term "type" "oauth"),
          (.should, boolean [(.mustNot, term "enabled" "false")])]).tree false).toList := by
  have hnested : (boolean [(.must, term "type" "oauth"),
      (.should, boolean [(.mustNot, term "enabled" "false")])]).IsDrawable := by decide
  have hflat : (boolean [(.must, term "type" "oauth"), (.should, boolean []),
      (.mustNot, term "enabled" "false")]).IsDrawable := by decide
  refine ⟨hnested, hflat, fun htree => ?_, (tree_faithful hnested).2.2⟩
  exact absurd ((tree_faithful hnested).2.1 _ hflat htree) (by decide)

example : (boolean [(.must, term "type" "oauth"),
    (.should, boolean [(.mustNot, term "enabled" "false")])]).tree false =
      "Boolean\n├── MUST     term type:oauth\n└── SHOULD   Boolean\n" ++
        "    └── MUST_NOT term enabled:false\n" := by
  decide

end Clause

end RegistrySearch.Query
