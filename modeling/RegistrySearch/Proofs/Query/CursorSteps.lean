import RegistrySearch.Proofs.Query.Continuation
import RegistrySearch.Proofs.Query.Cursor

/-!
# The steps of the cursor

In front of an end of the text the cursor is at a boundary, so nothing stops it there. What it takes
off the text from there on is what the readers take off the end, and it moves in front of what they
leave: it `Follows` them. A loop takes a character or more off in each turn, so steps in excess of
them suffice for it.

Here are the cuts, the operators, the words and the texts in delimiters. What is read one after the
other is put together with `Follows.bind`.
-/

namespace RegistrySearch.Query

open Text
open Unicode (isBlank)

variable {s : String} {n : Nat} {t u : List Char} {c : Char}

namespace Cursor

/-! ### Characters -/

theorem rest_offset (h : t <:+ s.toList) : rest s (offset s.toList t) = pure (String.ofList t) := by
  obtain ⟨front, hfront⟩ := h
  rw [rest, splitBytes?_offset hfront.symm]

theorem slice_offset (h : t ++ u <:+ s.toList) :
    slice s (offset s.toList (t ++ u)) (offset s.toList u) = pure (String.ofList t) := by
  have hoffset := offset_of_append h
  have hsplit := splitBytes?_offset (String.toList_ofList (l := t ++ u))
  rw [String.toList_ofList, offset_append] at hsplit
  rw [slice, rest_offset h, pure_bind, if_neg (by omega), hoffset, Nat.add_sub_cancel_left, hsplit]

theorem peek_offset (h : t <:+ s.toList) : peek s (offset s.toList t) = pure t.head? := by
  rw [peek, rest_offset h, pure_bind, String.toList_ofList]

theorem consume_cons (h : c :: t <:+ s.toList) :
    consume s (offset s.toList (c :: t)) = pure (some c, offset s.toList t) := by
  rw [consume, peek_offset h, pure_bind, List.head?_cons, offset_cons h]

theorem consume_nil : consume s (offset s.toList []) = pure (none, offset s.toList []) := by
  rw [consume, peek_offset List.nil_suffix, pure_bind, List.head?_nil]

theorem consume_offset (h : t <:+ s.toList) :
    consume s (offset s.toList t) = pure (t.head?, offset s.toList t.tail) := by
  cases t with
  | nil => exact consume_nil
  | cons c t => exact consume_cons h

theorem skipWhile_offset (p : Char → Bool) (hn : t.length < n) (h : t <:+ s.toList) :
    skipWhile s p n (offset s.toList t) = pure (offset s.toList (t.dropWhile p)) := by
  induction n generalizing t with
  | zero => exact absurd hn (Nat.not_lt_zero _)
  | succ n ih =>
    rw [skipWhile, peek_offset h, pure_bind]
    cases t with
    | nil => rfl
    | cons c t =>
      rw [List.head?_cons, List.dropWhile_cons]
      dsimp only
      split
      · rw [← offset_cons h, ih (Nat.lt_of_succ_lt_succ hn) ((List.suffix_cons c t).trans h)]
      · rfl

theorem skipBlanks_offset (hn : s.toList.length < n) (h : t <:+ s.toList) :
    skipWhile s isBlank n (offset s.toList t) = pure (offset s.toList (skipBlanks t)) :=
  skipWhile_offset isBlank (Nat.lt_of_le_of_lt h.length_le hn) h

/-! ### Operators -/

theorem isAtSymbol_offset (symbol : List Char) (h : t <:+ s.toList) :
    isAtSymbol s symbol (offset s.toList t) = pure (dropWord? symbol t).isSome := by
  rw [isAtSymbol, rest_offset h, pure_bind, String.toList_ofList, dropWord?]
  cases symbol.isPrefixOf t <;> rfl

theorem isAtKeyword_offset (word : List Char) (h : t <:+ s.toList) :
    isAtKeyword s word (offset s.toList t) = pure (dropKeyword? word t).isSome := by
  rw [isAtKeyword, rest_offset h, pure_bind, String.toList_ofList, dropKeyword?]
  cases hword : dropWord? word t with
  | none =>
    rw [if_neg fun hprefix => by rw [dropWord?, if_pos hprefix] at hword; cases hword]
    rfl
  | some u =>
    obtain rfl := dropWord?_eq_some_iff.mp hword
    have hpeek := peek_offset (s := String.ofList (word ++ u)) (t := u)
      (by rw [String.toList_ofList]; exact List.suffix_append word u)
    rw [String.toList_ofList, offset_append] at hpeek
    rw [if_pos (List.isPrefixOf_iff_prefix.mpr (List.prefix_append word u)), hpeek, pure_bind]
    cases u with
    | nil => rfl
    | cons c u =>
      dsimp only [List.head?_cons]
      cases isBlank c || decide (c = '(') <;> rfl

/-- What is taken off the front of a text is behind the cursor. -/
theorem eatKeyword?_offset (word : List Char) (h : t <:+ s.toList) :
    eatKeyword? s word (offset s.toList t) =
      pure ((dropKeyword? word t).map (offset s.toList)) := by
  rw [eatKeyword?, isAtKeyword_offset word h, pure_bind]
  cases hword : dropKeyword? word t with
  | none => rfl
  | some u =>
    obtain rfl := eq_append_of_dropKeyword? hword
    rw [Option.map_some, offset_of_append h]
    rfl

theorem eatOperator?_offset (word symbol : List Char) (h : t <:+ s.toList) :
    eatOperator? s word symbol (offset s.toList t) =
      pure ((dropOperator? word symbol t).map (offset s.toList)) := by
  rw [eatOperator?, eatKeyword?_offset word h, pure_bind, dropOperator?]
  cases hword : dropKeyword? word t with
  | some u => rfl
  | none =>
    rw [Option.map_none, isAtSymbol_offset symbol h, pure_bind]
    cases hsymbol : dropWord? symbol t with
    | none => rfl
    | some u =>
      obtain rfl := dropWord?_eq_some_iff.mp hsymbol
      rw [Option.map_some, offset_of_append h]
      rfl

theorem skipOr_offset (isFirst : Bool) (h : t <:+ s.toList) :
    skipOr s isFirst (offset s.toList t) = pure (offset s.toList (alternative isFirst t)) := by
  cases isFirst with
  | true => rfl
  | false =>
    rw [skipOr, if_neg Bool.false_ne_true, eatOperator?_offset _ _ h, pure_bind, alternative,
      dropOr?]
    cases dropOperator? ['O', 'R'] ['|', '|'] t <;> rfl

theorem eatSign?_offset (h : t <:+ s.toList) :
    eatSign? s (offset s.toList t) =
      pure ((dropSign? t).map fun (occur, u) => (occur, offset s.toList u)) := by
  rw [eatSign?, eatOperator?_offset _ _ h, pure_bind, dropSign?_eq]
  cases hnot : dropOperator? ['N', 'O', 'T'] ['!'] t with
  | some u => rfl
  | none =>
    rw [Option.map_none, isAtSign, rest_offset h, pure_bind, String.toList_ofList]
    match t with
    | [] | [_] => rfl
    | c :: d :: u =>
      dsimp only
      rw [pure_bind, consume_cons h, attached?]
      cases isBlank d with
      | true => rw [Bool.not_true, Bool.and_false]; rfl
      | false =>
        by_cases hplus : c = '+'
        · subst hplus
          rfl
        · by_cases hminus : c = '-'
          · subst hminus
            rfl
          · rw [if_neg hplus, if_neg hminus, decide_eq_false hplus, decide_eq_false hminus]
            rfl

theorem strayOperator?_offset (h : t <:+ s.toList) :
    strayOperator? s (offset s.toList t) = pure (Query.strayOperator? t) := by
  rw [strayOperator?, isAtKeyword_offset _ h, isAtSymbol_offset _ h, isAtKeyword_offset _ h,
    isAtSymbol_offset _ h, Query.strayOperator?]
  simp only [pure_bind]
  split_ifs <;> rfl

end Cursor

/-! ### Readers -/

/-- What reading with a cursor gives follows what a reader gives: the cursor is in front of the
rest, and an error is in front of the text to which the failure points. -/
inductive Follows (s : String) {α : Type} : Except Failure (α × List Char) → Scan (α × Nat) → Prop
  | ok (a : α) {rest : List Char} (h : rest <:+ s.toList) :
    Follows s (.ok (a, rest)) (pure (a, offset s.toList rest))
  | error (e : Failure) (h : e.rest <:+ s.toList) :
    Follows s (.error e) (throw (.syntaxError (e.toError s.toList)))

section follows

variable {α β : Type}

theorem follows_fail (fault : Fault) (h : t <:+ s.toList) :
    Follows s (.error ⟨fault, t⟩ : Except Failure (α × List Char))
      (Cursor.fail fault (offset s.toList t)) :=
  .error ⟨fault, t⟩ h

/-- Reading on from what follows a reader follows what is read next. -/
theorem Follows.bind {r : Except Failure (α × List Char)} {x : Scan (α × Nat)}
    {k : α × List Char → Except Failure (β × List Char)} {k' : α × Nat → Scan (β × Nat)}
    (h : Follows s r x)
    (hk : ∀ a rest, r = .ok (a, rest) → rest <:+ s.toList →
      Follows s (k (a, rest)) (k' (a, offset s.toList rest))) : Follows s (r >>= k) (x >>= k') := by
  cases h with
  | ok a h => exact hk a _ rfl h
  | error e h => exact .error e h

theorem Follows.congr {r r' : Except Failure (α × List Char)} {x : Scan (α × Nat)}
    (h : Follows s r x) (hr : r = r') : Follows s r' x :=
  hr ▸ h

end follows

namespace Cursor

/-! ### Words and texts in delimiters -/

theorem follows_readTyped (hn : t.length < n) (h : t <:+ s.toList) :
    Follows s (Query.readTyped t) (readTyped s n (offset s.toList t)) := by
  induction n generalizing t with
  | zero => exact absurd hn (Nat.not_lt_zero _)
  | succ n ih =>
    rw [readTyped, peek_offset h, pure_bind]
    cases t with
    | nil => exact .ok [] h
    | cons c t =>
      have hbehind : t <:+ s.toList := (List.suffix_cons c t).trans h
      have hlt : t.length < n := Nat.lt_of_succ_lt_succ hn
      rw [List.head?_cons]
      dsimp only
      by_cases hescape : c = '\\'
      · subst hescape
        rw [if_pos rfl, consume_cons h, pure_bind]
        dsimp only
        cases t with
        | nil =>
          rw [consume_nil, pure_bind]
          exact follows_fail .danglingEscape h
        | cons d t =>
          rw [consume_cons hbehind, pure_bind]
          exact (ih (Nat.lt_of_succ_lt hlt) ((List.suffix_cons d t).trans hbehind)).bind
            fun w rest _ hrest => .ok _ hrest
      · rw [if_neg hescape, readTyped_cons hescape]
        split
        · exact .ok [] h
        · rw [consume_cons h, pure_bind]
          exact (ih hlt hbehind).bind fun w rest _ hrest => .ok _ hrest

/-- Nothing is read off a text in front of an empty word. -/
theorem rest_eq_of_readTyped_nil {rest : List Char} (h : Query.readTyped t = .ok ([], rest)) :
    rest = t := by
  fun_cases Query.readTyped t with
  | case1 =>
    cases h
    rfl
  | case2 => cases h
  | case3 c t =>
    obtain ⟨⟨w, r⟩, -, h⟩ := bind_eq_ok_iff.mp h
    cases h
  | case4 c t hlone hpair hends =>
    rw [readTyped_cons (ne_escape hlone hpair), if_pos hends] at h
    cases h
    rfl
  | case5 c t hlone hpair hends =>
    rw [readTyped_cons (ne_escape hlone hpair), if_neg hends] at h
    obtain ⟨⟨w, r⟩, -, h⟩ := bind_eq_ok_iff.mp h
    cases h

/-- The cursor moves exactly if there is a word. -/
theorem follows_readWord (hn : s.toList.length < n) (h : t <:+ s.toList) :
    Follows s (Query.readWord t) (readWord s n (offset s.toList t)) := by
  rw [Query.readWord, readWord]
  refine (follows_readTyped (Nat.lt_of_le_of_lt h.length_le hn) h).bind fun w rest hread hrest => ?_
  dsimp only
  cases w with
  | nil =>
    rw [rest_eq_of_readTyped_nil hread, if_pos rfl]
    exact follows_fail .missingTerm h
  | cons c w =>
    have hlength := length_add_le_of_readTyped hread
    have hmoves : offset s.toList rest ≠ offset s.toList t := by
      intro hoffset
      rw [offset_inj hrest h hoffset, List.length_cons] at hlength
      omega
    rw [if_neg hmoves]
    exact .ok _ hrest

/-- What a reader up to a closing character gives, with a fault in front of `u` if it fails. -/
def closedAt (u : List Char) (fault : Fault) (r : Option (List Char × List Char)) :
    Except Failure (List Char × List Char) :=
  match r with
  | some x => .ok x
  | none => .error ⟨fault, u⟩

theorem closedAt_map (u : List Char) (fault : Fault) (r : Option (List Char × List Char))
    (f : List Char × List Char → List Char × List Char) :
    closedAt u fault (r.map f) = closedAt u fault r >>= fun x => .ok (f x) := by
  cases r <;> rfl

theorem follows_readClosed {closing : Char} {kept : Char → List Char}
    {read : List Char → Option (List Char × List Char)} (hread : ReadsUpTo closing kept read)
    (fault : Fault) (hu : u <:+ s.toList) (hn : t.length < n) (h : t <:+ s.toList) :
    Follows s (closedAt u fault (read t))
      (readClosed s closing kept fault (offset s.toList u) n (offset s.toList t)) := by
  induction n generalizing t with
  | zero => exact absurd hn (Nat.not_lt_zero _)
  | succ n ih =>
    rw [readClosed]
    cases t with
    | nil =>
      rw [consume_nil, pure_bind, hread.nil]
      exact follows_fail fault hu
    | cons c t =>
      have hbehind : t <:+ s.toList := (List.suffix_cons c t).trans h
      have hlt : t.length < n := Nat.lt_of_succ_lt_succ hn
      rw [consume_cons h, pure_bind]
      dsimp only
      by_cases hclosing : c = closing
      · subst hclosing
        rw [if_pos rfl, hread.closed]
        exact .ok [] hbehind
      · rw [if_neg hclosing]
        by_cases hescape : c = '\\'
        · subst hescape
          rw [if_pos rfl]
          cases t with
          | nil =>
            rw [consume_nil, pure_bind, hread.lone]
            exact follows_fail fault hu
          | cons d t =>
            rw [consume_cons hbehind, pure_bind, hread.escaped, closedAt_map]
            exact (ih (Nat.lt_of_succ_lt hlt) ((List.suffix_cons d t).trans hbehind)).bind
              fun text rest _ hrest => .ok _ hrest
        · rw [if_neg hescape, hread.plain c t hclosing hescape, closedAt_map]
          exact (ih hlt hbehind).bind fun text rest _ hrest => .ok _ hrest

/-- Behind its first character a text is shorter than the whole it is an end of. -/
private theorem length_lt_of_cons_suffix (hn : s.toList.length < n) (h : c :: t <:+ s.toList) :
    t.length < n :=
  Nat.lt_of_succ_lt (Nat.lt_of_le_of_lt h.length_le hn)

theorem follows_readQuoted (hn : s.toList.length < n) (h : '"' :: t <:+ s.toList) :
    Follows s (closedAt ('"' :: t) .unterminatedPhrase (readQuoted? t))
      (readQuoted s n (offset s.toList ('"' :: t))) := by
  rw [readQuoted, consume_cons h, pure_bind]
  exact follows_readClosed readsUpTo_quoted _ h (length_lt_of_cons_suffix hn h)
    ((List.suffix_cons _ t).trans h)

theorem follows_readRegexp (hn : s.toList.length < n) (h : '/' :: t <:+ s.toList) :
    Follows s (closedAt ('/' :: t) .unterminatedRegexp (readRegexp? t))
      (readRegexp s n (offset s.toList ('/' :: t))) := by
  rw [readRegexp, consume_cons h, pure_bind]
  exact follows_readClosed readsUpTo_regexp _ h (length_lt_of_cons_suffix hn h)
    ((List.suffix_cons _ t).trans h)

theorem follows_readBound (hn : s.toList.length < n) (h : t <:+ s.toList) :
    Follows s (Query.readBound t) (readBound s n (offset s.toList t)) := by
  rw [readBound, peek_offset h, pure_bind]
  by_cases hquote : t.head? = some '"'
  · obtain ⟨body, rfl⟩ := List.head?_eq_some_iff.mp hquote
    rw [if_pos hquote]
    have hread : Query.readBound ('"' :: body) =
        closedAt ('"' :: body) .unterminatedPhrase (readQuoted? body) >>=
          fun x => .ok (some (normalize (String.ofList x.1)), x.2) := by
      rw [Query.readBound]
      cases readQuoted? body <;> rfl
    rw [hread]
    exact (follows_readQuoted hn h).bind fun text rest _ hrest => .ok _ hrest
  · have hslice : t.takeWhile (fun c => !endsBound c) ++ t.dropWhile (fun c => !endsBound c) <:+
        s.toList := by rwa [List.takeWhile_append_dropWhile]
    have htext := slice_offset hslice
    rw [List.takeWhile_append_dropWhile] at htext
    have hrest : t.dropWhile (fun c => !endsBound c) <:+ s.toList :=
      (List.dropWhile_suffix _).trans h
    rw [if_neg hquote, skipWhile_offset _ (Nat.lt_of_le_of_lt h.length_le hn) h, pure_bind, htext,
      pure_bind, readBound_of_ne hquote]
    split
    · next hnil =>
      rw [hnil, if_pos rfl]
      exact follows_fail .missingBound h
    · next hstar =>
      rw [hstar, if_neg (by decide), if_pos rfl]
      exact .ok none hrest
    · next hnil hstar =>
      rw [if_neg, if_neg]
      · exact .ok _ hrest
      · exact fun h => hstar (String.ofList_injective h)
      · exact fun h => hnil (String.ofList_injective h)

theorem follows_readRange (field : String) {isInclusive : Bool} {body : List Char}
    (hn : s.toList.length < n) (h : (Opener.range isInclusive).char :: body <:+ s.toList) :
    Follows s (Query.readRange field ((Opener.range isInclusive).char :: body) isInclusive body)
      (readRange s field n (offset s.toList ((Opener.range isInclusive).char :: body))) := by
  have hbody : body <:+ s.toList := (List.suffix_cons _ _).trans h
  have hopening : decide (some (Opener.range isInclusive).char = some '[') = isInclusive := by
    cases isInclusive <;> decide
  rw [Query.readRange, readRange, consume_cons h, pure_bind]
  dsimp only
  rw [skipBlanks_offset hn hbody, pure_bind]
  refine (follows_readBound hn ((skipBlanks_suffix body).trans hbody)).bind fun lower t _ ht => ?_
  dsimp only
  have hskip : skipBlanks t <:+ s.toList := (skipBlanks_suffix t).trans ht
  rw [skipBlanks_offset hn ht, pure_bind, eatKeyword?_offset _ hskip, pure_bind]
  cases hto : dropKeyword? ['T', 'O'] (skipBlanks t) with
  | none => exact follows_fail .missingTo hskip
  | some u =>
    have hu : u <:+ s.toList := (dropKeyword?_suffix hto).trans hskip
    rw [Option.map_some]
    dsimp only
    rw [skipBlanks_offset hn hu, pure_bind]
    refine (follows_readBound hn ((skipBlanks_suffix u).trans hu)).bind fun upper v _ hv => ?_
    dsimp only
    have hclose : skipBlanks v <:+ s.toList := (skipBlanks_suffix v).trans hv
    rw [skipBlanks_offset hn hv, pure_bind, hopening, consume_offset hclose, pure_bind]
    generalize skipBlanks v = w at hclose ⊢
    split
    · next w => exact .ok _ ((List.suffix_cons _ w).trans hclose)
    · next w => exact .ok _ ((List.suffix_cons _ w).trans hclose)
    · next hbracket hbrace =>
      split
      · next hhead =>
        obtain ⟨u, hu⟩ := List.head?_eq_some_iff.mp (Prod.mk.inj hhead).1
        exact absurd hu (hbracket u)
      · next hhead =>
        obtain ⟨u, hu⟩ := List.head?_eq_some_iff.mp (Prod.mk.inj hhead).1
        exact absurd hu (hbrace u)
      · exact follows_fail .unterminatedRange h

end Cursor

end RegistrySearch.Query
