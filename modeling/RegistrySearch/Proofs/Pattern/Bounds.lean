import RegistrySearch.Proofs.Pattern.Matching
import RegistrySearch.Proofs.Pattern.Reading

/-!
# Bounds of repetitions

Bounds in the wrong order are refused when they are read, so that no expression demands more rounds
of a repetition than it allows. This is what its moves rely on.
-/

namespace RegistrySearch.Pattern

/-! ### Bounds -/

/-- The least number of rounds is not more than the greatest, if there is one. -/
def AreOrdered (bounds : Nat × Option Nat) : Prop := ∀ most ∈ bounds.2, bounds.1 ≤ most

variable {f : Flags} {s rest : List Char}

theorem areOrdered_of_readMost {least : Nat} {bounds : Nat × Option Nat}
    (h : readMost f least s = some (bounds, rest)) : AreOrdered bounds := by
  unfold readMost at h
  split at h
  · cases h
    intro most hmost
    cases hmost
  · obtain ⟨x, -, h⟩ := Option.bind_eq_some_iff.mp h
    split at h
    · next hle =>
      unfold readBrace at h
      split at h
      · cases h
        intro most hmost
        cases hmost
        exact hle
      · cases h
    · cases h

theorem areOrdered_of_readBoundsBehind {least : Nat} {bounds : Nat × Option Nat}
    (h : readBoundsBehind f least s = some (bounds, rest)) : AreOrdered bounds := by
  unfold readBoundsBehind at h
  split at h
  · cases h
    intro most hmost
    cases hmost
    exact Nat.le_refl least
  · exact areOrdered_of_readMost h
  · cases h

theorem areOrdered_of_readRounds? {bounds : Nat × Option Nat}
    (h : readRounds? f s = some (some bounds, rest)) : AreOrdered bounds := by
  obtain ⟨x, hx, he⟩ := Option.map_eq_some_iff.mp h
  unfold readRepetition at hx
  split at hx
  · cases hx
    cases he
    intro most hmost
    cases hmost
  · cases hx
    cases he
    intro most hmost
    cases hmost
  · cases hx
    cases he
    intro most hmost
    cases hmost
    exact Nat.zero_le 1
  · next t =>
    obtain ⟨y, hy, rfl⟩ := Option.map_eq_some_iff.mp hx
    cases he
    have hbounds : (readBounds f t).map (fun x => ((x.1, x.2.1), x.2.2)) =
        some ((y.1, y.2.1), y.2.2) := by rw [hy]; rfl
    rw [map_readBounds] at hbounds
    obtain ⟨z, -, hz⟩ := Option.bind_eq_some_iff.mp hbounds
    exact areOrdered_of_readBoundsBehind hz
  · cases hx
    cases he

/-! ### Pieces -/

theorem isOrdered_of_readRepetitions {f : Flags} {p q : Piece} {s rest : List Char}
    (hp : p.regex.IsOrdered) (h : given (readRepetitions f p s) = some (q, rest)) :
    q.regex.IsOrdered := by
  rw [given_readRepetitions] at h
  obtain ⟨⟨bounds?, r⟩, hx, h⟩ := Option.bind_eq_some_iff.mp h
  cases bounds? with
  | none =>
    cases h
    exact hp
  | some bounds =>
    have hlt := Nat.lt_of_lt_of_le (length_lt_of_readRounds? hx) (f.length_skip_le s)
    exact isOrdered_of_readRepetitions (p := p.times bounds.1 bounds.2)
      ⟨hp, areOrdered_of_readRounds? hx⟩ h
termination_by s.length

theorem isOrdered_of_dot? {f : Flags} {r : Regex} (h : f.dot? = some r) : r.IsOrdered := by
  unfold Flags.dot? at h
  split at h
  · cases h
  · -- whatever the dot leaves out, it takes one character of a set
    split at h
    · cases h
      trivial
    · split at h <;> cases h <;> trivial

/-- A piece that an atom makes repeats nothing. -/
theorem isOrdered_of_readAtom {p : Piece} (h : given (readAtom f s) = some (p, rest)) :
    p.regex.IsOrdered := by
  have hchar : ∀ c, (f.char c).IsOrdered := by
    intro c
    unfold Flags.char
    split <;> trivial
  cases s with
  | nil => cases h
  | cons c t =>
    rw [given_readAtom] at h
    unfold readAtomFrom at h
    split at h
    · obtain ⟨x, -, he⟩ := Option.map_eq_some_iff.mp h
      cases he
      trivial
    · obtain ⟨x, -, he⟩ := Option.map_eq_some_iff.mp h
      cases he
      cases x.1 with
      | char c => exact hchar c
      | set set => trivial
      | look a => trivial
    · obtain ⟨r, hr, he⟩ := Option.map_eq_some_iff.mp h
      cases he
      exact isOrdered_of_dot? hr
    · cases h
      trivial
    · cases h
      trivial
    · split at h
      · cases h
      · cases h
        exact hchar _

/-! ### Alternatives -/

theorem Regex.isOrdered_concat {rs : List Regex} (h : ∀ r ∈ rs, r.IsOrdered) :
    (concat rs).IsOrdered := by
  induction rs with
  | nil => trivial
  | cons r rs ih =>
    have hr := h r List.mem_cons_self
    have hrs := ih fun r' hr' => h r' (List.mem_cons_of_mem r hr')
    cases rs with
    | nil => exact hr
    | cons r' rs => exact ⟨hr, hrs⟩

theorem Regex.isOrdered_choice {first : Regex} {rs : List Regex} (hfirst : first.IsOrdered)
    (h : ∀ r ∈ rs, r.IsOrdered) : (choice first rs).IsOrdered := by
  induction rs generalizing first with
  | nil => exact hfirst
  | cons r rs ih =>
    exact ⟨hfirst, ih (h r List.mem_cons_self) fun r' hr' => h r' (List.mem_cons_of_mem r hr')⟩

/-- The repetitions in alternatives have their bounds in order. -/
def Body.IsOrdered (b : Body) : Prop :=
  ∀ parts ∈ b.first :: b.others, ∀ p ∈ parts, p.regex.IsOrdered

theorem Body.IsOrdered.toPiece {b : Body} (h : b.IsOrdered) : b.toPiece.regex.IsOrdered := by
  have hconcat : ∀ parts ∈ b.first :: b.others, (Piece.concat parts).regex.IsOrdered := by
    intro parts hparts
    refine Regex.isOrdered_concat fun r hr => ?_
    obtain ⟨p, hp, rfl⟩ := List.mem_map.mp hr
    exact h parts hparts p hp
  refine Regex.isOrdered_choice (hconcat _ List.mem_cons_self) fun r hr => ?_
  rw [List.map_map] at hr
  obtain ⟨parts, hparts, rfl⟩ := List.mem_map.mp hr
  exact hconcat parts (List.mem_cons_of_mem _ hparts)

theorem Body.IsOrdered.push {b : Body} (h : b.IsOrdered) {p : Piece} (hp : p.regex.IsOrdered)
    (names : List String) : (b.push p names).IsOrdered := by
  intro parts hparts q hq
  rcases List.mem_cons.mp hparts with rfl | hparts
  · rcases List.mem_cons.mp hq with rfl | hq
    · exact hp
    · exact h _ List.mem_cons_self q hq
  · exact h parts (List.mem_cons_of_mem _ hparts) q hq

/-- The repetitions of what is read have their bounds in order. -/
theorem Reads.isOrdered {f : Flags} {s rest : List Char} {body : Body} (h : Reads f s body rest) :
    body.IsOrdered := by
  induction h with
  | stop =>
    intro parts hparts p hp
    cases List.mem_singleton.mp hparts
    cases hp
  | alternative _ _ ih =>
    intro parts hparts p hp
    rcases List.mem_cons.mp hparts with rfl | hparts
    · cases hp
    · exact ih parts hparts p hp
  | switch _ _ _ ih =>
    have hempty : (Piece.flat .empty).regex.IsOrdered := trivial
    exact ih.push hempty []
  | @group _ _ _ _ _ _ _ opening inner _ _ _ _ _ hp _ ihinner ih =>
    have hclose : (opening.close inner.toPiece).regex.IsOrdered := by
      cases opening <;> exact ihinner.toPiece
    exact ih.push (isOrdered_of_readRepetitions hclose hp) _
  | piece hp hq _ ih =>
    exact ih.push (isOrdered_of_readRepetitions (isOrdered_of_readAtom hp) hq) []

end RegistrySearch.Pattern
