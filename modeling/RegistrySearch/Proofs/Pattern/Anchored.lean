import RegistrySearch.Proofs.Pattern.Bounds
import RegistrySearch.Proofs.Pattern.Enclosing

/-!
# Patterns match as a whole

Between its ties a pattern accepts the texts that it matches as a whole (`MatchesWhole`). The ties
take room (`HasRoom`): the group and the concatenation are two levels of nesting and the ties
themselves two states, so that a pattern at the limits is an expression by itself and none between
its ties.

Whether a pattern is accepted can differ from whether it is an expression in one more way: a pattern
may slip its ties (`SlipsTies`), as it misses the parenthesis behind it. Apart from these two, the
patterns that are accepted are the expressions (`isSome_regexp?_iff_compile?_iff`).
-/

namespace RegistrySearch.Pattern

/-- A pattern is an expression by itself, and the expression matches a text as a whole. -/
def MatchesWhole (pattern : String) (text : List Char) : Prop :=
  ∃ r ∈ Regex.compile? pattern, r.Matches text 0 text.length

variable {pattern : String}

/-! ### Limits -/

/-- The room that ties take is within the limits. -/
def HasRoom (pattern : String) : Prop :=
  ∀ p ∈ wholePiece? pattern, p.depth + 2 ≤ depthLimit ∧
    ∀ isBackward, p.regex.size isBackward + 2 * stateSize ≤ Regex.sizeLimit

namespace Regex

theorem size_tied (isBackward : Bool) (r : Regex) :
    r.tied.size isBackward = r.size isBackward + 2 * stateSize := by
  simp only [size, tied, sizeFrom]
  simp
  omega

theorem isWithinLimit_iff {r : Regex} :
    r.isWithinLimit ↔ ∀ isBackward, r.size isBackward ≤ sizeLimit := by
  simp [isWithinLimit]

theorem isWithinLimit_tied {r : Regex} :
    r.tied.isWithinLimit ↔ ∀ isBackward, r.size isBackward + 2 * stateSize ≤ sizeLimit := by
  simp only [isWithinLimit_iff, size_tied]

end Regex

/-- A text is an expression if it is read as a piece within the limits. -/
theorem compile?_eq_some_iff {text : String} {r : Regex} :
    Regex.compile? text = some r ↔
      ∃ p, wholePiece? text = some p ∧ p.depth ≤ depthLimit ∧ p.regex.isWithinLimit ∧
        p.regex = r := by
  rw [Regex.compile?, ofText?_eq]
  cases wholePiece? text with
  | none => simp
  | some p =>
    by_cases hdepth : p.depth ≤ depthLimit
    · by_cases hsize : p.regex.isWithinLimit <;> simp [hdepth, hsize, Option.filter]
    · simp [hdepth]

theorem isOrdered_of_wholePiece? {text : String} {p : Piece} (h : wholePiece? text = some p) :
    p.regex.IsOrdered := by
  unfold wholePiece? at h
  cases hbody : given (readBody .initial text.toList) with
  | none =>
    rw [hbody] at h
    cases h
  | some x =>
    obtain ⟨body, rest⟩ := x
    rw [hbody] at h
    cases rest with
    | cons c rest => cases h
    | nil =>
      dsimp only [pieceOf?] at h
      split at h
      · cases h
        exact (reads_of_readBody hbody).isOrdered.toPiece
      · cases h

/-! ### Patterns that miss their ties -/

/-- A pattern misses the parenthesis behind it, and is for that reason accepted though it is no
expression, or refused though it is one. -/
def SlipsTies (pattern : String) : Prop :=
  (Overcloses pattern ∧ (regexp? pattern).isSome) ∨
    (EndsInRemark pattern ∧ (Regex.compile? pattern).isSome)

theorem compile?_of_overcloses (h : Overcloses pattern) : Regex.compile? pattern = none := by
  rw [Regex.compile?, ofText?_eq, wholePiece?_of_overcloses h]
  rfl

theorem regexp?_of_endsInRemark (h : EndsInRemark pattern) : regexp? pattern = none := by
  rw [regexp?, Regex.compile?, ofText?_eq, wholePiece?_tiedText_of_endsInRemark h]
  rfl

theorem not_overcloses (h : (Regex.compile? pattern).isSome) : ¬Overcloses pattern := by
  intro hover
  rw [compile?_of_overcloses hover] at h
  cases h

theorem not_endsInRemark (h : (regexp? pattern).isSome) : ¬EndsInRemark pattern := by
  intro hremark
  rw [regexp?_of_endsInRemark hremark] at h
  cases h

/-- What is an expression both by itself and between its ties does not miss them. -/
theorem not_slipsTies (halone : (Regex.compile? pattern).isSome)
    (htied : (regexp? pattern).isSome) : ¬SlipsTies pattern := by
  rintro (⟨hover, -⟩ | ⟨hremark, -⟩)
  · exact not_overcloses halone hover
  · exact not_endsInRemark htied hremark

/-! ### Anchored patterns -/

/-- A pattern that is accepted is read between its ties, unless it closes the group around it. -/
theorem exists_of_regexp? (hover : ¬Overcloses pattern) {whole : Regex}
    (h : regexp? pattern = some whole) :
    ∃ p, wholePiece? pattern = some p ∧ whole = p.regex.tied ∧ p.depth + 2 ≤ depthLimit ∧
      p.regex.tied.isWithinLimit := by
  have hremark : ¬EndsInRemark pattern := not_endsInRemark (Option.isSome_of_eq_some h)
  obtain ⟨q, hq, hdepth, hsize, rfl⟩ := compile?_eq_some_iff.mp h
  rw [wholePiece?_tiedText hover hremark] at hq
  obtain ⟨p, hp, rfl⟩ := Option.map_eq_some_iff.mp hq
  exact ⟨p, hp, rfl, hdepth, hsize⟩

/-- A pattern that is accepted is an expression that has room for the ties. -/
theorem hasRoom_of_regexp? (hover : ¬Overcloses pattern) (h : (regexp? pattern).isSome) :
    (Regex.compile? pattern).isSome ∧ HasRoom pattern := by
  obtain ⟨whole, h⟩ := Option.isSome_iff_exists.mp h
  obtain ⟨p, hp, -, hdepth, hsize⟩ := exists_of_regexp? hover h
  have hroom := Regex.isWithinLimit_tied.mp hsize
  have halone : p.regex.isWithinLimit :=
    Regex.isWithinLimit_iff.mpr fun isBackward => Nat.le_of_add_right_le (hroom isBackward)
  have hcompile : Regex.compile? pattern = some p.regex :=
    compile?_eq_some_iff.mpr ⟨p, hp, Nat.le_of_add_right_le hdepth, halone, rfl⟩
  refine ⟨Option.isSome_of_eq_some hcompile, ?_⟩
  intro q hq
  rw [Option.mem_def, hp] at hq
  cases hq
  exact ⟨hdepth, hroom⟩

/-- **Accepted patterns.** Unless it misses its ties, a pattern is accepted if and only if it is an
expression by itself and has room for the ties. -/
theorem isSome_regexp?_iff (h : ¬SlipsTies pattern) :
    (regexp? pattern).isSome ↔ (Regex.compile? pattern).isSome ∧ HasRoom pattern := by
  constructor
  · intro hsome
    exact hasRoom_of_regexp? (fun hover => h (.inl ⟨hover, hsome⟩)) hsome
  · rintro ⟨hsome, hroom⟩
    have hover : ¬Overcloses pattern := not_overcloses hsome
    have hremark : ¬EndsInRemark pattern := fun hremark => h (.inr ⟨hremark, hsome⟩)
    obtain ⟨r, hr⟩ := Option.isSome_iff_exists.mp hsome
    obtain ⟨p, hp, -, -, -⟩ := compile?_eq_some_iff.mp hr
    obtain ⟨hdepth, hsize⟩ := hroom p hp
    have htied : wholePiece? (tiedText pattern) = some p.tied := by
      rw [wholePiece?_tiedText hover hremark, hp]
      rfl
    have hregexp : regexp? pattern = some p.regex.tied :=
      compile?_eq_some_iff.mpr ⟨p.tied, htied, hdepth, Regex.isWithinLimit_tied.mpr hsize, rfl⟩
    exact Option.isSome_of_eq_some hregexp

/-- **Anchored patterns.** A pattern that is accepted accepts the texts that it matches as a whole,
unless it closes the group around it. -/
theorem accepts_regexp?_iff (hover : ¬Overcloses pattern) {whole : Regex}
    (h : regexp? pattern = some whole) (text : List Char) :
    whole.accepts text ↔ MatchesWhole pattern text := by
  obtain ⟨p, hp, rfl, -, -⟩ := exists_of_regexp? hover h
  have hsome := (hasRoom_of_regexp? hover (Option.isSome_of_eq_some h)).1
  obtain ⟨r, hr⟩ := Option.isSome_iff_exists.mp hsome
  have hregex : r = p.regex := by
    obtain ⟨q, hq, -, -, rfl⟩ := compile?_eq_some_iff.mp hr
    rw [hp] at hq
    cases hq
    rfl
  subst hregex
  rw [Regex.accepts_tied (isOrdered_of_wholePiece? hp)]
  constructor
  · exact fun hmatches => ⟨p.regex, hr, hmatches⟩
  · rintro ⟨r, hmem, hmatches⟩
    rw [Option.mem_def, hr] at hmem
    cases hmem
    exact hmatches

/-- Whether a pattern is accepted and whether it is an expression are different questions just for
those patterns that miss their ties or have no room for them. -/
theorem isSome_regexp?_iff_compile?_iff :
    ((regexp? pattern).isSome ↔ (Regex.compile? pattern).isSome) ↔
      ¬SlipsTies pattern ∧ ((Regex.compile? pattern).isSome → HasRoom pattern) := by
  constructor
  · intro h
    have hslip : ¬SlipsTies pattern := by
      rintro (⟨hover, hsome⟩ | ⟨hremark, hsome⟩)
      · exact not_overcloses (h.mp hsome) hover
      · exact not_endsInRemark (h.mpr hsome) hremark
    exact ⟨hslip, fun hsome => ((isSome_regexp?_iff hslip).mp (h.mpr hsome)).2⟩
  · rintro ⟨hslip, hroom⟩
    rw [isSome_regexp?_iff hslip]
    exact ⟨And.left, fun hsome => ⟨hsome, hroom hsome⟩⟩

end RegistrySearch.Pattern
