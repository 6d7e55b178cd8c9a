import RegistrySearch.Proofs.Pattern.Anchored
import RegistrySearch.Service.Caller

/-!
# The patterns of callers

A caller with patterns sees the records whose service one of the patterns matches as a whole. The
patterns are tied to both ends like those of terms, so what is said here of one kind holds of the
other.
-/

namespace RegistrySearch

open Pattern

/-- If there is an image of every element, then the images are those of a list. -/
theorem map_eq_of_mapM {α β : Type} {f : α → Option β} {xs : List α} {ys : List β}
    (h : xs.mapM f = some ys) : xs.map f = ys.map some := by
  induction xs generalizing ys with
  | nil =>
    cases h
    rfl
  | cons x xs ih =>
    rw [List.mapM_cons] at h
    obtain ⟨y, hy, h⟩ := Option.bind_eq_some_iff.mp h
    obtain ⟨zs, hzs, h⟩ := Option.bind_eq_some_iff.mp h
    cases h
    rw [List.map_cons, List.map_cons, hy, ih hzs]

namespace Caller

variable {name : String} {patterns : List String} {caller : Caller}

/-- The texts that some of the patterns of a list accept. -/
private theorem any_accepts_iff {allowed : List Regex}
    (hmap : patterns.map regexp? = allowed.map some)
    (hover : ∀ pattern ∈ patterns, ¬Overcloses pattern) (text : List Char) :
    (allowed.any fun regex => regex.accepts text) ↔
      ∃ pattern ∈ patterns, MatchesWhole pattern text := by
  rw [List.any_eq_true]
  constructor
  · rintro ⟨whole, hwhole, haccepts⟩
    have hmem : some whole ∈ patterns.map regexp? := hmap ▸ List.mem_map_of_mem hwhole
    obtain ⟨pattern, hpattern, h⟩ := List.mem_map.mp hmem
    exact ⟨pattern, hpattern, (accepts_regexp?_iff (hover pattern hpattern) h text).mp haccepts⟩
  · rintro ⟨pattern, hpattern, hmatches⟩
    have hmem : regexp? pattern ∈ allowed.map some := hmap ▸ List.mem_map_of_mem hpattern
    obtain ⟨whole, hwhole, h⟩ := List.mem_map.mp hmem
    exact ⟨whole, hwhole, (accepts_regexp?_iff (hover pattern hpattern) h.symm text).mpr hmatches⟩

/-- A caller with patterns sees the records whose service one of them matches as a whole, and all
records if there are none. -/
theorem sees_withPatterns? (hstar : "*" ∉ patterns)
    (hslip : ∀ pattern ∈ patterns, ¬SlipsTies pattern)
    (h : withPatterns? name patterns = some caller) :
    (∀ pattern ∈ patterns, (Regex.compile? pattern).isSome) ∧
      ∀ record, caller.sees record ↔ patterns = [] ∨
        ∃ pattern ∈ patterns, MatchesWhole pattern (Record.textAt record "serviceId").toList := by
  cases hempty : patterns.isEmpty with
  | true =>
    obtain rfl := List.isEmpty_iff.mp hempty
    cases h
    exact ⟨fun _ hmem => absurd hmem List.not_mem_nil, fun _ => ⟨fun _ => .inl rfl, fun _ => rfl⟩⟩
  | false =>
    have hcontains : patterns.contains "*" = false := by
      rw [← Bool.not_eq_true, List.contains_iff_mem]
      exact hstar
    rw [withPatterns?, hempty, hcontains] at h
    obtain ⟨allowed, hallowed, rfl⟩ := Option.map_eq_some_iff.mp h
    have hmap := map_eq_of_mapM hallowed
    have hsome : ∀ pattern ∈ patterns, (regexp? pattern).isSome := by
      intro pattern hpattern
      have hmem : regexp? pattern ∈ allowed.map some := hmap ▸ List.mem_map_of_mem hpattern
      obtain ⟨whole, -, hwhole⟩ := List.mem_map.mp hmem
      exact Option.isSome_of_eq_some hwhole.symm
    have hover : ∀ pattern ∈ patterns, ¬Overcloses pattern := fun pattern hpattern hover =>
      hslip pattern hpattern (.inl ⟨hover, hsome pattern hpattern⟩)
    refine ⟨fun pattern hpattern => ?_, fun record => ?_⟩
    · exact (hasRoom_of_regexp? (hover pattern hpattern) (hsome pattern hpattern)).1
    · have hne : patterns ≠ [] := by
        rintro rfl
        cases hempty
      rw [or_iff_right hne]
      exact any_accepts_iff hmap hover _

/-- **Anchored patterns.** A pattern over terms is accepted if and only if it is an expression by
itself and has room for its ties, and then it accepts the terms that it matches as a whole, unless
it misses its ties. Under the same condition the patterns of a caller are expressions by themselves,
and the caller sees a record if and only if there are no patterns or one of them matches the whole
service of the record. -/
theorem patterns_anchored :
    (∀ pattern, ¬SlipsTies pattern →
      ((regexp? pattern).isSome ↔ (Regex.compile? pattern).isSome ∧ HasRoom pattern) ∧
        ∀ whole ∈ regexp? pattern, ∀ term, whole.accepts term ↔ MatchesWhole pattern term) ∧
      ∀ name patterns caller, "*" ∉ patterns → (∀ pattern ∈ patterns, ¬SlipsTies pattern) →
        withPatterns? name patterns = some caller →
          (∀ pattern ∈ patterns, (Regex.compile? pattern).isSome) ∧
            ∀ record, caller.sees record ↔ patterns = [] ∨
              ∃ pattern ∈ patterns,
                MatchesWhole pattern (Record.textAt record "serviceId").toList := by
  refine ⟨fun pattern hslip => ⟨isSome_regexp?_iff hslip, ?_⟩, ?_⟩
  · intro whole hwhole
    have hover : ¬Overcloses pattern := fun hover =>
      hslip (.inl ⟨hover, Option.isSome_of_eq_some hwhole⟩)
    exact accepts_regexp?_iff hover hwhole
  · intro name patterns caller hstar hslip h
    exact sees_withPatterns? hstar hslip h

/-- An alternative, over terms and over the services of records. -/
theorem patterns_anchored_alternative :
    (∃ whole, regexp? "cas|wiki" = some whole ∧
      ∀ term, whole.accepts term ↔ MatchesWhole "cas|wiki" term) ∧
    ∃ caller, withPatterns? "bob" ["cas|wiki"] = some caller ∧
      ∀ record, caller.sees record ↔
        MatchesWhole "cas|wiki" (Record.textAt record "serviceId").toList := by
  have halone : (Regex.compile? "cas|wiki").isSome := by decide +kernel
  have htied : (regexp? "cas|wiki").isSome := by decide +kernel
  have hslip : ¬SlipsTies "cas|wiki" := not_slipsTies halone htied
  have hcaller : (withPatterns? "bob" ["cas|wiki"]).isSome := by decide +kernel
  obtain ⟨whole, hwhole⟩ := Option.isSome_iff_exists.mp htied
  obtain ⟨caller, hcaller⟩ := Option.isSome_iff_exists.mp hcaller
  have hterms := (patterns_anchored.1 "cas|wiki" hslip).2 whole hwhole
  have hrecords := (patterns_anchored.2 "bob" ["cas|wiki"] caller (by decide)
    (by simpa using hslip) hcaller).2
  refine ⟨⟨whole, hwhole, hterms⟩, caller, hcaller, fun record => ?_⟩
  rw [hrecords record]
  simp

/-- A letter in groups, one less than may be nested in each other. -/
def nestedLetter : String :=
  String.ofList (List.replicate 249 '(' ++ 'a' :: List.replicate 249 ')')

private theorem wholePiece?_nestedLetter :
    ∃ p, wholePiece? nestedLetter = some p ∧ p.depth = 249 ∧ p.regex.isWithinLimit := by
  have htext : nestedLetter.toList = List.replicate 249 '(' ++ 'a' :: List.replicate 249 ')' :=
    String.toList_ofList
  have hpiece : (wholePiece? nestedLetter).any fun p =>
      p.depth = 249 && p.regex.isWithinLimit := by
    rw [wholePiece?, htext]
    decide +kernel
  obtain ⟨p, hp, h⟩ := (Option.any_eq_true _ _).mp hpiece
  rw [Bool.and_eq_true, decide_eq_true_iff] at h
  exact ⟨p, hp, h⟩

/-- Without patterns a record is seen though none matches its service. A parenthesis that closes the
group makes `a)|(?:b` accepted, which is no expression, and accept more than `a` and `b`; a remark
that takes the parenthesis behind it makes an expression refused, and so do groups that leave the
ties no room. -/
theorem patterns_not_anchored :
    (∃ caller, withPatterns? "frank" [] = some caller ∧ caller.sees (.object []) ∧
      ¬∃ pattern ∈ ([] : List String),
        MatchesWhole pattern (Record.textAt (.object []) "serviceId").toList) ∧
    (Regex.compile? "a)|(?:b" = none ∧
      ∃ whole, regexp? "a)|(?:b" = some whole ∧ whole.accepts "axx".toList) ∧
    ((Regex.compile? "(?x)a #c").isSome ∧ regexp? "(?x)a #c" = none) ∧
    ((Regex.compile? nestedLetter).isSome ∧ regexp? nestedLetter = none) := by
  refine ⟨⟨_, rfl, rfl, by simp⟩, ⟨by decide +kernel, ?_⟩, by decide +kernel, ?_⟩
  · exact (Option.any_eq_true _ _).mp (by decide +kernel)
  · obtain ⟨p, hp, hdepth, hsize⟩ := wholePiece?_nestedLetter
    have halone : Regex.compile? nestedLetter = some p.regex :=
      compile?_eq_some_iff.mpr ⟨p, hp, by rw [hdepth]; decide, hsize, rfl⟩
    have hsome := Option.isSome_of_eq_some halone
    refine ⟨hsome, Option.eq_none_iff_forall_ne_some.mpr fun whole hwhole => ?_⟩
    -- the group and the concatenation are one level too many
    obtain ⟨q, hq, -, hroom, -⟩ := exists_of_regexp? (not_overcloses hsome) hwhole
    rw [hp] at hq
    cases hq
    rw [hdepth] at hroom
    exact absurd hroom (by decide)

end Caller

end RegistrySearch
