import Mathlib.Order.BooleanAlgebra.Set
import RegistrySearch.Proofs.Record.Projection
import RegistrySearch.Proofs.Search.Exactness

/-!
# Boolean clauses and what their children match alone

On one index the positions that a boolean clause matches are put together from those of its
children. But a clause brings its own paths, and a boolean clause the paths of all its children: a
plain path and a marked one put their fields under one name, and so does the whole record with its
policies. The `BooleanLaws` hold for two clauses exactly if neither finds more, or less, among the
fields that the other one brings.

So they hold for clauses over different fields, and for those that have their own paths to their
fields; they do not hold for a regular expression and a word over one field.
-/

namespace RegistrySearch

open Query (Clause Occur)

/-- The positions of the records that a clause matches, when records are projected on given
paths. -/
def matchedOn (paths : PathSet) (c : Clause) (records : List Record) : Set Nat :=
  {i | ∃ hits, (Index.ofDocuments (records.map fun r => Record.project r paths)).evaluate c
    records.length = .ok hits ∧ i ∈ hits.map (·.doc.toNat)}

/-- The positions of the records that a clause matches, when records are projected on its paths. -/
def matched (c : Clause) (records : List Record) : Set Nat := matchedOn c.paths c records

/-- The paths of two clauses. -/
def jointPaths (c₁ c₂ : Clause) : PathSet := .ofList (c₁.leafPaths ++ c₂.leafPaths)

/-- What two clauses match together, in terms of what they match alone. -/
structure BooleanLaws (c₁ c₂ : Clause) (records : List Record) : Prop where
  should : matched (.boolean [(.should, c₁), (.should, c₂)]) records =
    matched c₁ records ∪ matched c₂ records
  must : matched (.boolean [(.must, c₁), (.must, c₂)]) records =
    matched c₁ records ∩ matched c₂ records
  mustNot : matched (.boolean [(.must, c₁), (.mustNot, c₂)]) records =
    matched c₁ records \ matched c₂ records

/-! ### One index -/

section laws

variable {paths : PathSet} {c c₁ c₂ : Clause} {records : List Record} {i : Nat}

theorem mem_matchedOn (h : c.PatternsCompile) :
    i ∈ matchedOn paths c records ↔ i < 2 ^ 32 ∧
      (Index.ofDocuments (records.map fun r => Record.project r paths)).Finds i.toUInt32 c := by
  obtain ⟨hits, he⟩ := Index.exists_evaluate
    (.ofDocuments (records.map fun r => Record.project r paths)) h records.length
  have hmem : ∀ doc : Ordinal, doc ∈ hits.map (·.doc) ↔
      (Index.ofDocuments (records.map fun r => Record.project r paths)).Finds doc c := fun doc =>
    Index.mem_evaluate_iff h (by rw [List.length_map]) he
  constructor
  · rintro ⟨hits', he', hi⟩
    obtain rfl := Except.ok.inj (he.symm.trans he')
    obtain ⟨hit, hm, rfl⟩ := List.mem_map.mp hi
    rw [Nat.toUInt32, UInt32.ofNat_toNat]
    exact ⟨UInt32.toNat_lt hit.doc, (hmem hit.doc).mp (List.mem_map_of_mem hm)⟩
  · rintro ⟨hi, hfinds⟩
    obtain ⟨hit, hm, hd⟩ := List.mem_map.mp ((hmem i.toUInt32).mpr hfinds)
    exact ⟨hits, he, List.mem_map.mpr ⟨hit, hm, by rw [hd, UInt32.toNat_ofNat_of_lt' hi]⟩⟩

theorem patternsCompile_pair (h₁ : c₁.PatternsCompile) (h₂ : c₂.PatternsCompile) (o₁ o₂ : Occur) :
    (Clause.boolean [(o₁, c₁), (o₂, c₂)]).PatternsCompile := by
  refine Clause.patternsCompile_boolean.mpr fun c hc => ?_
  simp only [List.mem_cons, List.not_mem_nil, or_false] at hc
  obtain rfl | rfl := hc
  · exact h₁
  · exact h₂

theorem paths_pair (o₁ o₂ : Occur) :
    (Clause.boolean [(o₁, c₁), (o₂, c₂)]).paths = jointPaths c₁ c₂ := by
  simp only [Clause.paths, Clause.leafPaths, Clause.leafPathsOf, List.append_nil, jointPaths]

/-- Alternatives match on one index what one of them matches. -/
theorem matchedOn_should (h₁ : c₁.PatternsCompile) (h₂ : c₂.PatternsCompile) :
    matchedOn paths (.boolean [(.should, c₁), (.should, c₂)]) records =
      matchedOn paths c₁ records ∪ matchedOn paths c₂ records := by
  ext i
  have h := patternsCompile_pair h₁ h₂ .should .should
  rw [Set.mem_union, mem_matchedOn h, mem_matchedOn h₁, mem_matchedOn h₂, Index.finds_boolean h,
    ← and_or_left]
  refine and_congr_right fun _ => ?_
  simp

/-- Required clauses match on one index what both of them match. -/
theorem matchedOn_must (h₁ : c₁.PatternsCompile) (h₂ : c₂.PatternsCompile) :
    matchedOn paths (.boolean [(.must, c₁), (.must, c₂)]) records =
      matchedOn paths c₁ records ∩ matchedOn paths c₂ records := by
  ext i
  have h := patternsCompile_pair h₁ h₂ .must .must
  rw [Set.mem_inter_iff, mem_matchedOn h, mem_matchedOn h₁, mem_matchedOn h₂,
    Index.finds_boolean h, ← and_and_left]
  refine and_congr_right fun _ => ?_
  simp

/-- A required clause and an excluded one match on one index what the first one matches and the
second one does not. -/
theorem matchedOn_mustNot (h₁ : c₁.PatternsCompile) (h₂ : c₂.PatternsCompile) :
    matchedOn paths (.boolean [(.must, c₁), (.mustNot, c₂)]) records =
      matchedOn paths c₁ records \ matchedOn paths c₂ records := by
  ext i
  have h := patternsCompile_pair h₁ h₂ .must .mustNot
  rw [Set.mem_sdiff, mem_matchedOn h, mem_matchedOn h₁, mem_matchedOn h₂, Index.finds_boolean h]
  simp only [List.mem_cons, List.not_mem_nil, or_false, forall_eq_or_imp, forall_eq,
    exists_eq_or_imp, exists_eq_left, reduceCtorEq, true_implies, false_implies, true_and, and_true,
    true_or]
  constructor
  · rintro ⟨hi, hfirst, hsecond⟩
    exact ⟨⟨hi, hfirst⟩, fun h => hsecond h.2⟩
  · rintro ⟨⟨hi, hfirst⟩, hsecond⟩
    exact ⟨hi, hfirst, fun h => hsecond ⟨hi, h⟩⟩

/-- By a scan: the positions of the records whose documents satisfy the clause. -/
theorem mem_matchedOn_iff_satisfies (h : c.PatternsCompile)
    (fits : FitsWords (records.map fun r => Record.project r paths) c) :
    i ∈ matchedOn paths c records ↔
      ∃ r, records[i]? = some r ∧ (Record.project r paths).Satisfies c := by
  rw [mem_matchedOn h, Index.finds_ofDocuments fits h]
  have hlength := fits.ordinals
  rw [List.length_map] at hlength
  constructor
  · rintro ⟨hi, hlt, hs⟩
    simp only [UInt32.toNat_ofNat_of_lt' hi, List.length_map, List.getElem_map] at hlt hs
    exact ⟨_, List.getElem?_eq_getElem hlt, hs⟩
  · rintro ⟨r, hr, hs⟩
    obtain ⟨hlt, rfl⟩ := List.getElem?_eq_some_iff.mp hr
    have hi : i < 2 ^ 32 := Nat.lt_of_lt_of_le hlt hlength
    refine ⟨hi, ?_⟩
    simp only [UInt32.toNat_ofNat_of_lt' hi, List.length_map, List.getElem_map]
    exact ⟨hlt, hs⟩

/-! ### Joint paths -/

/-- What two clauses match together is put together from what they match on the paths of both. -/
theorem matched_pair (records : List Record) (h₁ : c₁.PatternsCompile)
    (h₂ : c₂.PatternsCompile) :
    matched (.boolean [(.should, c₁), (.should, c₂)]) records =
        matchedOn (jointPaths c₁ c₂) c₁ records ∪ matchedOn (jointPaths c₁ c₂) c₂ records ∧
      matched (.boolean [(.must, c₁), (.must, c₂)]) records =
        matchedOn (jointPaths c₁ c₂) c₁ records ∩ matchedOn (jointPaths c₁ c₂) c₂ records ∧
      matched (.boolean [(.must, c₁), (.mustNot, c₂)]) records =
        matchedOn (jointPaths c₁ c₂) c₁ records \ matchedOn (jointPaths c₁ c₂) c₂ records := by
  refine ⟨?_, ?_, ?_⟩
  · rw [matched, paths_pair, matchedOn_should h₁ h₂]
  · rw [matched, paths_pair, matchedOn_must h₁ h₂]
  · rw [matched, paths_pair, matchedOn_mustNot h₁ h₂]

/-- Clauses that match on the paths of both what they match on their own obey the boolean laws. -/
theorem booleanLaws_of_matchedOn (h₁ : c₁.PatternsCompile) (h₂ : c₂.PatternsCompile)
    (hfirst : matchedOn (jointPaths c₁ c₂) c₁ records = matched c₁ records)
    (hsecond : matchedOn (jointPaths c₁ c₂) c₂ records = matched c₂ records) :
    BooleanLaws c₁ c₂ records := by
  obtain ⟨hshould, hmust, hmustNot⟩ := matched_pair records h₁ h₂
  exact ⟨by rw [hshould, hfirst, hsecond], by rw [hmust, hfirst, hsecond],
    by rw [hmustNot, hfirst, hsecond]⟩

/-- **Boolean laws.** Two clauses match together what the boolean laws say exactly if each of them
matches on the paths of both what it matches on its own. -/
theorem booleanLaws_iff (h₁ : c₁.PatternsCompile) (h₂ : c₂.PatternsCompile) :
    BooleanLaws c₁ c₂ records ↔
      matchedOn (jointPaths c₁ c₂) c₁ records = matched c₁ records ∧
      matchedOn (jointPaths c₁ c₂) c₂ records = matched c₂ records := by
  refine ⟨fun laws => ?_, fun ⟨hfirst, hsecond⟩ => booleanLaws_of_matchedOn h₁ h₂ hfirst hsecond⟩
  obtain ⟨hshould, hmust, hmustNot⟩ := matched_pair records h₁ h₂
  have should := hshould.symm.trans laws.should
  have must := hmust.symm.trans laws.must
  have mustNot := hmustNot.symm.trans laws.mustNot
  -- a set is its part in another one together with its part outside
  have hfirst : matchedOn (jointPaths c₁ c₂) c₁ records = matched c₁ records := by
    rw [← Set.inter_union_sdiff (matchedOn (jointPaths c₁ c₂) c₁ records)
      (matchedOn (jointPaths c₁ c₂) c₂ records), must, mustNot, Set.inter_union_sdiff]
  refine ⟨hfirst, ?_⟩
  rw [← Set.inter_union_sdiff (matchedOn (jointPaths c₁ c₂) c₂ records)
    (matchedOn (jointPaths c₁ c₂) c₁ records), Set.inter_comm, must, ← Set.union_sdiff_left,
    should, hfirst, Set.union_sdiff_left, Set.inter_comm, Set.inter_union_sdiff]

/-! A regular expression for a whole value matches a word of it, as soon as a word is asked for in
the same field, even one that does not occur. -/

/-- A record whose name is written in capitals. -/
private abbrev casRecord : Record :=
  .object [("id", .number (.natural 1)), ("name", .string "CAS")]

/-- The expression matches in lower case only. -/
private theorem accepts_cas : ∃ regex, Pattern.regexp? "cas" = some regex ∧
    regex.accepts "cas".toList = true ∧ regex.accepts "CAS".toList = false := by
  have hany : (Pattern.regexp? "cas").any fun r =>
      r.accepts "cas".toList && !r.accepts "CAS".toList := by with_unfolding_all rfl
  obtain ⟨regex, hregex, haccepts⟩ := (Option.any_eq_true _ _).mp hany
  rw [Bool.and_eq_true, Bool.not_eq_true'] at haccepts
  exact ⟨regex, hregex, haccepts⟩

private theorem patternsCompile_cas : (Clause.regexp "name" "cas").PatternsCompile := by
  obtain ⟨regex, hregex, -⟩ := accepts_cas
  rw [Clause.patternsCompile_leaf rfl, Clause.compiles, hregex]
  rfl

private theorem fitsWords_cas {d : Document}
    (h : textTerms d.fields = [] ∨ textTerms d.fields = ["cas"]) :
    FitsWords [d] (.regexp "name" "cas") := by
  refine .of_textTerms (show 1 ≤ 2 ^ 32 by decide) (fun d' hd => ?_) fun _ _ _ _ hl => ?_
  · rw [List.mem_singleton.mp hd]
    obtain h | h := h <;> rw [h] <;> decide
  · cases List.mem_singleton.mp hl

/-- On its own the expression sees the value as it is, and nothing else. -/
private theorem zero_notMem_matched_cas : 0 ∉ matched (.regexp "name" "cas") [casRecord] := by
  have hproject : Record.project casRecord (Clause.regexp "name" "cas").paths =
      ⟨1, [.exact "id" "1", .numeric "id" 1, .exact "name" "CAS"]⟩ := rfl
  obtain ⟨regex, hregex, -, hvalue⟩ := accepts_cas
  rw [matched, mem_matchedOn_iff_satisfies patternsCompile_cas]
  · rintro ⟨r, hr, hs⟩
    cases hr
    rw [hproject] at hs
    obtain ⟨regex', hregex', term, position, hstands, haccepts⟩ := hs
    obtain rfl := Option.some.inj (hregex.symm.trans hregex')
    have hraw : term = "CAS" := by
      obtain hs | ⟨-, f, hf, hk, rfl⟩ := hstands
      · cases hs
      · have hfields : f ∈ [Field.exact "name" "CAS"] := hf
        rw [List.mem_singleton.mp hfields]
        rfl
    rw [hraw] at haccepts
    exact absurd haccepts (by simp only [hvalue, Bool.false_eq_true, not_false_iff])
  · rw [List.map_singleton, hproject]
    exact fitsWords_cas (.inl rfl)

set_option maxRecDepth 4000 in
/-- Beside a word of the same field it sees the words of the value, too. -/
private theorem zero_mem_matchedOn_cas :
    0 ∈ matchedOn (jointPaths (.regexp "name" "cas") (.term "name" "zzz")) (.regexp "name" "cas")
      [casRecord] := by
  have hproject : Record.project casRecord
      (jointPaths (.regexp "name" "cas") (.term "name" "zzz")) =
        ⟨1, [.exact "id" "1", .numeric "id" 1, .exact "name" "CAS", .text "name" "CAS"]⟩ := rfl
  have hterms : textTerms [.exact "id" "1", .numeric "id" 1, .exact "name" "CAS",
      .text "name" "CAS"] = ["cas"] := by with_unfolding_all rfl
  obtain ⟨regex, hregex, hword, -⟩ := accepts_cas
  rw [mem_matchedOn_iff_satisfies patternsCompile_cas]
  · refine ⟨_, rfl, ?_⟩
    rw [hproject]
    exact ⟨regex, hregex, "cas", 0, .inl (congrArg (·[0]?) hterms), hword⟩
  · rw [List.map_singleton, hproject]
    exact fitsWords_cas (.inr hterms)

/-- The laws fail where a regular expression stands beside a word of its field. -/
theorem not_booleanLaws_cas :
    ¬BooleanLaws (.regexp "name" "cas") (.term "name" "zzz")
      [.object [("id", .number (.natural 1)), ("name", .string "CAS")]] := by
  have hterm : (Clause.term "name" "zzz").PatternsCompile := by
    intro leaf hl
    rw [List.mem_singleton.mp hl]
    rfl
  rw [booleanLaws_iff patternsCompile_cas hterm]
  rintro ⟨h, -⟩
  have hmatched := zero_mem_matchedOn_cas
  rw [h] at hmatched
  exact zero_notMem_matched_cas hmatched

/-! ### Fields that both have -/

/-- A clause matches the same records on two sets of paths, if every leaf has the same fields to
look at. -/
theorem matchedOn_congr {paths' : PathSet} (h : c.PatternsCompile)
    (hfields : ∀ r ∈ records, ∀ leaf ∈ c.leaves, ∀ field, leaf.field? = some field →
      (Record.project r paths).fieldsNamed field = (Record.project r paths').fieldsNamed field) :
    matchedOn paths c records = matchedOn paths' c records := by
  ext i
  rw [mem_matchedOn h, mem_matchedOn h]
  refine and_congr_right fun _ => ?_
  rw [Index.finds_iff_holds h, Index.finds_iff_holds h]
  refine Clause.holds_congr fun leaf hl => ?_
  obtain ⟨field, hf⟩ := Clause.field?_of_mem_leaves hl
  have hcolumn : (records.map fun r => Record.project r paths).map (·.fieldsNamed field) =
      (records.map fun r => Record.project r paths').map (·.fieldsNamed field) := by
    rw [List.map_map, List.map_map]
    exact List.map_congr_left fun r hr => hfields r hr leaf hl field hf
  have hcount : (Index.ofDocuments (records.map fun r => Record.project r paths)).docCount =
      (Index.ofDocuments (records.map fun r => Record.project r paths')).docCount := by
    simp [Index.docCount, Index.ofDocuments]
  rw [Index.finds_leaf_ofDocuments hf (h leaf hl), Index.finds_leaf_ofDocuments hf (h leaf hl),
    hcolumn, Index.leafScores_congr hcount]

/-- **Paths.** Clauses that do not ask for the whole record obey the boolean laws, if the paths of
both bring no path to a field that a clause asks for but its own. -/
theorem booleanLaws_of_paths (h₁ : c₁.PatternsCompile) (h₂ : c₂.PatternsCompile)
    (hbody : ∀ p ∈ c₁.leafPaths ++ c₂.leafPaths, p.isBody = false)
    (hfirst : ∀ leaf ∈ c₁.leaves, ∀ field, leaf.field? = some field →
      (jointPaths c₁ c₂).paths.filter (·.unmarked = field) =
        c₁.paths.paths.filter (·.unmarked = field))
    (hsecond : ∀ leaf ∈ c₂.leaves, ∀ field, leaf.field? = some field →
      (jointPaths c₁ c₂).paths.filter (·.unmarked = field) =
        c₂.paths.paths.filter (·.unmarked = field)) :
    BooleanLaws c₁ c₂ records := by
  have hfields : ∀ c : Clause, (∀ p ∈ c.leafPaths, p.isBody = false) → ∀ field,
      (jointPaths c₁ c₂).paths.filter (·.unmarked = field) =
        c.paths.paths.filter (·.unmarked = field) →
      ∀ r, (Record.project r (jointPaths c₁ c₂)).fieldsNamed field =
        (Record.project r c.paths).fieldsNamed field := by
    intro c hc field hsame r
    have hjoint : ∀ p ∈ (jointPaths c₁ c₂).paths, p.isBody = false := fun p hp =>
      hbody p (PathSet.mem_paths_ofList.mp hp)
    have hown : ∀ p ∈ c.paths.paths, p.isBody = false := fun p hp =>
      hc p (PathSet.mem_paths_ofList.mp hp)
    rw [Record.fieldsNamed_project hjoint, Record.fieldsNamed_project hown, hsame]
  refine booleanLaws_of_matchedOn h₁ h₂ (matchedOn_congr h₁ ?_) (matchedOn_congr h₂ ?_)
  · intro r _ leaf hl field hf
    exact hfields c₁ (fun p hp => hbody p (List.mem_append_left _ hp)) field
      (hfirst leaf hl field hf) r
  · intro r _ leaf hl field hf
    exact hfields c₂ (fun p hp => hbody p (List.mem_append_right _ hp)) field
      (hsecond leaf hl field hf) r

/-- **Different fields.** Clauses of which neither has a path to a field of the other, nor asks for
the whole record, obey the boolean laws. -/
theorem booleanLaws_of_disjoint (h₁ : c₁.PatternsCompile) (h₂ : c₂.PatternsCompile)
    (hbody : ∀ p ∈ c₁.leafPaths ++ c₂.leafPaths, p.isBody = false)
    (hfirst : ∀ leaf ∈ c₁.leaves, ∀ p ∈ c₂.leafPaths, leaf.field? ≠ some p.unmarked)
    (hsecond : ∀ leaf ∈ c₂.leaves, ∀ p ∈ c₁.leafPaths, leaf.field? ≠ some p.unmarked) :
    BooleanLaws c₁ c₂ records := by
  refine booleanLaws_of_paths h₁ h₂ hbody ?_ ?_
  · intro leaf hl field hf
    have hnone : c₂.leafPaths.filter (·.unmarked = field) = [] :=
      List.filter_eq_nil_iff.mpr fun p hp he =>
        hfirst leaf hl p hp (by rw [hf, of_decide_eq_true he])
    rw [jointPaths, Clause.paths, PathSet.filter_paths_ofList, PathSet.filter_paths_ofList,
      List.filter_append, hnone, List.append_nil]
  · intro leaf hl field hf
    have hnone : c₁.leafPaths.filter (·.unmarked = field) = [] :=
      List.filter_eq_nil_iff.mpr fun p hp he =>
        hsecond leaf hl p hp (by rw [hf, of_decide_eq_true he])
    rw [jointPaths, Clause.paths, PathSet.filter_paths_ofList, PathSet.filter_paths_ofList,
      List.filter_append, hnone, List.nil_append]

end laws

end RegistrySearch
