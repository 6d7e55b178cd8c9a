import RegistrySearch.Proofs.Bisection
import RegistrySearch.Proofs.Index.Column
import RegistrySearch.Search.Evaluation

/-!
# What leaves match

In an ordered index bisection finds what is there, so every leaf is described by the occurrences of
terms in documents: a term by one occurrence, a phrase by occurrences in a row, patterns and ranges
by the terms and points that they accept.
-/

namespace RegistrySearch

/-- If a list can be mapped and the results satisfy a predicate at their places, each element can be
mapped so, and conversely. -/
private theorem exists_mapM_and_zipIdx {α β : Type} {f : α → Option β} {P : β → Nat → Prop}
    {xs : List α} {k : Nat} :
    (∃ ys, xs.mapM f = some ys ∧ ∀ y i, (y, i) ∈ ys.zipIdx k → P y i) ↔
      ∀ x i, (x, i) ∈ xs.zipIdx k → ∃ y, f x = some y ∧ P y i := by
  induction xs generalizing k with
  | nil => simp
  | cons x xs ih =>
    simp only [List.mapM_cons, List.zipIdx_cons, List.mem_cons, Prod.mk.injEq]
    constructor
    · rintro ⟨ys, h, hP⟩
      obtain ⟨y, hy, h⟩ := Option.bind_eq_some_iff.mp h
      obtain ⟨ys, hys, h⟩ := Option.bind_eq_some_iff.mp h
      cases h
      rintro x i (⟨rfl, rfl⟩ | hx)
      · exact ⟨y, hy, hP y i (by simp)⟩
      · exact ih.mp ⟨ys, hys, fun y i h => hP y i (by simp [h])⟩ x i hx
    · intro h
      obtain ⟨y, hy, hP⟩ := h x k (.inl ⟨rfl, rfl⟩)
      obtain ⟨ys, hys, hPs⟩ := ih.mpr fun x i hx => h x i (.inr hx)
      refine ⟨y :: ys, by simp [hy, hys], ?_⟩
      simp only [List.zipIdx_cons, List.mem_cons, Prod.mk.injEq]
      rintro y i (⟨rfl, rfl⟩ | hm)
      · exact hP
      · exact hPs y i hm

/-! ### Look-ups by bisection -/

theorem PostingList.find?_eq_some_iff {list : PostingList}
    (asc : list.postings.toList.Pairwise fun p q => p.doc < q.doc) {doc : Ordinal} {p : Posting} :
    list.find? doc = some p ↔ p ∈ list.postings.toList ∧ p.doc = doc := by
  rw [PostingList.find?]
  constructor
  · intro h
    split at h
    · next q hq =>
      split at h
      · next hd =>
        cases h
        exact ⟨Array.mem_toList_iff.mpr (Array.mem_of_getElem? hq), hd⟩
      · cases h
    · cases h
  · rintro ⟨h, rfl⟩
    obtain ⟨i, hi, rfl⟩ := Array.getElem_of_mem (Array.mem_toList_iff.mp h)
    rw [bisect_eq asc hi, Array.getElem?_eq_getElem hi]
    simp

theorem Posting.standsAt_iff {p : Posting} (asc : p.positions.toList.Pairwise (· < ·))
    {position : UInt32} : p.standsAt position ↔ position ∈ p.positions.toList := by
  rw [Posting.standsAt, decide_eq_true_iff]
  constructor
  · intro h
    exact Array.mem_toList_iff.mpr (Array.mem_of_getElem? h)
  · intro h
    obtain ⟨i, hi, rfl⟩ := Array.getElem_of_mem (Array.mem_toList_iff.mp h)
    have hfound : bisect (fun q => decide (p.positions[i] < q)) p.positions = i :=
      bisect_eq (show p.positions.toList.Pairwise fun q r => id q < id r from asc) hi
    rw [hfound, Array.getElem?_eq_getElem hi]

theorem Posting.phraseFrequency_ne_zero {first : Posting} {following : List Posting} :
    first.phraseFrequency following ≠ 0 ↔
      ∃ start ∈ first.positions.toList, ∀ p i, (p, i) ∈ following.zipIdx →
        p.standsAt (start + i.toUInt32 + 1) := by
  simp [Posting.phraseFrequency]

namespace FieldIndex

variable {index : Index} {f : FieldIndex} {doc : Ordinal}

/-- Of an ordered index the occurrences can be looked up. -/
theorem IsOrdered.occurs_iff (ordered : f.IsOrdered) {term : String} {position : UInt32} :
    f.Occurs term doc position ↔
      ∃ list, f.terms.get? term = some list ∧
        ∃ p, list.find? doc = some p ∧ p.standsAt position := by
  refine exists_congr fun list => and_congr_right fun hl => exists_congr fun p => ?_
  rw [PostingList.find?_eq_some_iff (ordered.postings term list hl), and_assoc]
  refine and_congr_right fun hp => and_congr_right fun _ => ?_
  exact (Posting.standsAt_iff (ordered.positions term list hl p hp).1).symm

/-! ### Leaves -/

/-- A document has a posting of a term. -/
def HasPosting (f : FieldIndex) (term : String) (doc : Ordinal) : Prop :=
  ∃ list, f.terms.get? term = some list ∧ ∃ p ∈ list.postings.toList, p.doc = doc

/-- Postings of an ordered index have positions. -/
theorem IsOrdered.hasPosting_iff (ordered : f.IsOrdered) {term : String} :
    f.HasPosting term doc ↔ ∃ position, f.Occurs term doc position := by
  constructor
  · rintro ⟨list, hl, p, hp, hdoc⟩
    obtain ⟨position, hpos⟩ := List.exists_mem_of_ne_nil _ (ordered.positions term list hl p hp).2
    exact ⟨position, list, hl, p, hp, hdoc, hpos⟩
  · rintro ⟨position, list, hl, p, hp, hdoc, -⟩
    exact ⟨list, hl, p, hp, hdoc⟩

/-- **Terms.** -/
theorem mem_termScores {text : String} :
    doc ∈ (index.termScores f text).keys ↔ f.HasPosting text doc := by
  rw [Index.termScores]
  constructor
  · intro h
    split at h
    · next list hl =>
      obtain ⟨_, hm⟩ := Dictionary.mem_keys_ofList.mp h
      obtain ⟨p, hp, he⟩ := List.mem_map.mp hm
      exact ⟨list, hl, p, hp, (Prod.mk.inj he).1⟩
    · cases h
  · rintro ⟨list, hl, p, hp, rfl⟩
    simp only [hl]
    exact Dictionary.mem_keys_ofList.mpr ⟨_, List.mem_map_of_mem hp⟩

/-- What the look-ups of a phrase have to find. -/
private theorem mem_phraseScores_cons {term : String} {terms : List String} :
    doc ∈ (index.phraseScores f (term :: terms)).keys ↔
      ∃ first, f.terms.get? term = some first ∧ ∃ rest, terms.mapM f.terms.get? = some rest ∧
        ∃ p ∈ first.postings.toList, p.doc = doc ∧
          ∃ following, (rest.mapM fun list => list.find? doc) = some following ∧
            p.phraseFrequency following ≠ 0 := by
  rw [Index.phraseScores, List.mapM_cons]
  cases hfirst : f.terms.get? term with
  | none => simp [Dictionary.keys]
  | some first =>
    cases hrest : terms.mapM f.terms.get? with
    | none => simp [Dictionary.keys]
    | some rest =>
      simp only [Option.pure_def, Option.bind_eq_bind, Option.bind_some, Dictionary.mem_keys_ofList,
        List.mem_filterMap, Option.bind_eq_some_iff, Option.ite_none_left_eq_some,
        Option.some.injEq, Prod.mk.injEq, exists_eq_left']
      constructor
      · rintro ⟨_, p, hp, following, hf, hne, rfl, -⟩
        exact ⟨p, hp, rfl, following, hf, hne⟩
      · rintro ⟨p, hp, rfl, following, hf, hne⟩
        exact ⟨_, p, hp, following, hf, hne, rfl, rfl⟩

/-- **Phrases.** The terms occur at consecutive positions. -/
theorem mem_phraseScores (ordered : f.IsOrdered) {terms : List String} :
    doc ∈ (index.phraseScores f terms).keys ↔
      terms ≠ [] ∧ ∃ start, ∀ (j : Nat) term, terms[j]? = some term →
        f.Occurs term doc (start + j.toUInt32) := by
  cases terms with
  | nil => simp [Index.phraseScores, Dictionary.keys]
  | cons t ts =>
    -- the followers of the first term are looked up one after the other
    have hrest : ∀ start : UInt32,
        (∃ rest, ts.mapM f.terms.get? = some rest ∧
          ∃ following, (rest.mapM fun list => list.find? doc) = some following ∧
            ∀ p i, (p, i) ∈ following.zipIdx → p.standsAt (start + i.toUInt32 + 1)) ↔
        ∀ (i : Nat) term, ts[i]? = some term → f.Occurs term doc (start + i.toUInt32 + 1) := by
      intro start
      simp only [exists_mapM_and_zipIdx]
      simp only [← ordered.occurs_iff, List.mk_mem_zipIdx_iff_getElem?]
      exact forall_comm
    have hnext : ∀ (start : UInt32) (i : Nat),
        start + (i + 1).toUInt32 = start + i.toUInt32 + 1 := fun start i => by
      rw [Nat.toUInt32, UInt32.ofNat_add, UInt32.add_assoc]
      rfl
    rw [mem_phraseScores_cons, and_iff_right (List.cons_ne_nil t ts)]
    simp only [Posting.phraseFrequency_ne_zero]
    constructor
    · rintro ⟨first, hfirst, rest, hlists, p, hp, hdoc, following, hfollow, start, hstart, h⟩
      refine ⟨start, fun j term hj => ?_⟩
      cases j with
      | zero =>
        cases hj
        exact ⟨first, hfirst, p, hp, hdoc, by simpa using hstart⟩
      | succ i =>
        rw [hnext]
        exact (hrest start).mp ⟨rest, hlists, following, hfollow, h⟩ i term hj
    · rintro ⟨start, h⟩
      obtain ⟨first, hfirst, p, hp, hdoc, hstart⟩ := h 0 t rfl
      obtain ⟨rest, hlists, following, hfollow, hs⟩ := (hrest start).mpr fun i term hi => by
        rw [← hnext]
        exact h (i + 1) term hi
      exact ⟨first, hfirst, rest, hlists, p, hp, hdoc, following, hfollow, start,
        by simpa using hstart, hs⟩

/-- **Patterns and ranges of terms.** -/
theorem mem_acceptedScores {accepts : String → Bool} :
    doc ∈ (f.acceptedScores accepts).keys ↔ ∃ term, f.HasPosting term doc ∧ accepts term := by
  have hentries : ∀ list : PostingList, (∃ score, (doc, score) ∈ constantEntries list) ↔
      ∃ p ∈ list.postings.toList, p.doc = doc := by
    simp [constantEntries]
  simp only [acceptedScores, Dictionary.mem_keys_ofList, List.mem_flatMap, Prod.exists,
    ← Dictionary.get?_eq_some_iff]
  constructor
  · rintro ⟨score, term, list, hl, hm⟩
    split at hm
    · next ha => exact ⟨term, ⟨list, hl, (hentries list).mp ⟨score, hm⟩⟩, ha⟩
    · cases hm
  · rintro ⟨term, ⟨list, hl, hp⟩, ha⟩
    obtain ⟨score, hm⟩ := (hentries list).mpr hp
    exact ⟨score, term, list, hl, by rwa [if_pos ha]⟩

/-- **Ranges of points.** -/
theorem mem_pointScores (ordered : f.IsOrdered) {lo hi : Int64} :
    doc ∈ (f.pointScores lo hi).keys ↔
      ∃ point, (point, doc) ∈ f.points.toList ∧ lo ≤ point ∧ point ≤ hi := by
  -- both ends of the range are partition points, as the points ascend
  have mono : ∀ i j, (hij : i ≤ j) → (hj : j < f.points.size) → f.points[i].1 ≤ f.points[j].1 := by
    intro i j hij hj
    rcases Nat.lt_or_eq_of_le hij with h | rfl
    · exact List.pairwise_iff_getElem.mp ordered.points i j (by simp; omega) (by simpa) h
    · exact Int64.le_refl _
  have hstart : ∀ i, (hi : i < f.points.size) →
      (i < partitionPoint (fun p => decide (p.1 < lo)) f.points ↔ f.points[i].1 < lo) := by
    intro i hi
    rw [lt_partitionPoint_iff (fun i j hij hj h => ?_) hi, decide_eq_true_iff]
    simp only [decide_eq_true_eq] at *
    exact Int64.lt_of_le_of_lt (mono i j hij hj) h
  have hstop : ∀ i, (h : i < f.points.size) →
      (i < partitionPoint (fun p => decide (p.1 ≤ hi)) f.points ↔ f.points[i].1 ≤ hi) := by
    intro i h
    rw [lt_partitionPoint_iff (fun i j hij hj h => ?_) h, decide_eq_true_iff]
    simp only [decide_eq_true_eq] at *
    exact Int64.le_trans (mono i j hij hj) h
  simp only [pointScores, Dictionary.mem_keys_ofList, List.mem_map, Prod.exists, Prod.mk.injEq]
  constructor
  · rintro ⟨_, point, _, hm, rfl, -⟩
    obtain ⟨i, hsize, hge, hlt, he⟩ := mem_slice_iff.mp hm
    have hlo := (hstart i hsize).not.mp (Nat.not_lt.mpr hge)
    have hhi := (hstop i hsize).mp hlt
    rw [he] at hlo hhi
    exact ⟨point, Array.mem_toList_iff.mpr (he ▸ Array.getElem_mem _), Int64.not_lt.mp hlo, hhi⟩
  · rintro ⟨point, hm, hlo, hhi⟩
    obtain ⟨i, hsize, he⟩ := Array.getElem_of_mem (Array.mem_toList_iff.mp hm)
    have hge := (hstart i hsize).not.mpr (by rw [he]; exact Int64.not_lt.mpr hlo)
    have hlt := (hstop i hsize).mpr (by rw [he]; exact hhi)
    exact ⟨_, point, doc, mem_slice_iff.mpr ⟨i, hsize, Nat.not_lt.mp hge, hlt, he⟩, rfl, rfl⟩

/-- A document stands in a posting or with a point. -/
def Mentions (f : FieldIndex) (doc : Ordinal) : Prop :=
  (∃ term, f.HasPosting term doc) ∨ ∃ point, (point, doc) ∈ f.points.toList

/-- What a column mentions has fields in it. -/
theorem exists_fields_of_mentions {column : List (List Field)}
    (h : (ofColumn column).Mentions doc) :
    ∃ (i : Nat) (fields : List Field), column[i]? = some fields ∧ fields ≠ [] ∧
      i.toUInt32 = doc := by
  obtain ⟨term, list, hl, p, hp, hdoc⟩ | ⟨point, hp⟩ := h
  · obtain ⟨position, hpos⟩ := List.exists_mem_of_ne_nil _ (positions_ofColumn hl hp).2
    obtain ⟨i, j, fields, hf, hs, hi, -⟩ := occurs_ofColumn.mp ⟨list, hl, p, hp, hdoc, hpos⟩
    refine ⟨i, fields, hf, ?_, hi⟩
    rintro rfl
    simp [StandsAt, textTerms] at hs
  · obtain ⟨i, fields, hf, hm, hi⟩ := mem_points_ofColumn.mp hp
    refine ⟨i, fields, hf, ?_, hi⟩
    rintro rfl
    simp [pointsOf] at hm

theorem lt_length_of_mentions {column : List (List Field)} (h : (ofColumn column).Mentions doc) :
    doc.toNat < column.length := by
  obtain ⟨i, fields, hf, -, rfl⟩ := exists_fields_of_mentions h
  exact Nat.lt_of_le_of_lt (Nat.mod_le i _) (List.getElem?_eq_some_iff.mp hf).1

end FieldIndex

/-! ### All leaves -/

namespace Index

open Query (Clause)

/-- What a leaf finds in the index of its field. -/
def leafScores (index : Index) (leaf : Clause) (f : FieldIndex) : Scores :=
  match leaf with
  | .term _ text => index.termScores f text
  | .phrase _ terms => index.phraseScores f terms
  | .wildcard _ pattern =>
    f.acceptedScores fun term => (Pattern.wildcard? pattern).any fun r => r.accepts term.toList
  | .regexp _ pattern =>
    f.acceptedScores fun term => (Pattern.regexp? pattern).any fun r => r.accepts term.toList
  | .range _ lower upper => rangeScores f lower upper
  | .boolean _ => .empty

/-- A leaf with a pattern, or none to compile, evaluates to what it finds in its field. -/
theorem scores_leaf {index : Index} {leaf : Clause} {field : String}
    (hf : leaf.field? = some field) (h : leaf.compiles) :
    index.scores leaf = .ok (index.inField field (index.leafScores leaf)) := by
  cases leaf with
  | boolean => cases hf
  | term | phrase | range => cases hf; rfl
  | wildcard name pattern | regexp name pattern =>
    cases hf
    obtain ⟨regex, hr⟩ := Option.isSome_iff_exists.mp h
    rw [scores, hr, patternScores]
    refine congrArg (fun find => Except.ok (index.inField _ find)) (funext fun f => ?_)
    simp only [leafScores, hr, Option.any_some]

/-- What a leaf finds in a field depends on the index by the number of its documents alone. -/
theorem leafScores_congr {index index' : Index} (h : index.docCount = index'.docCount)
    {leaf : Clause} {f : FieldIndex} : index.leafScores leaf f = index'.leafScores leaf f := by
  have hweight : ∀ list, index.weight list = index'.weight list := fun list => by
    rw [weight, weight, h]
  cases leaf with
  | term field text => simp only [leafScores, termScores, hweight]
  | phrase field terms =>
    simp only [leafScores, phraseScores]
    rw [funext hweight]
  | wildcard | regexp | range | boolean => rfl

/-- A leaf finds nothing that its field does not mention, whatever the order of the index. -/
theorem mentions_of_mem_leafScores {index : Index} {leaf : Clause} {f : FieldIndex} {doc : Ordinal}
    (h : doc ∈ (index.leafScores leaf f).keys) : f.Mentions doc := by
  have haccepted : ∀ accepts, doc ∈ (f.acceptedScores accepts).keys → f.Mentions doc := by
    intro accepts h
    obtain ⟨term, hp, -⟩ := FieldIndex.mem_acceptedScores.mp h
    exact .inl ⟨term, hp⟩
  cases leaf with
  | boolean => cases h
  | wildcard | regexp => exact haccepted _ h
  | term field text => exact .inl ⟨text, FieldIndex.mem_termScores.mp h⟩
  | phrase field terms =>
    cases terms with
    | nil => simp [leafScores, phraseScores, Dictionary.keys] at h
    | cons t ts =>
      obtain ⟨first, hf, -, -, p, hp, hdoc, -⟩ := FieldIndex.mem_phraseScores_cons.mp h
      exact .inl ⟨t, first, hf, p, hp, hdoc⟩
  | range field lower upper =>
    simp only [leafScores, rangeScores] at h
    split at h
    · obtain ⟨_, hm⟩ := Dictionary.mem_keys_ofList.mp h
      obtain ⟨⟨point, _⟩, hp, he⟩ := List.mem_map.mp hm
      cases he
      exact .inr ⟨point, List.mem_of_mem_take (List.mem_of_mem_drop hp)⟩
    · cases h
    · exact haccepted _ h

end Index

end RegistrySearch
