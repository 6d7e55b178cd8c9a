import RegistrySearch.Proofs.Index.Column

/-!
# What the index of a column depends on

The fields of a document may come in another order: as long as their texts are read in one order,
the same terms stand at the same positions, and points and whole values know no order anyway. Such
fields are `Rearranged`, and columns of rearranged fields have the same index
(`FieldIndex.ofColumn_congr`).
-/

namespace RegistrySearch

/-- The same fields in perhaps another order, in which the texts have the same terms one after the
other. -/
structure Rearranged (fields fields' : List Field) : Prop where
  perm : fields.Perm fields'
  terms : textTerms fields = textTerms fields'

namespace Rearranged

variable {fields fields' : List Field}

theorem standsAt_iff (h : Rearranged fields fields') {term : String} {position : Nat} :
    StandsAt fields term position ↔ StandsAt fields' term position := by
  simp only [StandsAt, h.terms, h.perm.mem_iff]

theorem tokenCount_eq (h : Rearranged fields fields') : tokenCount fields = tokenCount fields' :=
  (h.perm.map _).sum_nat

theorem pointsOf_perm (h : Rearranged fields fields') : (pointsOf fields).Perm (pointsOf fields') :=
  h.perm.filterMap _

end Rearranged

/-! ### Postings -/

/-- The posting of a document depends on the set of positions. -/
theorem Posting.ofPositions_congr {doc : Nat} {places places' : List Nat}
    (h : ∀ j, j ∈ places ↔ j ∈ places') :
    Posting.ofPositions doc places = Posting.ofPositions doc places' := by
  have hkeys : Dictionary.ofKeys (fun _ => ()) (places.map Nat.toUInt32) =
      Dictionary.ofKeys (fun _ => ()) (places'.map Nat.toUInt32) := by
    refine Dictionary.ext_get? fun key => ?_
    rw [Dictionary.get?_ofKeys, Dictionary.get?_ofKeys]
    simp only [List.mem_map, h]
  rw [Posting.ofPositions, hkeys, Posting.ofPositions]

/-- The postings of a term depend on the set of its occurrences. -/
theorem PostingList.ofOccurrences_congr {occurrences occurrences' : List (Nat × Nat)}
    (h : ∀ e, e ∈ occurrences ↔ e ∈ occurrences') :
    PostingList.ofOccurrences occurrences = PostingList.ofOccurrences occurrences' := by
  -- the postings are the values of a dictionary with the documents as keys
  have hpostings : (Dictionary.group occurrences).mapEntries Posting.ofPositions =
      (Dictionary.group occurrences').mapEntries Posting.ofPositions := by
    refine Dictionary.ext_get? fun doc => ?_
    have hplaces : ∀ j, j ∈ valuesAt doc occurrences ↔ j ∈ valuesAt doc occurrences' := by
      intro j
      rw [mem_valuesAt, mem_valuesAt, h]
    have hnil : valuesAt doc occurrences = [] ↔ valuesAt doc occurrences' = [] := by
      simp only [List.eq_nil_iff_forall_not_mem, hplaces]
    rw [Dictionary.get?_mapEntries, Dictionary.get?_mapEntries, Dictionary.get?_group,
      Dictionary.get?_group]
    by_cases hn : valuesAt doc occurrences = []
    · rw [if_pos hn, if_pos (hnil.mp hn)]
    · rw [if_neg hn, if_neg (mt hnil.mpr hn), Option.map_some, Option.map_some,
        Posting.ofPositions_congr hplaces]
  have hentries := congrArg Dictionary.entries hpostings
  have hvalues := congrArg (List.map Prod.snd) hentries
  have hlength := congrArg List.length hentries
  simp only [Dictionary.entries_mapEntries, List.map_map, List.length_map] at hvalues hlength
  unfold PostingList.ofOccurrences
  rw [PostingList.mk.injEq]
  exact ⟨congrArg List.toArray hvalues, congrArg Nat.toUInt64 hlength⟩

/-! ### Points -/

namespace FieldIndex

/-- Points are sorted alike, however they come. -/
theorem sortBy_pointBefore_congr {points points' : List (Int64 × Ordinal)}
    (h : points.Perm points') : sortBy pointBefore points = sortBy pointBefore points' := by
  refine List.Perm.eq_of_pairwise (fun p q _ _ => eq_of_pointBefore)
    (pairwise_sortBy pointBefore_trans pointBefore_total points)
    (pairwise_sortBy pointBefore_trans pointBefore_total points') ?_
  exact (sortBy_perm _ _).trans (h.trans (sortBy_perm _ _).symm)

variable {α : Type} {xs : List α} {fieldsOf fieldsOf' : α → List Field}

private theorem columnPoints_perm (h : ∀ x ∈ xs, Rearranged (fieldsOf x) (fieldsOf' x)) :
    (columnPoints (xs.map fieldsOf)).Perm (columnPoints (xs.map fieldsOf')) := by
  have hfrom : ∀ k, (((xs.map fieldsOf).zipIdx k).flatMap fun e =>
      (pointsOf e.1).map fun point => (point, e.2.toUInt32)).Perm
        (((xs.map fieldsOf').zipIdx k).flatMap fun e =>
          (pointsOf e.1).map fun point => (point, e.2.toUInt32)) := by
    induction xs with
    | nil => exact fun _ => .refl _
    | cons x xs ih =>
      intro k
      have hx := (h x List.mem_cons_self).pointsOf_perm
      simp only [List.map_cons, List.zipIdx_cons, List.flatMap_cons]
      exact (hx.map _).append (ih (fun y hy => h y (List.mem_cons_of_mem x hy)) (k + 1))
  exact hfrom 0

private theorem mem_columnOccurrences_congr (h : ∀ x ∈ xs, Rearranged (fieldsOf x) (fieldsOf' x))
    {term : String} (e : Nat × Nat) :
    e ∈ valuesAt term (columnOccurrences (xs.map fieldsOf)) ↔
      e ∈ valuesAt term (columnOccurrences (xs.map fieldsOf')) := by
  obtain ⟨i, j⟩ := e
  simp only [mem_columnOccurrences, List.getElem?_map, Option.map_eq_some_iff]
  constructor
  · rintro ⟨_, ⟨x, hx, rfl⟩, hs⟩
    exact ⟨_, ⟨x, hx, rfl⟩, (h x (List.mem_of_getElem? hx)).standsAt_iff.mp hs⟩
  · rintro ⟨_, ⟨x, hx, rfl⟩, hs⟩
    exact ⟨_, ⟨x, hx, rfl⟩, (h x (List.mem_of_getElem? hx)).standsAt_iff.mpr hs⟩

/-- **Columns.** Columns whose fields are rearranged document by document have the same index. -/
theorem ofColumn_congr (h : ∀ x ∈ xs, Rearranged (fieldsOf x) (fieldsOf' x)) :
    ofColumn (xs.map fieldsOf) = ofColumn (xs.map fieldsOf') := by
  have hterms : (Dictionary.group (columnOccurrences (xs.map fieldsOf))).map
        PostingList.ofOccurrences =
      (Dictionary.group (columnOccurrences (xs.map fieldsOf'))).map
        PostingList.ofOccurrences := by
    refine Dictionary.ext_get? fun term => Option.ext fun list => ?_
    have hmem : ∀ e, e ∈ valuesAt term (columnOccurrences (xs.map fieldsOf)) ↔
        e ∈ valuesAt term (columnOccurrences (xs.map fieldsOf')) := mem_columnOccurrences_congr h
    have hne : valuesAt term (columnOccurrences (xs.map fieldsOf)) ≠ [] ↔
        valuesAt term (columnOccurrences (xs.map fieldsOf')) ≠ [] := by
      simp only [ne_eq, List.eq_nil_iff_forall_not_mem, hmem]
    refine get?_terms_ofColumn.trans (Iff.trans ?_ get?_terms_ofColumn.symm)
    rw [hne, PostingList.ofOccurrences_congr hmem]
  have hlengths : (xs.map fieldsOf).map tokenCount = (xs.map fieldsOf').map tokenCount := by
    rw [List.map_map, List.map_map]
    exact List.map_congr_left fun x hx => (h x hx).tokenCount_eq
  simp only [ofColumn, hterms, hlengths, sortBy_pointBefore_congr (columnPoints_perm h)]

end FieldIndex

end RegistrySearch
