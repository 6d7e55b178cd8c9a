import Mathlib.Data.List.Sort
import RegistrySearch.Proofs.Index.Statistics
import RegistrySearch.Proofs.Search.Exactness
import RegistrySearch.Proofs.Search.Ranking

/-!
# The order of documents

A document gets its score from what the index says of it and from the statistics of the fields, and
neither depends on where it stands among the documents: two indexes of the same documents say the
same of a document (`Index.SameAt`), and by induction every clause gives it one score. Only the
ordinals under which the documents are found change with their order, and these decide the order of
hits with the same score.
-/

namespace RegistrySearch

open Query (Clause Occur)

/-- Functions that find related things for related arguments do so for lists. -/
theorem rel_mapM {α β γ δ : Type} {R : α → β → Prop} {S : γ → δ → Prop} {f : α → Option γ}
    {g : β → Option δ} {xs : List α} {ys : List β} (h : List.Forall₂ R xs ys)
    (hfg : ∀ x y, R x y → Option.Rel S (f x) (g y)) :
    Option.Rel (List.Forall₂ S) (xs.mapM f) (ys.mapM g) := by
  induction h with
  | nil => exact .some .nil
  | @cons x y xs ys hxy _ ih =>
    rw [List.mapM_cons, List.mapM_cons]
    have hfirst := hfg x y hxy
    generalize f x = first, g y = first' at hfirst ⊢
    generalize xs.mapM f = rest, ys.mapM g = rest' at ih ⊢
    cases hfirst with
    | none => exact .none
    | some hfirst =>
      cases ih with
      | none => exact .none
      | some hrest => exact .some (.cons hfirst hrest)

/-! ### Saying the same -/

/-- Two posting lists say the same of two documents. -/
structure PostingList.SameAt (list list' : PostingList) (doc doc' : Ordinal) : Prop where
  docFreq : list.docFreq = list'.docFreq
  positions : (list.find? doc).map (·.positions) = (list'.find? doc').map (·.positions)

/-- The two documents stand at the same positions in lists that say the same of them. -/
theorem PostingList.SameAt.rel_find? {list list' : PostingList} {doc doc' : Ordinal}
    (h : list.SameAt list' doc doc') :
    Option.Rel (fun q q' : Posting => q.positions = q'.positions) (list.find? doc)
      (list'.find? doc') := by
  have hfound := h.positions
  generalize list.find? doc = found, list'.find? doc' = found' at hfound ⊢
  cases found <;> cases found' <;> simp only [Option.map_some, Option.map_none,
    reduceCtorEq, Option.some.injEq] at hfound
  · exact .none
  · exact .some hfound

/-- Two ordered indexes of a field say the same of two documents. -/
structure FieldIndex.SameAt (f f' : FieldIndex) (doc doc' : Ordinal) : Prop where
  ordered : f.IsOrdered
  ordered' : f'.IsOrdered
  terms : ∀ term, Option.Rel (fun list list' => list.SameAt list' doc doc') (f.terms.get? term)
    (f'.terms.get? term)
  points : ∀ point, (point, doc) ∈ f.points.toList ↔ (point, doc') ∈ f'.points.toList
  length : f.lengthOf doc = f'.lengthOf doc'
  average : f.averageLength = f'.averageLength

/-- Two indexes say the same of two documents. -/
structure Index.SameAt (index index' : Index) (doc doc' : Ordinal) : Prop where
  docCount : index.docCount = index'.docCount
  fields : ∀ name, Option.Rel (fun f f' => f.SameAt f' doc doc') (index.field? name)
    (index'.field? name)

/-! ### Leaves -/

section postings

variable {list : PostingList} {doc : Ordinal}

/-- In ascending postings a document has the one that a look-up finds, and no other. -/
private theorem PostingList.filter_doc_eq
    (asc : list.postings.toList.Pairwise fun p q => p.doc < q.doc) :
    list.postings.toList.filter (·.doc = doc) = (list.find? doc).toList := by
  cases h : list.find? doc with
  | none =>
    refine List.filter_eq_nil_iff.mpr fun p hp he => ?_
    have hfound := (PostingList.find?_eq_some_iff asc).mpr ⟨hp, of_decide_eq_true he⟩
    rw [h] at hfound
    cases hfound
  | some p =>
    obtain ⟨hp, rfl⟩ := (PostingList.find?_eq_some_iff asc).mp h
    refine filter_key_eq_singleton (List.pairwise_map.mpr (asc.imp fun hlt he => ?_)) hp
    rw [he] at hlt
    exact UInt32.lt_irrefl _ hlt

/-- What is made of the postings is looked up by the posting of the document. -/
private theorem PostingList.get?_ofList_filterMap
    (asc : list.postings.toList.Pairwise fun p q => p.doc < q.doc) {g : Posting → Option Float} :
    (Dictionary.ofList (list.postings.toList.filterMap fun p =>
      (g p).map fun score => (p.doc, score))).get? doc = (list.find? doc).bind g := by
  rw [Dictionary.get?_ofList, valuesAt_filterMap, PostingList.filter_doc_eq asc]
  cases list.find? doc with
  | none => rfl
  | some p =>
    rw [Option.toList_some, List.filterMap_cons, List.filterMap_nil, Option.bind_some]
    cases g p <;> rfl

end postings

private theorem Posting.standsAt_congr {p p' : Posting} (h : p.positions = p'.positions) :
    p.standsAt = p'.standsAt := by
  funext position
  rw [standsAt, h, standsAt]

/-- The frequency of a phrase depends on the positions. -/
private theorem Posting.phraseFrequency_congr {p p' : Posting} {following following' : List Posting}
    (hp : p.positions = p'.positions)
    (h : List.Forall₂ (fun q q' => q.positions = q'.positions) following following') :
    p.phraseFrequency following = p'.phraseFrequency following' := by
  have hall : ∀ (start : UInt32) (k : Nat),
      ((following.zipIdx k).all fun e => e.1.standsAt (start + e.2.toUInt32 + 1)) =
        ((following'.zipIdx k).all fun e => e.1.standsAt (start + e.2.toUInt32 + 1)) := by
    intro start
    induction h with
    | nil => exact fun _ => rfl
    | cons hq _ ih =>
      intro k
      simp only [List.zipIdx_cons, List.all_cons, Posting.standsAt_congr hq, ih (k + 1)]
  simp only [Posting.phraseFrequency, hp, hall _ 0]

/-- The score that a posting of the first term gives its document, if the other terms follow. -/
def Index.phraseScore? (index : Index) (f : FieldIndex) (first : PostingList)
    (rest : List PostingList) (p : Posting) : Option Float :=
  (rest.mapM fun (list : PostingList) => list.find? p.doc).bind fun following =>
    if p.phraseFrequency following = 0 then none
    else some (f.scoreAt (((first :: rest).map index.weight).foldl (· + ·) 0.0) p.doc
      (p.phraseFrequency following))

namespace FieldIndex

variable {index index' : Index} {f f' : FieldIndex} {doc doc' : Ordinal}

theorem get?_termScores (ordered : f.IsOrdered) {text : String} :
    (index.termScores f text).get? doc = (f.terms.get? text).bind fun (list : PostingList) =>
      (list.find? doc).map fun p => f.scoreAt (index.weight list) p.doc p.frequency := by
  rw [Index.termScores]
  cases hl : f.terms.get? text with
  | none => rfl
  | some list =>
    have hentries : (list.postings.toList.map fun p =>
        (p.doc, f.scoreAt (index.weight list) p.doc p.frequency)) =
        list.postings.toList.filterMap fun p =>
          (some (f.scoreAt (index.weight list) p.doc p.frequency)).map fun score =>
            (p.doc, score) := by
      simp
    simp only [hentries, PostingList.get?_ofList_filterMap (ordered.postings text list hl),
      Option.bind_some]
    cases list.find? doc <;> rfl

theorem get?_phraseScores_cons (ordered : f.IsOrdered) {term : String} {terms : List String} :
    (index.phraseScores f (term :: terms)).get? doc =
      (f.terms.get? term).bind fun (first : PostingList) =>
        (terms.mapM f.terms.get?).bind fun (rest : List PostingList) =>
          (first.find? doc).bind (index.phraseScore? f first rest) := by
  rw [Index.phraseScores, List.mapM_cons]
  cases hfirst : f.terms.get? term with
  | none => rfl
  | some first =>
    cases hrest : terms.mapM f.terms.get? with
    | none => rfl
    | some rest =>
      rw [Option.bind_some, Option.bind_some,
        ← PostingList.get?_ofList_filterMap (ordered.postings term first hfirst)]
      refine congrArg (fun entries => (Dictionary.ofList entries).get? doc)
        (List.filterMap_congr fun p _ => ?_)
      rw [Index.phraseScore?]
      cases rest.mapM fun list => list.find? p.doc with
      | none => rfl
      | some following =>
        simp only [Option.bind_eq_bind, Option.bind_some]
        split <;> rfl

theorem scoreAt_congr (same : f.SameAt f' doc doc') {weight : Float} {frequency : Nat} :
    f.scoreAt weight doc frequency = f'.scoreAt weight doc' frequency := by
  rw [scoreAt, scoreAt, same.length, same.average]

theorem hasPosting_congr (same : f.SameAt f' doc doc') {term : String} :
    f.HasPosting term doc ↔ f'.HasPosting term doc' := by
  have hfind : ∀ {f : FieldIndex} {doc : Ordinal}, f.IsOrdered → (f.HasPosting term doc ↔
      ∃ list, f.terms.get? term = some list ∧ ((list.find? doc).map (·.positions)).isSome) := by
    intro f doc ordered
    refine exists_congr fun list => and_congr_right fun hl => ?_
    simp only [Option.isSome_map, Option.isSome_iff_exists,
      PostingList.find?_eq_some_iff (ordered.postings term list hl)]
  have hterm := same.terms term
  rw [hfind same.ordered, hfind same.ordered']
  generalize f.terms.get? term = found, f'.terms.get? term = found' at hterm ⊢
  cases hterm with
  | none => simp
  | some h => simp only [Option.some.injEq, exists_eq_left', h.positions]

/-- A term gives the two documents the same score. -/
private theorem get?_termScores_congr (hcount : index.docCount = index'.docCount)
    (same : f.SameAt f' doc doc') {text : String} :
    (index.termScores f text).get? doc = (index'.termScores f' text).get? doc' := by
  have hfind : ∀ {index : Index} {f : FieldIndex} {doc : Ordinal}, f.IsOrdered →
      (index.termScores f text).get? doc = (f.terms.get? text).bind fun (list : PostingList) =>
        ((list.find? doc).map (·.positions)).map fun positions =>
          f.scoreAt (index.weight list) doc positions.size := by
    intro index f doc ordered
    rw [get?_termScores ordered]
    refine Option.bind_congr fun list hl => ?_
    rw [Option.map_map]
    refine Option.map_congr fun p hp => ?_
    have hdoc := ((PostingList.find?_eq_some_iff (ordered.postings text list hl)).mp hp).2
    rw [Function.comp_apply, Posting.frequency, hdoc]
  have hterm := same.terms text
  rw [hfind same.ordered, hfind same.ordered']
  generalize f.terms.get? text = found, f'.terms.get? text = found' at hterm ⊢
  cases hterm with
  | none => rw [Option.bind_none, Option.bind_none]
  | some h =>
    rw [Option.bind_some, Option.bind_some, h.positions]
    refine Option.map_congr fun positions _ => ?_
    rw [Index.weight, Index.weight, hcount, h.docFreq, scoreAt_congr same]

/-- The same first and following terms give the two documents the same score. -/
private theorem phraseScore?_congr (hcount : index.docCount = index'.docCount)
    (same : f.SameAt f' doc doc') {first first' : PostingList} {rest rest' : List PostingList}
    (hfirst : first.SameAt first' doc doc')
    (hrest : List.Forall₂ (fun list list' => list.SameAt list' doc doc') rest rest')
    {p p' : Posting} (hp : p.doc = doc) (hp' : p'.doc = doc')
    (hpositions : p.positions = p'.positions) :
    index.phraseScore? f first rest p = index'.phraseScore? f' first' rest' p' := by
  have hweight : ∀ {list list' : PostingList}, list.SameAt list' doc doc' →
      index.weight list = index'.weight list' := fun h => by
    rw [Index.weight, Index.weight, hcount, h.docFreq]
  have hweights : (first :: rest).map index.weight = (first' :: rest').map index'.weight := by
    have hothers : rest.map index.weight = rest'.map index'.weight := by
      clear hfirst
      induction hrest with
      | nil => rw [List.map_nil, List.map_nil]
      | cons h _ ih => rw [List.map_cons, List.map_cons, hweight h, ih]
    rw [List.map_cons, List.map_cons, hweight hfirst, hothers]
  have hfollowing : Option.Rel (List.Forall₂ fun q q' : Posting => q.positions = q'.positions)
      (rest.mapM fun (list : PostingList) => list.find? doc)
      (rest'.mapM fun (list : PostingList) => list.find? doc') :=
    rel_mapM hrest fun _ _ h => h.rel_find?
  rw [Index.phraseScore?, Index.phraseScore?, hp, hp', hweights]
  generalize (rest.mapM fun (list : PostingList) => list.find? doc) = found,
    (rest'.mapM fun (list : PostingList) => list.find? doc') = found' at hfollowing ⊢
  cases hfollowing with
  | none => rw [Option.bind_none, Option.bind_none]
  | some h =>
    rw [Option.bind_some, Option.bind_some, Posting.phraseFrequency_congr hpositions h,
      scoreAt_congr same]

/-- The first and the following terms of a phrase say the same of the two documents. -/
private theorem get?_phraseScores_cons_congr (hcount : index.docCount = index'.docCount)
    (same : f.SameAt f' doc doc') {term : String} {first first' : PostingList}
    {rest rest' : List PostingList} (hf : f.terms.get? term = some first)
    (hf' : f'.terms.get? term = some first') (hfirst : first.SameAt first' doc doc')
    (hrest : List.Forall₂ (fun list list' => list.SameAt list' doc doc') rest rest') :
    ((first.find? doc).bind fun p => index.phraseScore? f first rest p) =
      (first'.find? doc').bind fun p => index'.phraseScore? f' first' rest' p := by
  have asc := same.ordered.postings term first hf
  have asc' := same.ordered'.postings term first' hf'
  have hfound := hfirst.rel_find?
  cases hp : first.find? doc with
  | none =>
    rw [hp] at hfound
    generalize first'.find? doc' = found' at hfound ⊢
    cases hfound
    rw [Option.bind_none, Option.bind_none]
  | some p =>
    cases hp' : first'.find? doc' with
    | none =>
      rw [hp, hp'] at hfound
      cases hfound
    | some p' =>
      rw [hp, hp'] at hfound
      cases hfound with
      | some hpositions =>
        rw [Option.bind_some, Option.bind_some]
        exact phraseScore?_congr hcount same hfirst hrest
          ((PostingList.find?_eq_some_iff asc).mp hp).2
          ((PostingList.find?_eq_some_iff asc').mp hp').2 hpositions

/-- A phrase gives the two documents the same score. -/
private theorem get?_phraseScores_congr (hcount : index.docCount = index'.docCount)
    (same : f.SameAt f' doc doc') {terms : List String} :
    (index.phraseScores f terms).get? doc = (index'.phraseScores f' terms).get? doc' := by
  cases terms with
  | nil => rfl
  | cons term terms =>
    have hterm := same.terms term
    have hterms : Option.Rel
        (List.Forall₂ fun list list' => PostingList.SameAt list list' doc doc')
        (terms.mapM f.terms.get?) (terms.mapM f'.terms.get?) :=
      rel_mapM (R := Eq) (List.forall₂_refl terms) fun term _ he => by
        rw [← he]
        exact same.terms term
    rw [get?_phraseScores_cons same.ordered, get?_phraseScores_cons same.ordered']
    generalize hf : f.terms.get? term = found, hf' : f'.terms.get? term = found' at hterm ⊢
    generalize terms.mapM f.terms.get? = others, terms.mapM f'.terms.get? = others' at hterms ⊢
    cases hterm with
    | none => rw [Option.bind_none, Option.bind_none]
    | some hfirst =>
      cases hterms with
      | none => rw [Option.bind_some, Option.bind_some, Option.bind_none, Option.bind_none]
      | some hrest =>
        rw [Option.bind_some, Option.bind_some, Option.bind_some, Option.bind_some]
        exact get?_phraseScores_cons_congr hcount same hf hf' hfirst hrest

/-- Where all scores are the same, only what is found counts. -/
private theorem get?_congr_of_constant {scores scores' : Scores}
    (h : ∀ e ∈ scores.entries, e.2 = Search.constantScore)
    (h' : ∀ e ∈ scores'.entries, e.2 = Search.constantScore)
    (hkeys : doc ∈ scores.keys ↔ doc' ∈ scores'.keys) : scores.get? doc = scores'.get? doc' := by
  have hget : ∀ {scores : Scores} {doc : Ordinal},
      (∀ e ∈ scores.entries, e.2 = Search.constantScore) → doc ∈ scores.keys →
        scores.get? doc = some Search.constantScore := by
    intro scores doc h hd
    obtain ⟨score, hs⟩ := Dictionary.mem_keys_iff.mp hd
    have hscore : score = Search.constantScore :=
      h (doc, score) (Dictionary.get?_eq_some_iff.mp hs)
    rw [hs, hscore]
  by_cases hd : doc ∈ scores.keys
  · rw [hget h hd, hget h' (hkeys.mp hd)]
  · rw [Dictionary.get?_eq_none_iff.mpr hd, Dictionary.get?_eq_none_iff.mpr (mt hkeys.mpr hd)]

private theorem get?_acceptedScores_congr (same : f.SameAt f' doc doc') {accepts : String → Bool} :
    (f.acceptedScores accepts).get? doc = (f'.acceptedScores accepts).get? doc' := by
  have hconstant : ∀ f : FieldIndex,
      ∀ e ∈ (f.acceptedScores accepts).entries, e.2 = Search.constantScore := by
    intro f e he
    obtain ⟨⟨term, list⟩, -, hm⟩ := List.mem_flatMap.mp (Dictionary.mem_of_mem_entries_ofList he)
    dsimp only at hm
    split at hm
    · obtain ⟨p, -, rfl⟩ := List.mem_map.mp hm
      rfl
    · cases hm
  refine get?_congr_of_constant (hconstant f) (hconstant f') ?_
  simp only [mem_acceptedScores, hasPosting_congr same]

private theorem get?_pointScores_congr (same : f.SameAt f' doc doc') {lo hi : Int64} :
    (f.pointScores lo hi).get? doc = (f'.pointScores lo hi).get? doc' := by
  have hconstant : ∀ f : FieldIndex,
      ∀ e ∈ (f.pointScores lo hi).entries, e.2 = Search.constantScore := by
    intro f e he
    obtain ⟨p, -, rfl⟩ := List.mem_map.mp (Dictionary.mem_of_mem_entries_ofList he)
    rfl
  refine get?_congr_of_constant (hconstant f) (hconstant f') ?_
  simp only [mem_pointScores same.ordered, mem_pointScores same.ordered', same.points]

/-- **Leaves.** A leaf scores two documents alike of which the indexes of its field say the same. -/
theorem get?_leafScores_congr (hcount : index.docCount = index'.docCount)
    (same : f.SameAt f' doc doc') {leaf : Clause} :
    (index.leafScores leaf f).get? doc = (index'.leafScores leaf f').get? doc' := by
  cases leaf with
  | term field text => exact get?_termScores_congr hcount same
  | phrase field terms => exact get?_phraseScores_congr hcount same
  | wildcard | regexp => exact get?_acceptedScores_congr same
  | range field lower upper =>
    simp only [Index.leafScores, Index.rangeScores]
    split
    · exact get?_pointScores_congr same
    · rfl
    · exact get?_acceptedScores_congr same
  | boolean children => rfl

end FieldIndex

/-! ### Clauses -/

namespace Index

variable {index index' : Index} {doc doc' : Ordinal} {c : Clause}

/-- Children that score two documents alike contribute alike to them. -/
private theorem contributionsTo_congr {found found' : List (Occur × Scores)}
    (h : List.Forall₂ (fun c c' => c.1 = c'.1 ∧ c.2.get? doc = c'.2.get? doc') found found') :
    contributionsTo doc found = contributionsTo doc' found' ∧
      (found.filter fun c => c.1 = .must).length = (found'.filter fun c => c.1 = .must).length := by
  induction h with
  | nil => exact ⟨rfl, rfl⟩
  | @cons c c' _ _ hc _ ih =>
    obtain ⟨hcontributions, hlength⟩ := ih
    refine ⟨?_, ?_⟩
    · rw [contributionsTo, contributionsTo] at hcontributions ⊢
      rw [List.filterMap_cons, List.filterMap_cons, hcontributions, hc.1, hc.2]
    · rw [List.filter_cons, List.filter_cons, hc.1]
      split
      · rw [List.length_cons, List.length_cons, hlength]
      · exact hlength

/-- Children evaluate one by one. -/
private theorem childScores_congr {children : List (Occur × Clause)}
    (h : ∀ c ∈ children, ∀ scores scores', index.scores c.2 = .ok scores →
      index'.scores c.2 = .ok scores' → scores.get? doc = scores'.get? doc')
    {found found' : List (Occur × Scores)} (hf : index.childScores children = .ok found)
    (hf' : index'.childScores children = .ok found') :
    List.Forall₂ (fun c c' => c.1 = c'.1 ∧ c.2.get? doc = c'.2.get? doc') found found' := by
  induction children generalizing found found' with
  | nil =>
    rw [childScores, Except.ok.injEq] at hf hf'
    rw [← hf, ← hf']
    exact .nil
  | cons c rest ih =>
    obtain ⟨occur, child⟩ := c
    have hsplit : ∀ {index : Index} {found},
        index.childScores ((occur, child) :: rest) = .ok found →
          ∃ first others, index.scores child = .ok first ∧ index.childScores rest = .ok others ∧
            found = (occur, first) :: others := by
      intro index found hf
      rw [childScores] at hf
      cases hfirst : index.scores child with
      | error e => rw [hfirst] at hf; cases hf
      | ok first =>
        cases hothers : index.childScores rest with
        | error e => rw [hfirst, hothers] at hf; cases hf
        | ok others =>
          rw [hfirst, hothers] at hf
          cases hf
          exact ⟨first, others, rfl, rfl, rfl⟩
    obtain ⟨first, others, hfirst, hothers, rfl⟩ := hsplit hf
    obtain ⟨first', others', hfirst', hothers', rfl⟩ := hsplit hf'
    refine .cons ⟨rfl, h (occur, child) List.mem_cons_self first first' hfirst hfirst'⟩ ?_
    exact ih (fun c hc => h c (List.mem_cons_of_mem _ hc)) hothers hothers'

/-- **Scores.** A clause scores two documents alike of which two indexes say the same. -/
theorem get?_scores_congr (same : index.SameAt index' doc doc') (h : c.PatternsCompile)
    {scores scores' : Scores} (hs : index.scores c = .ok scores)
    (hs' : index'.scores c = .ok scores') : scores.get? doc = scores'.get? doc' := by
  induction c using Clause.induct generalizing scores scores' with
  | leaf c field hf =>
    have hc := (Clause.patternsCompile_leaf hf).mp h
    rw [scores_leaf hf hc, Except.ok.injEq] at hs hs'
    rw [← hs, ← hs', inField, inField]
    have hfield := same.fields field
    generalize index.field? field = found, index'.field? field = found' at hfield ⊢
    cases hfield with
    | none =>
      rw [Option.map_none, Option.map_none]
      rfl
    | some hsame =>
      rw [Option.map_some, Option.map_some, Option.getD_some, Option.getD_some]
      exact FieldIndex.get?_leafScores_congr same.docCount hsame
  | boolean children ih =>
    have hchildren := Clause.patternsCompile_boolean.mp h
    have hcombine : ∀ {index : Index} {scores}, index.scores (.boolean children) = .ok scores →
        ∃ found, index.childScores children = .ok found ∧ scores = combine found := by
      intro index scores hs
      rw [Index.scores] at hs
      cases hfound : index.childScores children with
      | error e => rw [hfound] at hs; cases hs
      | ok found =>
        rw [hfound] at hs
        cases hs
        exact ⟨found, rfl, rfl⟩
    obtain ⟨found, hfound, rfl⟩ := hcombine hs
    obtain ⟨found', hfound', rfl⟩ := hcombine hs'
    obtain ⟨hcontributions, hrequired⟩ := contributionsTo_congr <|
      childScores_congr (fun c hc scores scores' => ih c hc (hchildren c hc)) hfound hfound'
    rw [get?_combine, get?_combine, hcontributions, hrequired]

/-! ### Documents in another order -/

section documents

variable {documents documents' : List Document} {d : Document} {i j : Nat}

/-- The positions that a look-up finds are those in the fields of the document. -/
private theorem positions_find?_ofColumn {column : List (List Field)} {fields : List Field}
    {term : String} {list : PostingList} (hn : column.length ≤ 2 ^ 32)
    (hi : column[i]? = some fields)
    (hl : (FieldIndex.ofColumn column).terms.get? term = some list) :
    (list.find? i.toUInt32).map (·.positions) =
      if positionsOf fields term = [] then none
      else some (Posting.ofPositions 0 (positionsOf fields term)).positions := by
  have hfind : ∀ p, list.find? i.toUInt32 = some p ↔
      positionsOf fields term ≠ [] ∧ p = Posting.ofPositions i (positionsOf fields term) := by
    intro p
    rw [PostingList.find?_eq_some_iff ((FieldIndex.isOrdered_ofColumn hn).postings term list hl),
      FieldIndex.mem_postings_ofColumn_iff hn hi hl]
  cases hp : list.find? i.toUInt32 with
  | none =>
    by_cases hnil : positionsOf fields term = []
    · rw [if_pos hnil, Option.map_none]
    · have hfound := (hfind _).mpr ⟨hnil, rfl⟩
      rw [hp] at hfound
      cases hfound
  | some p =>
    obtain ⟨hne, rfl⟩ := (hfind p).mp hp
    rw [if_neg hne]
    rfl

/-- A column in another order says the same of equal fields. -/
private theorem sameAt_ofColumn {column column' : List (List Field)} {fields : List Field}
    (hperm : column.Perm column') (hn : column.length ≤ 2 ^ 32) (hi : column[i]? = some fields)
    (hj : column'[j]? = some fields) :
    (FieldIndex.ofColumn column).SameAt (FieldIndex.ofColumn column') i.toUInt32 j.toUInt32 := by
  have hn' : column'.length ≤ 2 ^ 32 := by rwa [← hperm.length_eq]
  refine ⟨FieldIndex.isOrdered_ofColumn hn, FieldIndex.isOrdered_ofColumn hn', fun term => ?_,
    fun point => ?_, ?_, FieldIndex.averageLength_ofColumn_congr hperm⟩
  · have hsome : ((FieldIndex.ofColumn column).terms.get? term).isSome ↔
        ((FieldIndex.ofColumn column').terms.get? term).isSome := by
      simp only [FieldIndex.isSome_get?_terms_ofColumn, hperm.mem_iff]
    cases hl : (FieldIndex.ofColumn column).terms.get? term with
    | none =>
      cases hl' : (FieldIndex.ofColumn column').terms.get? term with
      | none => exact .none
      | some list' => simp [hl, hl'] at hsome
    | some list =>
      cases hl' : (FieldIndex.ofColumn column').terms.get? term with
      | none => simp [hl, hl'] at hsome
      | some list' =>
        refine .some ⟨?_, ?_⟩
        · rw [FieldIndex.docFreq_ofColumn hl, FieldIndex.docFreq_ofColumn hl', hperm.countP_eq]
        · rw [positions_find?_ofColumn hn hi hl, positions_find?_ofColumn hn' hj hl']
  · rw [FieldIndex.mem_points_ofColumn_iff hn hi, FieldIndex.mem_points_ofColumn_iff hn' hj]
  · rw [FieldIndex.lengthOf_ofColumn hn hi, FieldIndex.lengthOf_ofColumn hn' hj]

/-- **Documents.** The index of the same documents in another order says the same of a document. -/
theorem sameAt_ofDocuments (hperm : documents.Perm documents') (hn : documents.length ≤ 2 ^ 32)
    (hi : documents[i]? = some d) (hj : documents'[j]? = some d) :
    (ofDocuments documents).SameAt (ofDocuments documents') i.toUInt32 j.toUInt32 := by
  refine ⟨?_, fun name => ?_⟩
  · have hids := (hperm.map (·.id)).length_eq
    rwa [← List.size_toArray, ← List.size_toArray] at hids
  · rw [field?_ofDocuments, field?_ofDocuments]
    simp only [hperm.mem_iff]
    have hfields : ∀ {ds : List Document} {k : Nat}, ds[k]? = some d →
        (ds.map (·.fieldsNamed name))[k]? = some (d.fieldsNamed name) := by
      intro ds k hk
      rw [List.getElem?_map, hk, Option.map_some]
    split
    · exact .some (sameAt_ofColumn (hperm.map _) (by rwa [List.length_map]) (hfields hi)
        (hfields hj))
    · exact .none

end documents

end Index

/-! ### Hits -/

/-- The ranked hits of documents that have given scores. -/
def hitsOf (scoreOf : Document → Option Numeral.Binary64) (documents : List Document) :
    List Hit :=
  sortBy Hit.precedes (documents.zipIdx.filterMap fun e =>
    (scoreOf e.1).map fun score => ⟨e.2.toUInt32, score⟩)

section hits

variable {documents documents' : List Document} {scoreOf : Document → Option Numeral.Binary64}

/-- The hits before they are ranked have ascending ordinals. -/
private theorem pairwise_doc_filterMap (hn : documents.length ≤ 2 ^ 32) :
    (documents.zipIdx.filterMap fun e =>
      (scoreOf e.1).map fun score => (⟨e.2.toUInt32, score⟩ : Hit)).Pairwise
        fun a b => a.doc < b.doc := by
  have hplaces : documents.zipIdx.Pairwise fun a b => a.2 < b.2 := by
    refine List.pairwise_map.mp ?_
    rw [List.zipIdx_map_snd]
    exact List.pairwise_lt_range'
  have hwords : documents.zipIdx.Pairwise fun a b => a.2.toUInt32 < b.2.toUInt32 := by
    refine hplaces.imp_of_mem fun {a b} _ hb hab => toUInt32_lt_toUInt32 hab ?_
    exact Nat.lt_of_lt_of_le (List.snd_lt_of_mem_zipIdx hb) (by simpa using hn)
  refine hwords.filterMap _ fun a b hab x hx y hy => ?_
  obtain ⟨_, -, rfl⟩ := Option.map_eq_some_iff.mp hx
  obtain ⟨_, -, rfl⟩ := Option.map_eq_some_iff.mp hy
  exact hab

/-- If ordinals are words, a document is hit exactly if it has a score, and with this score. -/
theorem mem_hitsOf_iff (hn : documents.length ≤ 2 ^ 32) {i : Nat} {d : Document}
    (hd : documents[i]? = some d) {score : Numeral.Binary64} :
    ⟨i.toUInt32, score⟩ ∈ hitsOf scoreOf documents ↔ scoreOf d = some score := by
  simp only [hitsOf, mem_sortBy, List.mem_filterMap, Prod.exists, List.mk_mem_zipIdx_iff_getElem?,
    Option.map_eq_some_iff, Hit.mk.injEq]
  constructor
  · rintro ⟨d', i', hd', _, hs, hword, rfl⟩
    have hi := (List.getElem?_eq_some_iff.mp hd).1
    have hi' := (List.getElem?_eq_some_iff.mp hd').1
    obtain rfl := (toUInt32_inj (by omega) (by omega)).mp hword
    rw [hd, Option.some.injEq] at hd'
    rwa [hd']
  · exact fun hs => ⟨d, i, hd, score, hs, rfl, rfl⟩

/-- Hits of one score stand in the order of the documents. -/
theorem pairwise_doc_hitsOf (hn : documents.length ≤ 2 ^ 32) :
    (hitsOf scoreOf documents).Pairwise fun a b => a.score = b.score → a.doc < b.doc := by
  refine pairwise_doc_sortBy (List.pairwise_map.mpr ((pairwise_doc_filterMap hn).imp ?_))
  exact fun hab he => UInt32.lt_irrefl _ (he ▸ hab)

/-- The scores of the hits do not depend on the order of the documents. -/
theorem map_score_hitsOf_congr (h : documents.Perm documents') :
    (hitsOf scoreOf documents).map (·.score) = (hitsOf scoreOf documents').map (·.score) := by
  refine map_score_sortBy_congr ?_
  have hscores : ∀ (documents : List Document) (k : Nat),
      ((documents.zipIdx k).filterMap fun e =>
        (scoreOf e.1).map fun score => (⟨e.2.toUInt32, score⟩ : Hit)).map (·.score) =
          documents.filterMap scoreOf := by
    intro documents
    induction documents with
    | nil => exact fun _ => rfl
    | cons d documents ih =>
      intro k
      rw [List.zipIdx_cons, List.filterMap_cons, List.filterMap_cons]
      cases scoreOf d with
      | none => exact ih (k + 1)
      | some score => exact congrArg (score :: ·) (ih (k + 1))
  rw [hscores, hscores]
  exact h.filterMap scoreOf

/-- Documents whose scores are found are hit with these scores. -/
private theorem hitsOf_eq {scores : Scores} (hn : documents.length ≤ 2 ^ 32)
    (hlt : ∀ doc ∈ scores.keys, doc.toNat < documents.length)
    (hscores : ∀ (i : Nat) (d : Document), documents[i]? = some d →
      (scores.get? i.toUInt32).map Numeral.Binary64.ofFloat = scoreOf d) :
    sortBy Hit.precedes (scores.entries.map fun (doc, score) =>
      ⟨doc, Numeral.Binary64.ofFloat score⟩) = hitsOf scoreOf documents := by
  have irrefl : Std.Irrefl fun a b : Hit => a.doc < b.doc := ⟨fun a => UInt32.lt_irrefl a.doc⟩
  have antisymm : Std.Antisymm fun a b : Hit => a.doc < b.doc :=
    ⟨fun a b hab hba => absurd hab (UInt32.lt_asymm hba)⟩
  refine congrArg (sortBy Hit.precedes) (List.Pairwise.eq_of_mem_iff
    (List.pairwise_map.mpr scores.ascending) (pairwise_doc_filterMap hn) fun hit => ?_)
  simp only [List.mem_map, List.mem_filterMap, Prod.exists, List.mk_mem_zipIdx_iff_getElem?,
    Option.map_eq_some_iff, ← Dictionary.get?_eq_some_iff]
  constructor
  · rintro ⟨doc, score, hs, rfl⟩
    have hdoc := hlt doc (Dictionary.mem_keys_iff.mpr ⟨score, hs⟩)
    have hword : doc.toNat.toUInt32 = doc := UInt32.ofNat_toNat
    refine ⟨documents[doc.toNat], doc.toNat, List.getElem?_eq_getElem hdoc, _, ?_, by rw [hword]⟩
    rw [← hscores doc.toNat _ (List.getElem?_eq_getElem hdoc), hword, hs, Option.map_some]
  · rintro ⟨d, i, hd, score, hs, rfl⟩
    rw [← hscores i d hd, Option.map_eq_some_iff] at hs
    obtain ⟨found, hfound, rfl⟩ := hs
    exact ⟨i.toUInt32, found, hfound, rfl⟩

/-- **The order of documents.** A clause gives every document one score, or none, in whatever order
the documents are indexed: its hits are the documents that have a score, ranked by it. So the scores
come in the same order, and only among hits of one score the ordinals decide. -/
theorem Index.evaluate_of_perm {c : Clause} (hn : documents.length ≤ 2 ^ 32)
    (h : c.PatternsCompile) :
    ∃ scoreOf : Document → Option Numeral.Binary64,
      ∀ documents', documents.Perm documents' →
        (∀ limit, (ofDocuments documents').evaluate c limit =
          .ok ((hitsOf scoreOf documents').take limit)) ∧
        (∀ (i : Nat) (d : Document), documents'[i]? = some d → ∀ score,
          ⟨i.toUInt32, score⟩ ∈ hitsOf scoreOf documents' ↔ scoreOf d = some score) ∧
        (hitsOf scoreOf documents).map (·.score) = (hitsOf scoreOf documents').map (·.score) ∧
        (hitsOf scoreOf documents').Pairwise fun a b => a.score = b.score → a.doc < b.doc := by
  obtain ⟨scores, hs⟩ : ∃ scores, (ofDocuments documents).scores c = .ok scores := exists_scores h
  -- the score of a document is the one at its first place
  refine ⟨fun d => (scores.get? (documents.idxOf d).toUInt32).map Numeral.Binary64.ofFloat,
    fun documents' hperm => ?_⟩
  have hn' : documents'.length ≤ 2 ^ 32 := by rwa [← hperm.length_eq]
  refine ⟨fun limit => ?_, fun i d hd score => mem_hitsOf_iff hn' hd, map_score_hitsOf_congr hperm,
    pairwise_doc_hitsOf hn'⟩
  obtain ⟨scores', hs'⟩ : ∃ scores, (ofDocuments documents').scores c = .ok scores :=
    exists_scores h
  refine evaluate_eq_ok_iff.mpr ⟨scores', hs', ?_⟩
  rw [Scores.ranked, rank, ← hitsOf_eq hn' (fun doc hd =>
    lt_length_of_finds h ((finds_iff_of_scores hs').mpr hd)) fun i d hd => ?_]
  have hmem : d ∈ documents := hperm.mem_iff.mpr (List.mem_of_getElem? hd)
  have hfirst : documents[documents.idxOf d]? = some d := List.getElem?_idxOf hmem
  rw [get?_scores_congr (sameAt_ofDocuments hperm hn hfirst hd) h hs hs']

end hits

/-- Two documents in both orders. -/
theorem Index.evaluate_of_perm_portal :
    (Clause.term "name" "portal").PatternsCompile ∧
      ∃ scoreOf : Document → Option Numeral.Binary64, ∀ limit,
        (ofDocuments [⟨1, [.text "name" "portal"]⟩, ⟨2, [.text "name" "old portal"]⟩]).evaluate
            (.term "name" "portal") limit =
          .ok ((hitsOf scoreOf [⟨1, [.text "name" "portal"]⟩,
            ⟨2, [.text "name" "old portal"]⟩]).take limit) ∧
        (ofDocuments [⟨2, [.text "name" "old portal"]⟩, ⟨1, [.text "name" "portal"]⟩]).evaluate
            (.term "name" "portal") limit =
          .ok ((hitsOf scoreOf [⟨2, [.text "name" "old portal"]⟩,
            ⟨1, [.text "name" "portal"]⟩]).take limit) := by
  have hcompile : (Clause.term "name" "portal").PatternsCompile := by
    intro leaf hl
    rw [List.mem_singleton.mp hl]
    rfl
  have hwords : ([⟨1, [.text "name" "portal"]⟩, ⟨2, [.text "name" "old portal"]⟩] :
      List Document).length ≤ 2 ^ 32 := by decide
  obtain ⟨scoreOf, hscoreOf⟩ := Index.evaluate_of_perm hwords hcompile
  exact ⟨hcompile, scoreOf, fun limit =>
    ⟨(hscoreOf _ (.refl _)).1 limit, (hscoreOf _ (.swap _ _ _)).1 limit⟩⟩

end RegistrySearch
