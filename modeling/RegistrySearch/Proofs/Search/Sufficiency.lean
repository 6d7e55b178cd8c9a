import RegistrySearch.Proofs.Index.Content
import RegistrySearch.Proofs.Search.Composition

/-!
# The paths of a clause suffice

A clause looks at the fields that its leaves name, and its own paths bring all that a record has in
them. More paths may be projected, in any order (`PathSet.Covers`): as long as they bring no field
that a leaf looks at, the index of these fields stays what it was, and with it the hits and their
scores. Two paths of one name bring texts that are equal, if both bring any, so their order does not
matter either — except for the path of the whole record and the marked path of the same name, which
bring different texts and have to stay in their order (`PathSet.KeepsBody`).
-/

namespace RegistrySearch

open Query (Clause Occur)

namespace Index

variable {index index' : Index}

/-- A clause scores documents alike in indexes that agree on the fields of its leaves. -/
theorem scores_congr (hcount : index.docCount = index'.docCount) {c : Clause}
    (h : ∀ leaf ∈ c.leaves, ∀ field, leaf.field? = some field →
      index.field? field = index'.field? field) : index.scores c = index'.scores c := by
  induction c using Clause.induct with
  | leaf c field hf =>
    have hfield := (Clause.forall_mem_leaves_leaf hf).mp h field hf
    have hin : ∀ find, index.inField field find = index'.inField field find := by
      intro find
      rw [inField, inField, hfield]
    have hfind : index.leafScores c = index'.leafScores c := funext fun f => leafScores_congr hcount
    cases c with
    | boolean => cases hf
    | term | phrase =>
      cases hf
      exact congrArg Except.ok ((hin _).trans (congrArg (index'.inField _) hfind))
    | range =>
      cases hf
      exact congrArg Except.ok (hin _)
    | wildcard | regexp =>
      cases hf
      simp only [scores, patternScores, hin]
  | boolean children ih =>
    have hchildren : index.childScores children = index'.childScores children := by
      have hchild : ∀ c ∈ children, index.scores c.2 = index'.scores c.2 := fun c hc =>
        ih c hc (Clause.forall_mem_leaves_boolean.mp h c hc)
      clear ih h
      induction children with
      | nil => rfl
      | cons c rest ih =>
        rw [childScores, childScores, hchild c List.mem_cons_self,
          ih fun c hc => hchild c (List.mem_cons_of_mem _ hc)]
    rw [scores, scores, hchildren]

/-- **Evaluation.** A clause has the same hits in indexes that agree on the fields of its leaves. -/
theorem evaluate_congr (hcount : index.docCount = index'.docCount) {c : Clause}
    (h : ∀ leaf ∈ c.leaves, ∀ field, leaf.field? = some field →
      index.field? field = index'.field? field) (limit : Nat) :
    index.evaluate c limit = index'.evaluate c limit := by
  rw [evaluate, evaluate, scores_congr hcount h]

/-- Documents with rearranged fields under a name have the same index of it. -/
theorem field?_ofDocuments_congr {α : Type} {xs : List α} {document document' : α → Document}
    {name : String} (h : ∀ x ∈ xs, Rearranged ((document x).fieldsNamed name)
      ((document' x).fieldsNamed name)) :
    (ofDocuments (xs.map document)).field? name =
      (ofDocuments (xs.map document')).field? name := by
  have hnamed : ∀ d : Document, (∃ f ∈ d.fields, f.name = name) ↔ d.fieldsNamed name ≠ [] := by
    intro d
    simp [Document.fieldsNamed]
  have hexists : (∃ d ∈ xs.map document, ∃ f ∈ d.fields, f.name = name) ↔
      ∃ d ∈ xs.map document', ∃ f ∈ d.fields, f.name = name := by
    simp only [hnamed, List.mem_map, exists_exists_and_eq_and]
    refine exists_congr fun x => and_congr_right fun hx => not_congr ?_
    exact ⟨fun hnil => (hnil ▸ (h x hx).perm).nil_eq.symm,
      fun hnil => (hnil ▸ (h x hx).perm).eq_nil⟩
  have hcolumn : FieldIndex.ofColumn ((xs.map document).map (·.fieldsNamed name)) =
      FieldIndex.ofColumn ((xs.map document').map (·.fieldsNamed name)) := by
    rw [List.map_map, List.map_map]
    exact FieldIndex.ofColumn_congr h
  rw [field?_ofDocuments, field?_ofDocuments, hcolumn]
  simp only [hexists]

end Index

/-! ### The fields under a name -/

theorem textTerms_append (fields fields' : List Field) :
    textTerms (fields ++ fields') = textTerms fields ++ textTerms fields' := by
  simp [textTerms]

theorem textTerms_flatMap {α : Type} (f : α → List Field) (xs : List α) :
    textTerms (xs.flatMap f) = xs.flatMap fun x => textTerms (f x) := by
  induction xs with
  | nil => rfl
  | cons x xs ih => rw [List.flatMap_cons, textTerms_append, ih, List.flatMap_cons]

/-- Lists of which any two may change places give the same in any order. -/
theorem flatMap_eq_of_perm {α β : Type} {f : α → List β} {xs ys : List α} (h : xs.Perm ys)
    (hcomm : ∀ x ∈ xs, ∀ y ∈ xs, f x ++ f y = f y ++ f x) : xs.flatMap f = ys.flatMap f := by
  induction h with
  | nil => rfl
  | cons x _ ih =>
    rw [List.flatMap_cons, List.flatMap_cons, ih fun y hy z hz =>
      hcomm y (List.mem_cons_of_mem x hy) z (List.mem_cons_of_mem x hz)]
  | swap x y xs =>
    have hxy := hcomm y List.mem_cons_self x (List.mem_cons_of_mem y List.mem_cons_self)
    simp only [List.flatMap_cons, ← List.append_assoc, hxy]
  | trans hxy _ ihxy ihyz =>
    refine (ihxy hcomm).trans (ihyz fun x hx y hy => ?_)
    exact hcomm x (hxy.mem_iff.mpr hx) y (hxy.mem_iff.mpr hy)

namespace Record

variable {record : Record} {paths paths' : PathSet} {name : String} {p q : Path}

/-! ### Texts of one name -/

/-- Two paths other than that of the whole record bring equal texts under a name, if both bring
any. -/
private theorem textTerms_fieldsUnder_of_not_isBody (hp : p.isBody = false)
    (hq : q.isBody = false) :
    textTerms (fieldsUnder record paths name p) = [] ∨
      textTerms (fieldsUnder record paths name q) = [] ∨
      textTerms (fieldsUnder record paths name p) =
        textTerms (fieldsUnder record paths name q) := by
  rw [fieldsUnder_of_not_isBody hp, fieldsUnder_of_not_isBody hq]
  by_cases hpn : p.unmarked = name
  · by_cases hqn : q.unmarked = name
    · have hid : p.isId = q.isId := by rw [Path.isId, Path.isId, hpn, hqn]
      rw [if_pos hpn, if_pos hqn, hid, resolve_congr (hpn.trans hqn.symm), ← hid]
      cases hi : p.isId with
      | true => exact .inl rfl
      | false =>
        simp only [Bool.false_eq_true, if_false]
        cases resolve record q with
        | null | number => exact .inl rfl
        | boolean | array | object => exact .inr (.inr (by simp only [Field.ofValue, hpn, hqn]))
        | string s =>
          simp only [Field.ofValue, hpn, hqn]
          cases p.isExact
          · cases q.isExact
            · exact .inr (.inr rfl)
            · exact .inr (.inl rfl)
          · exact .inl rfl
    · exact .inr (.inl (by rw [if_neg hqn]; rfl))
  · exact .inl (by rw [if_neg hpn]; rfl)

/-- A marked path brings the text of a value that is no string, as the whole record does for a
policy. -/
private theorem textTerms_marked (name : String) (hexact : q.isExact = true) (value : Json.Value) :
    value.isNull = true ∨ textTerms (Field.ofValue q (.ofJson value)) = [] ∨
      textTerms [.text name value.render] = textTerms (Field.ofValue q (.ofJson value)) := by
  cases value with
  | null => exact .inl rfl
  | number n => exact .inr (.inl rfl)
  | string s =>
    refine .inr (.inl ?_)
    simp only [TypedValue.ofJson, Field.ofValue, hexact]
    rfl
  | bool b => exact .inr (.inr (by cases b <;> rfl))
  | array | object => exact .inr (.inr rfl)

/-- A path for a policy whose plain path is not asked for is marked. -/
private theorem isExact_of_not_contains (hq : q ∈ paths.paths) (hqn : q.unmarked = name)
    (hc : paths.contains ⟨name⟩ = false) : q.isExact = true := by
  by_contra hne
  rw [Bool.not_eq_true] at hne
  have hplain : q = ⟨name⟩ := (Path.eq_mk_of_isExact_eq hne).trans (congrArg Path.mk hqn)
  rw [PathSet.contains, List.contains_eq_mem, decide_eq_false_iff_not] at hc
  exact hc (hplain ▸ hq)

/-- The field of a policy beside the whole record and a path for the policy bring equal texts, if
both bring any. -/
private theorem textTerms_policyField? (hpolicy : name ∈ policyNames) (hq : q ∈ paths.paths)
    (hqn : q.unmarked = name) :
    textTerms (policyField? record paths name).toList = [] ∨
      textTerms (Field.ofValue q (resolve record q)) = [] ∨
      textTerms (policyField? record paths name).toList =
        textTerms (Field.ofValue q (resolve record q)) := by
  have hresolve : resolve record q = ((record.get? name).map TypedValue.ofJson).getD .null :=
    (resolve_congr (hqn.trans (policyNames_spec name hpolicy).1.symm)).trans (resolve_policy hpolicy)
  cases hc : paths.contains ⟨name⟩ with
  | true =>
    -- a policy with a path of its own is left to that path
    rw [policyField?, hc]
    exact .inl rfl
  | false =>
    rw [policyField?_of_not_contains hc, hresolve]
    cases record.get? name with
    | none => exact .inl rfl
    | some value =>
      obtain h | h | h := textTerms_marked name (isExact_of_not_contains hq hqn hc) value
      · exact .inl (by simp [h, Option.filter_some, textTerms])
      · exact .inr (.inl h)
      · cases hnull : value.isNull with
        | true => exact .inl (by simp [hnull, Option.filter_some, textTerms])
        | false => exact .inr (.inr (by simpa [hnull, Option.filter_some] using h))

/-- So do the whole record and another path under every name but that of the whole record. -/
private theorem textTerms_fieldsUnder_body (record : Record) (hname : name ≠ Path.body.text)
    (hq : q ∈ paths.paths) (hb : q.isBody = false) :
    textTerms (fieldsUnder record paths name Path.body) = [] ∨
      textTerms (fieldsUnder record paths name q) = [] ∨
      textTerms (fieldsUnder record paths name Path.body) =
        textTerms (fieldsUnder record paths name q) := by
  rw [fieldsUnder_of_not_isBody hb]
  by_cases hqn : q.unmarked = name
  · by_cases hpolicy : name ∈ policyNames
    · obtain ⟨hunmarked, hid, -⟩ := policyNames_spec name hpolicy
      have hqid : q.isId = false := by rw [Path.isId, hqn, ← hunmarked, ← Path.isId, hid]
      rw [fieldsUnder_body_of_mem hpolicy, if_pos hqn, hqid, if_neg Bool.false_ne_true]
      exact textTerms_policyField? hpolicy hq hqn
    · rw [fieldsUnder_body_of_notMem hname hpolicy]
      exact .inl rfl
  · exact .inr (.inl (by rw [if_neg hqn]; rfl))

/-- **Texts.** Under a name other than that of the whole record, two paths bring equal texts, if
both bring any. -/
theorem textTerms_fieldsUnder_cases (record : Record) (hname : name ≠ Path.body.text)
    (hp : p ∈ paths.paths) (hq : q ∈ paths.paths) :
    textTerms (fieldsUnder record paths name p) = [] ∨
      textTerms (fieldsUnder record paths name q) = [] ∨
      textTerms (fieldsUnder record paths name p) =
        textTerms (fieldsUnder record paths name q) := by
  cases hpb : p.isBody with
  | false =>
    cases hqb : q.isBody with
    | false => exact textTerms_fieldsUnder_of_not_isBody hpb hqb
    | true =>
      obtain rfl := of_decide_eq_true hqb
      obtain h | h | h := textTerms_fieldsUnder_body record hname hp hpb
      · exact .inr (.inl h)
      · exact .inl h
      · exact .inr (.inr h.symm)
  | true =>
    obtain rfl := of_decide_eq_true hpb
    cases hqb : q.isBody with
    | false => exact textTerms_fieldsUnder_body record hname hq hqb
    | true =>
      obtain rfl := of_decide_eq_true hqb
      exact .inr (.inr rfl)

end Record

/-! ### Covering paths -/

/-- Paths among which are all of a clause, while the others bring no field that a leaf looks at. -/
structure PathSet.Covers (paths : PathSet) (c : Clause) (records : List Record) : Prop where
  contains : ∀ p ∈ c.paths.paths, p ∈ paths.paths
  others : ∀ p ∈ paths.paths, p ∉ c.paths.paths → ∀ r ∈ records,
    ∀ f ∈ Record.fieldsAt r paths p, ∀ leaf ∈ c.leaves, leaf.field? ≠ some f.name

/-- The paths that a clause has to the whole record and to the value of the same name stand in the
order of the clause. -/
def PathSet.KeepsBody (paths : PathSet) (c : Clause) : Prop :=
  (paths.paths.filter (· ∈ c.paths.paths)).filter (·.unmarked = Path.body.text) =
    c.paths.paths.filter (·.unmarked = Path.body.text)

instance {paths : PathSet} {c : Clause} : Decidable (paths.KeepsBody c) :=
  inferInstanceAs (Decidable (_ = _))

section covers

variable {paths : PathSet} {c leaf : Clause} {records : List Record} {record : Record}
  {name : String} {p : Path}

/-- Paths beside those of the clause bring nothing under the name of a leaf. -/
private theorem PathSet.Covers.fieldsUnder_eq_nil (covers : paths.Covers c records)
    (hr : record ∈ records) (hl : leaf ∈ c.leaves) (hname : leaf.field? = some name)
    (hp : p ∈ paths.paths) (hpc : p ∉ c.paths.paths) :
    Record.fieldsUnder record paths name p = [] := by
  refine List.filter_eq_nil_iff.mpr fun f hf he => ?_
  exact covers.others p hp hpc record hr f hf leaf hl (by rw [hname, of_decide_eq_true he])

/-- The whole record brings the same policies under the name of a leaf: one that gets a path of its
own is not there. -/
private theorem PathSet.Covers.policyField?_eq (covers : paths.Covers c records)
    (hr : record ∈ records) (hl : leaf ∈ c.leaves) (hname : leaf.field? = some name)
    (hpolicy : name ∈ Record.policyNames) :
    Record.policyField? record paths name = Record.policyField? record c.paths name := by
  have hmem : ∀ paths : PathSet, paths.contains ⟨name⟩ = true ↔ ⟨name⟩ ∈ paths.paths := fun paths =>
    List.contains_iff_mem
  cases hown : c.paths.contains ⟨name⟩ with
  | true =>
    have hpaths := (hmem paths).mpr (covers.contains _ ((hmem c.paths).mp hown))
    rw [Record.policyField?, Record.policyField?, hown, hpaths]
  | false =>
    cases hpaths : paths.contains ⟨name⟩ with
    | false => rw [Record.policyField?, Record.policyField?, hown, hpaths]
    | true =>
      obtain ⟨hunmarked, hid, hbody⟩ := Record.policyNames_spec name hpolicy
      have hnil := covers.fieldsUnder_eq_nil hr hl hname ((hmem paths).mp hpaths) fun h =>
        Bool.false_ne_true (hown.symm.trans ((hmem c.paths).mpr h))
      rw [Record.fieldsUnder_of_not_isBody hbody, if_pos hunmarked, hid, if_neg Bool.false_ne_true,
        Record.resolve_policy hpolicy] at hnil
      rw [Record.policyField?_of_not_contains hown, Record.policyField?, hpaths, if_pos rfl]
      cases hv : record.get? name with
      | none => rfl
      | some value =>
        rw [hv] at hnil
        cases value with
        | null => rfl
        | string s =>
          simp only [Option.map_some, Option.getD_some, TypedValue.ofJson, Field.ofValue] at hnil
          split at hnil <;> cases hnil
        | number | bool | array | object => cases hnil

/-- The paths of the clause bring the same fields under the name of a leaf. -/
private theorem PathSet.Covers.fieldsUnder_eq (covers : paths.Covers c records)
    (hr : record ∈ records) (hl : leaf ∈ c.leaves) (hname : leaf.field? = some name) :
    Record.fieldsUnder record paths name p = Record.fieldsUnder record c.paths name p := by
  cases hb : p.isBody with
  | false => rw [Record.fieldsUnder_of_not_isBody hb, Record.fieldsUnder_of_not_isBody hb]
  | true =>
    obtain rfl := of_decide_eq_true hb
    rw [Record.fieldsUnder_body, Record.fieldsUnder_body]
    refine congrArg _ (List.filterMap_congr fun n hn => ?_)
    obtain ⟨hpolicy, he⟩ := List.mem_filter.mp hn
    obtain rfl := of_decide_eq_true he
    exact covers.policyField?_eq hr hl hname hpolicy

/-- Among covering paths are those of the clause, in some order. -/
private theorem PathSet.Covers.perm (covers : paths.Covers c records) :
    (paths.paths.filter (· ∈ c.paths.paths)).Perm c.paths.paths := by
  refine (List.perm_ext_iff_of_nodup (paths.nodup.filter _) c.paths.nodup).mpr fun p => ?_
  rw [List.mem_filter, decide_eq_true_iff]
  exact ⟨And.right, fun h => ⟨covers.contains p h, h⟩⟩

/-- **Fields.** On covering paths that keep the order of those to the whole record, the fields under
the name of a leaf are at most rearranged. -/
theorem Record.rearranged_project (covers : paths.Covers c records) (keeps : paths.KeepsBody c)
    (hr : record ∈ records) (hl : leaf ∈ c.leaves) (hname : leaf.field? = some name) :
    Rearranged ((project record paths).fieldsNamed name)
      ((project record c.paths).fieldsNamed name) := by
  have hown : paths.paths.flatMap (fieldsUnder record paths name) =
      (paths.paths.filter (· ∈ c.paths.paths)).flatMap (fieldsUnder record c.paths name) := by
    refine flatMap_eq_flatMap_filter fun p hp => ?_
    split
    · exact covers.fieldsUnder_eq hr hl hname
    · next hpc => exact covers.fieldsUnder_eq_nil hr hl hname hp hpc
  have hfields : (project record paths).fieldsNamed name = _ := fieldsNamed_project_eq
  have hfields' : (project record c.paths).fieldsNamed name = _ := fieldsNamed_project_eq
  rw [hfields, hfields', hown]
  refine ⟨(covers.perm.flatMap_right _).append_left _, ?_⟩
  rw [textTerms_append, textTerms_append, textTerms_flatMap, textTerms_flatMap]
  refine congrArg _ ?_
  by_cases hbody : name = Path.body.text
  · -- under the name of the whole record the order counts, and is kept
    have hfilter : ∀ ps : List Path,
        ps.flatMap (fun p => textTerms (fieldsUnder record c.paths name p)) =
          (ps.filter (·.unmarked = Path.body.text)).flatMap fun p =>
            textTerms (fieldsUnder record c.paths name p) := by
      refine fun ps => flatMap_eq_flatMap_filter fun p _ => ?_
      split
      · rfl
      · next hne =>
        have hb : p.isBody = false := decide_eq_false fun he => hne (by rw [he]; decide)
        rw [fieldsUnder_of_not_isBody hb, hbody, if_neg hne]
        rfl
    rw [hfilter, keeps, ← hfilter]
  · refine flatMap_eq_of_perm covers.perm fun p hp q hq => ?_
    have hmem : ∀ p ∈ paths.paths.filter (· ∈ c.paths.paths), p ∈ c.paths.paths := fun p hp =>
      covers.perm.mem_iff.mp hp
    obtain h | h | h := textTerms_fieldsUnder_cases record hbody (hmem p hp) (hmem q hq)
    · rw [h, List.nil_append, List.append_nil]
    · rw [h, List.nil_append, List.append_nil]
    · rw [h]

/-- **Sufficiency.** Over records projected on covering paths, in which those to the whole record
keep their order, a clause has the same hits with the same scores as on its own paths. -/
theorem PathSet.evaluate_project (covers : paths.Covers c records) (keeps : paths.KeepsBody c)
    (limit : Nat) :
    (Index.ofDocuments (records.map fun r => Record.project r paths)).evaluate c limit =
      (Index.ofDocuments (records.map fun r => Record.project r c.paths)).evaluate c limit := by
  have hcount : ∀ paths : PathSet,
      (Index.ofDocuments (records.map fun r => Record.project r paths)).docCount =
        records.length := fun paths => by
    simp [Index.docCount, Index.ofDocuments]
  refine Index.evaluate_congr ((hcount paths).trans (hcount c.paths).symm) ?_ limit
  intro leaf hl name hname
  exact Index.field?_ofDocuments_congr fun r hr =>
    Record.rearranged_project covers keeps hr hl hname

end covers

/-! ### The whole record and the value of its name -/

/-- Two words in the texts of the whole record, or a whole value of the same name. -/
abbrev bodyClause : Clause :=
  .boolean [(.should, .phrase "body" ["1", "x"]), (.should, .regexp "body" "z")]

/-- A record that has a value under the name of the whole record. -/
abbrev bodyRecord : Record :=
  .object [("body", .array [.string "x"]), ("id", .number (.natural 1))]

/-- A path to the name of the record may stand between the two. -/
theorem PathSet.evaluate_project_between :
    (PathSet.ofList [.body, ⟨"name"⟩, .exact "body"]).Covers bodyClause [bodyRecord] ∧
      (PathSet.ofList [.body, ⟨"name"⟩, .exact "body"]).KeepsBody bodyClause ∧
      (Index.ofDocuments ([bodyRecord].map fun r =>
          Record.project r (.ofList [.body, ⟨"name"⟩, .exact "body"]))).evaluate bodyClause 10 =
        (Index.ofDocuments ([bodyRecord].map fun r =>
          Record.project r bodyClause.paths)).evaluate bodyClause 10 := by
  have covers : (PathSet.ofList [.body, ⟨"name"⟩, .exact "body"]).Covers bodyClause [bodyRecord] :=
    ⟨by decide +kernel, by decide +kernel⟩
  have keeps : (PathSet.ofList [.body, ⟨"name"⟩, .exact "body"]).KeepsBody bodyClause := by
    decide +kernel
  exact ⟨covers, keeps, PathSet.evaluate_project covers keeps 10⟩

/-! If the value stands before the whole record, the words of the phrase no longer follow each
other. -/

private theorem patternsCompile_phrase : (Clause.phrase "body" ["1", "x"]).PatternsCompile :=
  (Clause.patternsCompile_leaf rfl).mpr rfl

/-- The expression takes none of the words. -/
private theorem regexp?_z : (Pattern.regexp? "z").isSome ∧
    ∀ term ∈ ["x", "body", "x", "id", "1"],
      ((Pattern.regexp? "z").any fun r => r.accepts term.toList) = false := by
  with_unfolding_all decide

private theorem patternsCompile_z : (Clause.regexp "body" "z").PatternsCompile :=
  (Clause.patternsCompile_leaf rfl).mpr regexp?_z.1

/-- The texts of the record, in the order of the clause. -/
private abbrev ownTexts : List Field :=
  [.text "body" "\x7b\"body\":[\"x\"],\"id\":1\x7d", .text "body" "[\"x\"]"]

/-- The texts of the record, in the other order. -/
private abbrev reversedTexts : List Field :=
  [.text "body" "[\"x\"]", .text "body" "\x7b\"body\":[\"x\"],\"id\":1\x7d"]

private theorem project_bodyRecord :
    Record.project bodyRecord bodyClause.paths =
        ⟨1, .exact "id" "1" :: .numeric "id" 1 :: ownTexts⟩ ∧
      Record.project bodyRecord (.ofList [.exact "body", .body]) =
        ⟨1, .exact "id" "1" :: .numeric "id" 1 :: reversedTexts⟩ :=
  ⟨rfl, rfl⟩

set_option maxRecDepth 4000 in
private theorem textTerms_bodyRecord :
    textTerms ownTexts = ["body", "x", "id", "1", "x"] ∧
      textTerms reversedTexts = ["x", "body", "x", "id", "1"] := by
  with_unfolding_all decide

private theorem fitsWords_body {d : Document} {c : Clause}
    (hc : c = .phrase "body" ["1", "x"] ∨ c = .regexp "body" "z")
    (h : (textTerms d.fields).length = 5) : FitsWords [d] c := by
  refine .of_textTerms (show 1 ≤ 2 ^ 32 by decide) (fun d' hd => ?_) fun d' hd _ _ hl => ?_
  · rw [List.mem_singleton.mp hd, h]
    decide
  · obtain rfl | rfl := hc
    · rw [List.mem_singleton.mp hd, h]
      cases List.mem_singleton.mp hl
      decide
    · cases List.mem_singleton.mp hl

/-- With the texts in the order of the clause the phrase stands at their seam. -/
private theorem zero_mem_matchedOn_phrase :
    0 ∈ matchedOn bodyClause.paths (.phrase "body" ["1", "x"]) [bodyRecord] := by
  have hseam : (textTerms ownTexts)[3]? = some "1" ∧ (textTerms ownTexts)[4]? = some "x" := by
    rw [textTerms_bodyRecord.1]
    exact ⟨rfl, rfl⟩
  rw [mem_matchedOn_iff_satisfies patternsCompile_phrase]
  · refine ⟨_, rfl, ?_⟩
    rw [project_bodyRecord.1]
    refine ⟨List.cons_ne_nil _ _, 3, fun j term hj => .inl ?_⟩
    match j, hj with
    | 0, rfl => exact hseam.1
    | 1, rfl => exact hseam.2
  · rw [List.map_singleton, project_bodyRecord.1]
    exact fitsWords_body (.inl rfl) (congrArg List.length textTerms_bodyRecord.1)

/-- Among the reversed texts these terms stand. -/
private theorem standsAt_reversed {term : String} {position : Nat}
    (h : StandsAt reversedTexts term position) :
    ["x", "body", "x", "id", "1"][position]? = some term := by
  obtain h | ⟨-, f, hf, hk, -⟩ := h
  · rwa [textTerms_bodyRecord.2] at h
  · simp only [List.mem_cons, List.not_mem_nil, or_false] at hf
    obtain rfl | rfl := hf <;> cases hk

private theorem zero_notMem_matchedOn_phrase :
    0 ∉ matchedOn (.ofList [.exact "body", .body]) (.phrase "body" ["1", "x"]) [bodyRecord] := by
  rw [mem_matchedOn_iff_satisfies patternsCompile_phrase]
  · rintro ⟨r, hr, hs⟩
    cases hr
    rw [project_bodyRecord.2] at hs
    obtain ⟨-, start, h⟩ := hs
    have hone := standsAt_reversed (h 0 "1" rfl)
    have hnext := standsAt_reversed (h 1 "x" rfl)
    -- the number is the last term, nothing follows it
    have hlast : ∀ i < 5, ["x", "body", "x", "id", "1"][i]? = some "1" →
        ["x", "body", "x", "id", "1"][i + 1]? ≠ some "x" := by decide
    exact hlast start (List.getElem?_eq_some_iff.mp hone).1 hone hnext
  · rw [List.map_singleton, project_bodyRecord.2]
    exact fitsWords_body (.inl rfl) (congrArg List.length textTerms_bodyRecord.2)

private theorem zero_notMem_matchedOn_z :
    0 ∉ matchedOn (.ofList [.exact "body", .body]) (.regexp "body" "z") [bodyRecord] := by
  rw [mem_matchedOn_iff_satisfies patternsCompile_z]
  · rintro ⟨r, hr, hs⟩
    cases hr
    rw [project_bodyRecord.2] at hs
    obtain ⟨regex, hregex, term, position, hstands, haccepts⟩ := hs
    have hterm := List.mem_of_getElem? (standsAt_reversed hstands)
    have hz := regexp?_z.2 term hterm
    rw [hregex, Option.any_some] at hz
    exact Bool.false_ne_true (hz.symm.trans haccepts)
  · rw [List.map_singleton, project_bodyRecord.2]
    exact fitsWords_body (.inr rfl) (congrArg List.length textTerms_bodyRecord.2)

/-- Covering paths do not suffice if the value of the name stands before the whole record. -/
theorem PathSet.evaluate_project_reversed :
    bodyClause.PatternsCompile ∧
      (PathSet.ofList [.exact "body", .body]).Covers bodyClause [bodyRecord] ∧
      (Index.ofDocuments ([bodyRecord].map fun r =>
          Record.project r (.ofList [.exact "body", .body]))).evaluate bodyClause 1 ≠
        (Index.ofDocuments ([bodyRecord].map fun r =>
          Record.project r bodyClause.paths)).evaluate bodyClause 1 := by
  refine ⟨patternsCompile_pair patternsCompile_phrase patternsCompile_z _ _,
    ⟨by decide +kernel, by decide +kernel⟩, fun he => ?_⟩
  have hmatched : matchedOn (.ofList [.exact "body", .body]) bodyClause [bodyRecord] =
      matchedOn bodyClause.paths bodyClause [bodyRecord] := by
    simp only [matchedOn, List.length_singleton, he]
  rw [matchedOn_should patternsCompile_phrase patternsCompile_z,
    matchedOn_should patternsCompile_phrase patternsCompile_z] at hmatched
  have hown := Set.mem_union_left
    (matchedOn bodyClause.paths (.regexp "body" "z") [bodyRecord]) zero_mem_matchedOn_phrase
  rw [← hmatched] at hown
  exact hown.elim zero_notMem_matchedOn_phrase zero_notMem_matchedOn_z

end RegistrySearch
