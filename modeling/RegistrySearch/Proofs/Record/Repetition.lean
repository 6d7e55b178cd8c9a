import Mathlib.Data.List.Nodup
import Mathlib.Data.List.Pairwise
import RegistrySearch.Proofs.Record.Projection
import RegistrySearch.Query.Paths

/-!
# Values that are indexed twice

A path brings the value of its name at most once, as one field of each kind. Two different paths
bring the same name if one of them is the marked path of the other, or if one is that of the whole
record and the other leads to a value of the same name or to a policy. A string is brought in two
kinds by them, as its words and as a whole. Every other value that a plain path and the marked one
lead to is brought twice in the same kind, and so is a composite value at a marked path that the
whole record brings as well.

`Record.Repeats` lists these cases, and there are no others: a projection has two fields of one kind
under a name exactly if its paths repeat it (`Record.indexesOnce_project_iff`).
-/

namespace RegistrySearch

/-- Under a name a document has no two fields of one kind: one text at most, one whole value and one
point. -/
def Document.IndexesOnce (d : Document) (name : String) : Prop :=
  ((d.fieldsNamed name).map (·.kind)).Nodup

/-! ### Kinds -/

/-- The kinds of the fields of a value, at a path with the marker or without. -/
def TypedValue.kinds (isExact : Bool) : TypedValue → List FieldKind
  | number _ => [.numeric, .exact]
  | boolean _ | array _ | object _ => [.text]
  | string _ => [if isExact then .exact else .text]
  | null => []

theorem Field.map_kind_ofValue (p : Path) (value : TypedValue) :
    (Field.ofValue p value).map (·.kind) = value.kinds p.isExact := by
  cases value with
  | string s =>
    rw [Field.ofValue, TypedValue.kinds]
    split <;> rfl
  | number | boolean | array | object | null => rfl

theorem TypedValue.nodup_kinds (isExact : Bool) (value : TypedValue) :
    (value.kinds isExact).Nodup := by
  cases value with
  | number => simp [kinds]
  | string | boolean | array | object => exact List.nodup_singleton _
  | null => exact List.nodup_nil

namespace Record

variable {record : Record} {paths : PathSet} {name : String} {p q : Path}

/-- The kinds of the fields that a path brings under a name. -/
def kindsUnder (record : Record) (paths : PathSet) (name : String) (p : Path) : List FieldKind :=
  (fieldsUnder record paths name p).map (·.kind)

/-- A path other than that of the whole record brings the kinds of its value, under its name. -/
theorem kindsUnder_of_not_isBody (hp : p.isBody = false) (hid : name ≠ Path.idName) :
    kindsUnder record paths name p =
      if p.unmarked = name then (resolve record p).kinds p.isExact else [] := by
  rw [kindsUnder, fieldsUnder_of_not_isBody hp]
  split
  · next hname =>
    have hpid : p.isId = false := by
      rw [Path.isId, hname]
      exact decide_eq_false hid
    rw [hpid, if_neg Bool.false_ne_true, Field.map_kind_ofValue]
  · rfl

/-- The path of the whole record brings texts: its own, and those of the policies that are there and
have no path of their own. -/
theorem kindsUnder_body :
    kindsUnder record paths name Path.body =
      if name = Path.body.text ∨
          name ∈ policyNames ∧ ⟨name⟩ ∉ paths.paths ∧ resolve record ⟨name⟩ ≠ .null then
        [.text]
      else [] := by
  by_cases hbody : name = Path.body.text
  · rw [if_pos (.inl hbody), hbody, kindsUnder, fieldsUnder_body_self]
    rfl
  by_cases hpolicy : name ∈ policyNames
  · simp only [hbody, hpolicy, false_or, true_and]
    rw [kindsUnder, fieldsUnder_body_of_mem hpolicy]
    by_cases hplain : (⟨name⟩ : Path) ∈ paths.paths
    · have hcontains : paths.contains ⟨name⟩ = true := List.contains_iff_mem.mpr hplain
      rw [policyField?, if_pos hcontains, if_neg fun h => h.1 hplain]
      rfl
    · have hcontains : paths.contains ⟨name⟩ = false := by
        rw [← Bool.not_eq_true]
        exact fun h => hplain (List.contains_iff_mem.mp h)
      rw [policyField?_of_not_contains hcontains, resolve_policy hpolicy]
      cases record.get? name with
      | none => simp
      | some value => cases value <;> simp [hplain, TypedValue.ofJson, Json.Value.isNull, Field.text]
  · rw [if_neg (by simp [hbody, hpolicy]), kindsUnder, fieldsUnder_body_of_notMem hbody hpolicy]
    rfl

theorem nodup_kindsUnder (hid : name ≠ Path.idName) : (kindsUnder record paths name p).Nodup := by
  cases hp : p.isBody with
  | true =>
    obtain rfl := of_decide_eq_true hp
    rw [kindsUnder_body]
    split
    · exact List.nodup_singleton _
    · exact List.nodup_nil
  | false =>
    rw [kindsUnder_of_not_isBody hp hid]
    split
    · exact TypedValue.nodup_kinds _ _
    · exact List.nodup_nil

/-- The identifier is indexed once, whatever the paths are. -/
theorem indexesOnce_project_id : (project record paths).IndexesOnce Path.idName := by
  have hnil : ∀ p ∈ paths.paths, fieldsUnder record paths Path.idName p = [] := by
    intro p _
    cases hp : p.isBody with
    | true =>
      obtain rfl := of_decide_eq_true hp
      exact fieldsUnder_body_of_notMem (by decide) (by decide)
    | false =>
      rw [fieldsUnder_of_not_isBody hp]
      split
      · next hname =>
        have hpid : p.isId = true := decide_eq_true hname
        rw [hpid, if_pos rfl]
      · rfl
  have hempty : (project record .empty).fieldsNamed Path.idName =
      [.exact Path.idName (toString (id record).toInt), .numeric Path.idName (id record)] := rfl
  rw [Document.IndexesOnce, fieldsNamed_project_eq, List.flatMap_eq_nil_iff.mpr hnil,
    List.append_nil, hempty]
  exact (by decide : [FieldKind.exact, FieldKind.numeric].Nodup)

/-- Any other name is indexed once exactly if no two paths bring a kind of field under it. -/
theorem indexesOnce_iff_disjoint (hid : name ≠ Path.idName) :
    (project record paths).IndexesOnce name ↔
      ∀ p ∈ paths.paths, ∀ q ∈ paths.paths, p ≠ q →
        (kindsUnder record paths name p).Disjoint (kindsUnder record paths name q) := by
  have hkinds : ((project record paths).fieldsNamed name).map (·.kind) =
      paths.paths.flatMap (kindsUnder record paths name) := by
    rw [fieldsNamed_project_eq, fieldsNamed_project_empty hid, List.nil_append, List.map_flatMap]
    rfl
  rw [Document.IndexesOnce, hkinds, List.nodup_flatMap, and_iff_right fun p _ =>
    nodup_kindsUnder hid]
  constructor
  · intro h p hp q hq hne
    have : Std.Symm (Function.onFun List.Disjoint (kindsUnder record paths name)) :=
      ⟨fun _ _ hdisjoint _ h h' => hdisjoint h' h⟩
    exact h.forall hp hq hne
  · intro h
    exact paths.nodup.pairwise_of_forall_ne h

/-! ### Repetition -/

/-- Paths bring the value of a name twice in one kind. One of them is the marked path of the name.
The other one is the plain path, or, for a composite value, that of the whole record. -/
def Repeats (record : Record) (paths : PathSet) (name : String) : Prop :=
  Path.exact name ∈ paths.paths ∧ name ≠ Path.idName ∧ Path.isExact ⟨name⟩ = false ∧
    match resolve record (.exact name) with
    | .string _ | .null => False
    | .number _ => ⟨name⟩ ∈ paths.paths ∧ name ≠ Path.body.text
    | .boolean _ | .array _ | .object _ =>
      ⟨name⟩ ∈ paths.paths ∨ Path.body ∈ paths.paths ∧ name ∈ policyNames

/-- Two paths of one name are the plain path and the marked one, and lead to one value. -/
theorem exists_marked (hp : p.unmarked = name) (hq : q.unmarked = name) (hne : p ≠ q) :
    (p = ⟨name⟩ ∧ p.isExact = false ∧ q = .exact name ∨
      q = ⟨name⟩ ∧ q.isExact = false ∧ p = .exact name) := by
  cases hpe : p.isExact with
  | false =>
    have hplain : p = ⟨name⟩ := (Path.eq_mk_of_isExact_eq hpe).trans (congrArg Path.mk hp)
    cases hqe : q.isExact with
    | false => exact absurd (hplain.trans ((Path.eq_mk_of_isExact_eq hqe).trans
        (congrArg Path.mk hq)).symm) hne
    | true => exact .inl ⟨hplain, rfl, (Path.eq_exact_of_isExact hqe).trans (congrArg _ hq)⟩
  | true =>
    have hmarked : p = .exact name := (Path.eq_exact_of_isExact hpe).trans (congrArg _ hp)
    cases hqe : q.isExact with
    | false => exact .inr ⟨(Path.eq_mk_of_isExact_eq hqe).trans (congrArg Path.mk hq), rfl, hmarked⟩
    | true => exact absurd (hmarked.trans ((Path.eq_exact_of_isExact hqe).trans
        (congrArg _ hq)).symm) hne

section kinds

variable {kind : FieldKind} (hid : name ≠ Path.idName)

include hid

/-- The marked path brings the kinds of the value with the string whole. -/
theorem kindsUnder_exact :
    kindsUnder record paths name (.exact name) = (resolve record (.exact name)).kinds true := by
  rw [kindsUnder_of_not_isBody Path.isBody_exact hid, if_pos Path.unmarked_exact,
    Path.isExact_exact]

/-- The plain path brings the kinds of the same value with the words of the string. -/
theorem kindsUnder_mk (hbody : Path.isBody ⟨name⟩ = false) (hexact : Path.isExact ⟨name⟩ = false) :
    kindsUnder record paths name ⟨name⟩ = (resolve record (.exact name)).kinds false := by
  have hname : Path.unmarked ⟨name⟩ = name := Path.unmarked_eq_text hexact
  rw [kindsUnder_of_not_isBody hbody hid, if_pos hname,
    resolve_congr (hname.trans Path.unmarked_exact.symm), hexact]

/-- A kind that the plain path and the marked one bring is that of a value other than a string. -/
theorem repeats_of_mem_marked (hplain : (⟨name⟩ : Path) ∈ paths.paths)
    (hmarked : Path.exact name ∈ paths.paths) (hbody : Path.isBody ⟨name⟩ = false)
    (hexact : Path.isExact ⟨name⟩ = false) (h : kind ∈ kindsUnder record paths name ⟨name⟩)
    (h' : kind ∈ kindsUnder record paths name (.exact name)) : Repeats record paths name := by
  have hne : name ≠ Path.body.text := fun he => of_decide_eq_false hbody (congrArg Path.mk he)
  rw [kindsUnder_mk hid hbody hexact] at h
  rw [kindsUnder_exact hid] at h'
  refine ⟨hmarked, hid, hexact, ?_⟩
  cases hvalue : resolve record (.exact name) with
  | number => exact ⟨hplain, hne⟩
  | boolean | array | object => exact .inl hplain
  | string =>
    -- its words and the whole of it are fields of different kinds
    rw [hvalue, TypedValue.kinds, if_neg Bool.false_ne_true, List.mem_singleton] at h
    rw [hvalue, TypedValue.kinds, if_pos rfl, List.mem_singleton, h] at h'
    cases h'
  | null =>
    rw [hvalue] at h
    cases h

/-- A kind that the whole record and another path bring is that of a composite value. -/
theorem repeats_of_mem_body (hbody : Path.body ∈ paths.paths) (hq : q ∈ paths.paths)
    (hqb : q.isBody = false) (h : kind ∈ kindsUnder record paths name Path.body)
    (h' : kind ∈ kindsUnder record paths name q) : Repeats record paths name := by
  rw [kindsUnder_of_not_isBody hqb hid] at h'
  rw [kindsUnder_body] at h
  split at h
  case isFalse => cases h
  next hwhole =>
  obtain rfl := List.mem_singleton.mp h
  split at h'
  case isFalse => cases h'
  next hname =>
  -- the plain path of a policy would keep the whole record from bringing the policy
  have hqe : q.isExact = true := by
    by_contra hne
    rw [Bool.not_eq_true] at hne
    have hplain : q = ⟨name⟩ := (Path.eq_mk_of_isExact_eq hne).trans (congrArg Path.mk hname)
    obtain rfl | ⟨-, hnone, -⟩ := hwhole
    · exact of_decide_eq_false hqb hplain
    · exact hnone (hplain ▸ hq)
  have hmarked : q = .exact name := (Path.eq_exact_of_isExact hqe).trans (congrArg _ hname)
  have hexact : Path.isExact ⟨name⟩ = false := by
    obtain rfl | ⟨hpolicy, -⟩ := hwhole
    · rfl
    · exact Path.unmarked_eq_text_iff.mp (policyNames_spec name hpolicy).1
  have hpaths : (⟨name⟩ : Path) ∈ paths.paths ∨ Path.body ∈ paths.paths ∧ name ∈ policyNames := by
    obtain rfl | ⟨hpolicy, -⟩ := hwhole
    · exact .inl hbody
    · exact .inr ⟨hbody, hpolicy⟩
  refine ⟨hmarked ▸ hq, hid, hexact, ?_⟩
  rw [hmarked, Path.isExact_exact] at h'
  cases hvalue : resolve record (.exact name) with
  | boolean | array | object => exact hpaths
  | number | string | null =>
    rw [hvalue] at h'
    simp [TypedValue.kinds] at h'

/-- A composite value is brought as a text by the plain path, or else by that of the whole record. -/
theorem exists_mem_text (hexact : Path.isExact ⟨name⟩ = false)
    (hpaths : ⟨name⟩ ∈ paths.paths ∨ Path.body ∈ paths.paths ∧ name ∈ policyNames)
    (hvalue : (resolve record (.exact name)).kinds false = [.text]) :
    ∃ p ∈ paths.paths, p.isExact = false ∧ .text ∈ kindsUnder record paths name p := by
  by_cases hin : (⟨name⟩ : Path) ∈ paths.paths
  · refine ⟨⟨name⟩, hin, hexact, ?_⟩
    cases hbody : Path.isBody ⟨name⟩ with
    | false =>
      rw [kindsUnder_mk hid hbody hexact, hvalue]
      exact List.mem_singleton_self _
    | true =>
      have hwhole : (⟨name⟩ : Path) = Path.body := of_decide_eq_true hbody
      rw [hwhole, kindsUnder_body, if_pos (.inl (congrArg Path.text hwhole))]
      exact List.mem_singleton_self _
  · obtain ⟨hbody, hpolicy⟩ := hpaths.resolve_left hin
    have hnull : resolve record ⟨name⟩ ≠ .null := by
      rw [resolve_congr ((Path.unmarked_eq_text hexact).trans Path.unmarked_exact.symm)]
      intro hnull
      rw [hnull] at hvalue
      cases hvalue
    refine ⟨Path.body, hbody, by decide, ?_⟩
    rw [kindsUnder_body, if_pos (.inr ⟨hpolicy, hin, hnull⟩)]
    exact List.mem_singleton_self _

end kinds

/-- Paths that bring the value of a name twice are the marked one and one without marker, with a
common kind. -/
theorem Repeats.exists_mem (h : Repeats record paths name) :
    ∃ p ∈ paths.paths, p.isExact = false ∧ ∃ kind ∈ kindsUnder record paths name p,
      kind ∈ kindsUnder record paths name (.exact name) := by
  obtain ⟨-, hid, hexact, hvalue⟩ := h
  rw [kindsUnder_exact hid]
  cases hv : resolve record (.exact name) with
  | string | null =>
    rw [hv] at hvalue
    exact hvalue.elim
  | number n =>
    rw [hv] at hvalue
    obtain ⟨hin, hne⟩ := hvalue
    have hbody : Path.isBody ⟨name⟩ = false :=
      decide_eq_false fun he => hne (congrArg Path.text he)
    refine ⟨⟨name⟩, hin, hexact, .numeric, ?_, List.mem_cons_self⟩
    rw [kindsUnder_mk hid hbody hexact, hv]
    exact List.mem_cons_self
  | boolean | array | object =>
    rw [hv] at hvalue
    have hkinds : (resolve record (.exact name)).kinds false = [.text] := by
      rw [hv]
      rfl
    obtain ⟨p, hp, hpe, htext⟩ := exists_mem_text hid hexact hvalue hkinds
    exact ⟨p, hp, hpe, .text, htext, List.mem_singleton_self _⟩

/-- **Repetition.** A projection indexes a name once exactly if its paths do not bring the value of
the name twice. -/
theorem indexesOnce_project_iff :
    (project record paths).IndexesOnce name ↔ ¬Repeats record paths name := by
  by_cases hid : name = Path.idName
  · subst hid
    exact iff_of_true indexesOnce_project_id fun h => h.2.1 rfl
  rw [indexesOnce_iff_disjoint hid]
  constructor
  · intro hdisjoint hrepeats
    obtain ⟨p, hp, hexact, kind, hkind, hkind'⟩ := hrepeats.exists_mem
    have hne : p ≠ .exact name := by
      rintro rfl
      exact Bool.false_ne_true (hexact.symm.trans Path.isExact_exact)
    exact hdisjoint p hp _ hrepeats.1 hne hkind hkind'
  · intro hrepeats p hp q hq hne kind hkind hkind'
    refine hrepeats ?_
    cases hpb : p.isBody with
    | true =>
      obtain rfl := of_decide_eq_true hpb
      have hqb : q.isBody = false := decide_eq_false fun he => hne he.symm
      exact repeats_of_mem_body hid hp hq hqb hkind hkind'
    | false =>
      cases hqb : q.isBody with
      | true =>
        obtain rfl := of_decide_eq_true hqb
        exact repeats_of_mem_body hid hq hp hpb hkind' hkind
      | false =>
        have hname : ∀ r : Path, r.isBody = false → kind ∈ kindsUnder record paths name r →
            r.unmarked = name := by
          intro r hr hk
          rw [kindsUnder_of_not_isBody hr hid] at hk
          split at hk
          · assumption
          · cases hk
        obtain ⟨rfl, hexact, rfl⟩ | ⟨rfl, hexact, rfl⟩ :=
          exists_marked (hname p hpb hkind) (hname q hqb hkind') hne
        · exact repeats_of_mem_marked hid hp hq hpb hexact hkind hkind'
        · exact repeats_of_mem_marked hid hq hp hqb hexact hkind' hkind

/-- A truth value under the plain path of a word and the marked one of a regular expression. -/
theorem not_indexesOnce_boolean :
    ¬(project (.object [("b", .bool true), ("id", .number (.natural 1))])
      (Query.Clause.boolean [(.should, .term "b" "true"), (.should, .regexp "b" "true")]).paths
      ).IndexesOnce "b" := by
  have hkinds : ((project (.object [("b", .bool true), ("id", .number (.natural 1))])
      (Query.Clause.boolean [(.should, .term "b" "true"),
        (.should, .regexp "b" "true")]).paths).fieldsNamed "b").map (·.kind) = [.text, .text] := by
    decide
  rw [Document.IndexesOnce, hkinds]
  decide

end Record

end RegistrySearch
