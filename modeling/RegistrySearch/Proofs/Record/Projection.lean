import Mathlib.Data.List.Basic
import RegistrySearch.Record.Projection

/-!
# The fields of a projection

Sets of paths keep the order of first occurrences, also within a part of them. A path puts its
fields under its name without the marker, so the fields of one name come from the paths of that name
and, apart from them, only from the identifier and the whole record.

`Record.fieldsUnder` is what one path brings under one name, and `Record.fieldsNamed_project_eq`
puts the fields of a name together from it. A path that alone brings its value under a name `Brings`
it; the paths of letters do (`Path.IsPlain`), unless they are those of the whole record and its
identifier.
-/

namespace RegistrySearch

namespace PathSet

theorem paths_insert {s : PathSet} {p : Path} :
    (s.insert p).paths = if p ∈ s.paths then s.paths else s.paths ++ [p] := by
  rw [insert]
  split <;> rfl

theorem mem_paths_ofList {paths : List Path} {p : Path} :
    p ∈ (ofList paths).paths ↔ p ∈ paths := by
  have hfold : ∀ s : PathSet, p ∈ (paths.foldl insert s).paths ↔ p ∈ s.paths ∨ p ∈ paths := by
    induction paths with
    | nil => simp
    | cons q paths ih =>
      intro s
      rw [List.foldl_cons, ih, paths_insert, List.mem_cons]
      split
      · next hq =>
        refine ⟨Or.imp_right .inr, ?_⟩
        rintro (h | rfl | h)
        · exact .inl h
        · exact .inl hq
        · exact .inr h
      · rw [List.mem_append, List.mem_singleton, or_assoc]
  rw [ofList, hfold]
  simp [empty]

/-- **Paths.** Of the paths of a list, those with a property are the paths of the part of the list
that has it. -/
theorem filter_paths_ofList {P : Path → Bool} {paths : List Path} :
    (ofList paths).paths.filter P = (ofList (paths.filter P)).paths := by
  -- both sets grow together, from any that agree on the paths with the property
  have hfold : ∀ s s' : PathSet, s'.paths = s.paths.filter P →
      ((paths.filter P).foldl insert s').paths = (paths.foldl insert s).paths.filter P := by
    induction paths with
    | nil => exact fun _ _ h => h
    | cons p paths ih =>
      intro s s' h
      rw [List.foldl_cons, List.filter_cons]
      split
      · next hp =>
        refine ih (s.insert p) (s'.insert p) ?_
        have hmem : p ∈ s'.paths ↔ p ∈ s.paths := by rw [h, List.mem_filter, and_iff_left hp]
        rw [paths_insert, paths_insert]
        by_cases hin : p ∈ s.paths
        · rw [if_pos hin, if_pos (hmem.mpr hin), h]
        · rw [if_neg hin, if_neg (mt hmem.mp hin), h, List.filter_append,
            List.filter_cons_of_pos hp, List.filter_nil]
      · next hp =>
        refine ih (s.insert p) s' ?_
        rw [paths_insert, h]
        split
        · rfl
        · rw [List.filter_append, List.filter_cons_of_neg hp, List.filter_nil, List.append_nil]
  exact (hfold empty empty rfl).symm

end PathSet

/-- The fields of the value at a path have the name of the path. -/
theorem Field.name_of_mem_ofValue {path : Path} {value : TypedValue} {f : Field}
    (h : f ∈ Field.ofValue path value) : f.name = path.unmarked := by
  cases value with
  | null => cases h
  | number n =>
    simp only [ofValue, List.mem_cons, List.not_mem_nil, or_false] at h
    obtain rfl | rfl := h <;> rfl
  | boolean | array | object =>
    rw [List.mem_singleton.mp h]
    rfl
  | string s =>
    simp only [ofValue] at h
    split at h <;> rw [List.mem_singleton.mp h] <;> rfl

/-- If a part of a list is all that contributes, only what it contributes is left. -/
theorem flatMap_eq_flatMap_filter {α β : Type} {P : α → Prop} [DecidablePred P]
    {f g : α → List β} {xs : List α} (h : ∀ x ∈ xs, f x = if P x then g x else []) :
    xs.flatMap f = (xs.filter P).flatMap g := by
  induction xs with
  | nil => rfl
  | cons x xs ih =>
    rw [List.flatMap_cons, h x List.mem_cons_self, ih fun y hy => h y (List.mem_cons_of_mem x hy),
      List.filter_cons]
    by_cases hx : P x
    · rw [if_pos hx, if_pos (decide_eq_true hx), List.flatMap_cons]
    · rw [if_neg hx, if_neg (by simpa using hx), List.nil_append]

namespace Record

variable {record : Record} {paths : PathSet} {name : String} {p : Path}

/-- The fields that a path brings under a name. -/
def fieldsUnder (record : Record) (paths : PathSet) (name : String) (p : Path) : List Field :=
  (fieldsAt record paths p).filter (·.name = name)

/-- The fields of one name come from the identifier and from what the paths bring under it. -/
theorem fieldsNamed_project_eq :
    (project record paths).fieldsNamed name =
      (project record .empty).fieldsNamed name ++
        paths.paths.flatMap (fieldsUnder record paths name) := by
  have hsplit : (project record paths).fields =
      (project record .empty).fields ++ paths.paths.flatMap (fieldsAt record paths) := rfl
  rw [Document.fieldsNamed, hsplit, List.filter_append, List.filter_flatMap]
  rfl

/-- A path other than that of the whole record brings the fields of its value, under its name. -/
theorem fieldsUnder_of_not_isBody (h : p.isBody = false) :
    fieldsUnder record paths name p =
      if p.unmarked = name then
        if p.isId then [] else Field.ofValue p (resolve record p)
      else [] := by
  have hfields : fieldsAt record paths p =
      if p.isId then [] else Field.ofValue p (resolve record p) := by
    rw [fieldsAt, h]
    rfl
  have hname : ∀ f ∈ fieldsAt record paths p, f.name = p.unmarked := by
    intro f hf
    rw [hfields] at hf
    split at hf
    · cases hf
    · exact Field.name_of_mem_ofValue hf
  rw [fieldsUnder]
  split
  · next he =>
    rw [← hfields]
    exact List.filter_eq_self.mpr fun f hf => by simp [hname f hf, he]
  · next he => exact List.filter_eq_nil_iff.mpr fun f hf => by simp [hname f hf, he]

/-- Paths of one name lead to one value. -/
theorem resolve_congr (h : p.unmarked = q.unmarked) : resolve record p = resolve record q := by
  have hchars : ∀ p : Path, p.unmarkedChars = p.unmarked.toList := fun p => by
    rw [Path.unmarked, String.toList_ofList]
  have hsegments : p.segments = q.segments := by
    rw [Path.segments, Path.segments, hchars p, hchars q, h]
  rw [resolve, resolve, hsegments]

/-- **Fields.** The fields of one name come from the identifier and from the paths of that name,
when the whole record is not asked for. -/
theorem fieldsNamed_project (h : ∀ p ∈ paths.paths, p.isBody = false) :
    (project record paths).fieldsNamed name =
      (project record .empty).fieldsNamed name ++
        (paths.paths.filter (·.unmarked = name)).flatMap fun p =>
          if p.isId then [] else Field.ofValue p (resolve record p) := by
  rw [fieldsNamed_project_eq,
    flatMap_eq_flatMap_filter fun p hp => fieldsUnder_of_not_isBody (h p hp)]

/-! ### The whole record -/

/-- The names of policies have no marker and are not reserved. -/
theorem policyNames_spec : ∀ name ∈ policyNames, (Path.mk name).unmarked = name ∧
    (Path.mk name).isId = false ∧ (Path.mk name).isBody = false := by
  decide

/-- The path of the whole record brings its text, and the policies that no path asks for. -/
theorem fieldsUnder_body :
    fieldsUnder record paths name Path.body =
      [Field.text Path.body.text record.render].filter (·.name = name) ++
        (policyNames.filter (· = name)).filterMap (policyField? record paths) := by
  have hname : ∀ n, ∀ f ∈ policyField? record paths n, f.name = n := by
    intro n f hf
    rw [policyField?] at hf
    split at hf
    · cases hf
    · split at hf
      · split at hf
        · cases hf
        · cases hf
          rfl
      · cases hf
  have hpolicies : (policyNames.filterMap (policyField? record paths)).filter (·.name = name) =
      (policyNames.filter (· = name)).filterMap (policyField? record paths) := by
    rw [List.filter_filterMap, List.filterMap_filter]
    refine List.filterMap_congr fun n _ => ?_
    cases hf : policyField? record paths n with
    | none => simp
    | some f =>
      have hn := hname n f hf
      simp only [Option.filter_some, hn]
  have hfields : fieldsAt record paths Path.body =
      [Field.text Path.body.text record.render] ++
        policyNames.filterMap (policyField? record paths) := rfl
  rw [fieldsUnder, hfields, List.filter_append, hpolicies]

/-- A policy that no path asks for has a field, if it is there and not null. -/
theorem policyField?_of_not_contains (h : paths.contains ⟨name⟩ = false) :
    policyField? record paths name =
      ((record.get? name).filter fun value => !value.isNull).map fun value =>
        .text name value.render := by
  rw [policyField?, h]
  cases hv : record.get? name with
  | none => rfl
  | some value => cases hn : value.isNull <;> simp [hn, Option.filter_some]

theorem fieldsUnder_body_self : fieldsUnder record paths Path.body.text Path.body =
    [.text Path.body.text record.render] := by
  have hnone : policyNames.filter (· = Path.body.text) = [] := by decide
  rw [fieldsUnder_body, hnone, List.filter_cons_of_pos (by simp [Field.text])]
  rfl

theorem fieldsUnder_body_of_mem (h : name ∈ policyNames) :
    fieldsUnder record paths name Path.body = (policyField? record paths name).toList := by
  have hone : ∀ n ∈ policyNames, policyNames.filter (· = n) = [n] ∧ n ≠ Path.body.text := by decide
  have hbody : [Field.text Path.body.text record.render].filter (·.name = name) = [] := by
    rw [List.filter_eq_nil_iff]
    simpa [Field.text] using (hone name h).2.symm
  rw [fieldsUnder_body, hbody, (hone name h).1, List.nil_append]
  cases hf : policyField? record paths name <;> simp [hf]

theorem fieldsUnder_body_of_notMem (hname : name ≠ Path.body.text) (h : name ∉ policyNames) :
    fieldsUnder record paths name Path.body = [] := by
  have hbody : [Field.text Path.body.text record.render].filter (·.name = name) = [] := by
    rw [List.filter_eq_nil_iff]
    simpa [Field.text] using hname.symm
  have hnone : policyNames.filter (· = name) = [] :=
    List.filter_eq_nil_iff.mpr fun n hn he => h (of_decide_eq_true he ▸ hn)
  rw [fieldsUnder_body, hbody, hnone]
  rfl

end Record

/-! ### Names of paths -/

namespace Path

variable {p : Path} {name : String}

theorem unmarked_eq_text (h : p.isExact = false) : p.unmarked = p.text := by
  rw [unmarked, unmarkedChars, h]
  exact String.ofList_toList

/-- Without its marker a path has another name. -/
theorem unmarked_ne_text (h : p.isExact = true) : p.unmarked ≠ p.text := by
  intro he
  have hle : exactMarker.length ≤ p.text.toList.length :=
    (List.isSuffixOf_iff_suffix.mp h).length_le
  have hlength := congrArg (fun s : String => s.toList.length) he
  simp only [unmarked, unmarkedChars, h, if_true, String.toList_ofList, List.length_take] at hlength
  have hmarker : exactMarker.length = 4 := rfl
  omega

/-- A path goes by its own text exactly if it has no marker. -/
theorem unmarked_eq_text_iff : p.unmarked = p.text ↔ p.isExact = false := by
  refine ⟨fun h => ?_, unmarked_eq_text⟩
  rw [← Bool.not_eq_true]
  exact fun hexact => unmarked_ne_text hexact h

/-- A path without marker is its name. -/
theorem eq_mk_of_isExact_eq (h : p.isExact = false) : p = ⟨p.unmarked⟩ := by
  rw [unmarked_eq_text h]

theorem isExact_exact : (exact name).isExact = true := by
  rw [isExact, exact, String.toList_append, String.toList_ofList]
  exact List.isSuffixOf_iff_suffix.mpr (List.suffix_append _ _)

theorem unmarked_exact : (exact name).unmarked = name := by
  have hlength : name.toList.length + exactMarker.length - exactMarker.length =
      name.toList.length := Nat.add_sub_cancel _ _
  rw [unmarked, unmarkedChars, if_pos isExact_exact, exact, String.toList_append,
    String.toList_ofList, List.length_append, hlength, List.take_left, String.ofList_toList]

/-- A path with the marker is the marked path of its name. -/
theorem eq_exact_of_isExact (h : p.isExact = true) : p = exact p.unmarked := by
  obtain ⟨s, hs⟩ := List.isSuffixOf_iff_suffix.mp h
  have htext : p.text = String.ofList (s ++ exactMarker) := by rw [hs, String.ofList_toList]
  have hexact : p = exact (String.ofList s) := by
    rw [exact, ← String.ofList_append, ← htext]
  rw [hexact, unmarked_exact]

theorem isBody_exact : (exact name).isBody = false := by
  rw [isBody, decide_eq_false_iff_not]
  intro h
  have hexact : (exact name).isExact = true := isExact_exact
  rw [h] at hexact
  exact absurd hexact (by decide)

/-- A path without dots is one key. -/
theorem segments_of_notMem (h : '.' ∉ p.unmarked.toList) : p.segments = [p.unmarked] := by
  rw [unmarked, String.toList_ofList] at h
  rw [segments, Text.splitAt_of_notMem h]
  rfl

end Path

/-- The value at a path of one key is that of the entry. -/
theorem Record.resolve_of_notMem {record : Record} {p : Path} (h : '.' ∉ p.unmarked.toList) :
    resolve record p = ((record.get? p.unmarked).map TypedValue.ofJson).getD .null := by
  rw [resolve, Path.segments_of_notMem h]
  cases hv : record.get? p.unmarked <;> simp [lookup?, hv]

/-- The value of a policy stands at its name. -/
theorem Record.resolve_policy {record : Record} {name : String} (h : name ∈ policyNames) :
    resolve record ⟨name⟩ = ((record.get? name).map TypedValue.ofJson).getD .null := by
  have hdot : ∀ n ∈ policyNames, '.' ∉ n.toList := by decide
  have hname := (policyNames_spec name h).1
  rw [resolve_of_notMem (by rw [hname]; exact hdot name h), hname]

/-! ### One path alone -/

/-- On a path alone, the fields of a name are those of the value at the path. -/
def Path.Brings (p : Path) (name : String) : Prop :=
  ∀ record, (Record.project record (.ofList [p])).fieldsNamed name =
    Field.ofValue p (Record.resolve record p)

/-- Without paths there are the fields of the identifier alone. -/
theorem Record.fieldsNamed_project_empty {name : String} (h : name ≠ Path.idName)
    (record : Record) : (project record .empty).fieldsNamed name = [] := by
  refine List.filter_eq_nil_iff.mpr fun f hf => ?_
  have hname : f.name = Path.idName := by
    obtain rfl | hf := List.mem_cons.mp hf
    · rfl
    · rw [List.mem_singleton.mp hf]
      rfl
  rw [hname, decide_eq_true_eq]
  exact Ne.symm h

section alone

variable {p : Path} {name : String} (hbody : p.isBody = false) (hid : name ≠ Path.idName)

include hbody hid

/-- A path alone brings the fields of its value, under its name without the marker. -/
theorem Record.fieldsNamed_project_ofList (record : Record) :
    (project record (.ofList [p])).fieldsNamed name =
      if p.unmarked = name then Field.ofValue p (resolve record p) else [] := by
  have hpaths : ∀ q ∈ (PathSet.ofList [p]).paths, q.isBody = false := by
    intro q hq
    rwa [List.mem_singleton.mp (PathSet.mem_paths_ofList.mp hq)]
  have hsingle : (PathSet.ofList [p]).paths = [p] := rfl
  rw [fieldsNamed_project hpaths, fieldsNamed_project_empty hid, List.nil_append, hsingle]
  split
  · next hname =>
    have hnotId : p.isId = false := by
      rw [Path.isId, hname]
      exact decide_eq_false hid
    rw [List.filter_cons_of_pos (by simpa using hname), List.filter_nil, List.flatMap_singleton,
      hnotId]
    rfl
  · next hname =>
    rw [List.filter_cons_of_neg (by simpa using hname), List.filter_nil]
    rfl

theorem Path.brings_of_unmarked (hname : p.unmarked = name) : p.Brings name := fun record => by
  rw [Record.fieldsNamed_project_ofList hbody hid, if_pos hname]

end alone

/-! ### Plain paths -/

/-- A path of keys of ASCII letters that is neither that of the whole record nor that of its
identifier. -/
structure Path.IsPlain (p : Path) : Prop where
  toList_ne_nil : p.text.toList ≠ []
  isLetter : ∀ c ∈ p.text.toList, c.isAlpha ∨ c = '.'
  ne_body : p ≠ .body
  ne_id : p.text ≠ idName

instance (p : Path) : Decidable p.IsPlain :=
  decidable_of_iff (p.text.toList ≠ [] ∧ (p.text.toList.all fun c => c.isAlpha || c = '.') ∧
      p ≠ .body ∧ p.text ≠ Path.idName) <| by
    simp only [List.all_eq_true, Bool.or_eq_true, decide_eq_true_eq]
    exact ⟨fun h => ⟨h.1, h.2.1, h.2.2.1, h.2.2.2⟩,
      fun h => ⟨h.toList_ne_nil, h.isLetter, h.ne_body, h.ne_id⟩⟩

namespace Path.IsPlain

variable {p : Path}

/-- A plain path has no marker, which has a hyphen. -/
theorem isExact_eq (h : p.IsPlain) : p.isExact = false := by
  rw [← Bool.not_eq_true]
  intro hexact
  have hmem : '-' ∈ p.text.toList := (List.isSuffixOf_iff_suffix.mp hexact).mem List.mem_cons_self
  obtain hletter | hdot := h.isLetter '-' hmem
  · exact absurd hletter (by decide)
  · exact absurd hdot (by decide)

theorem unmarked_eq (h : p.IsPlain) : p.unmarked = p.text := unmarked_eq_text h.isExact_eq

theorem isBody_eq (h : p.IsPlain) : p.isBody = false := decide_eq_false h.ne_body

theorem brings (h : p.IsPlain) : p.Brings p.text :=
  brings_of_unmarked h.isBody_eq h.ne_id h.unmarked_eq

/-- On a plain path alone, the fields of its name are those of the value at the path. -/
theorem fieldsNamed_project (h : p.IsPlain) (record : Record) :
    (Record.project record (.ofList [p])).fieldsNamed p.text =
      Field.ofValue p (Record.resolve record p) := h.brings record

end Path.IsPlain

end RegistrySearch
