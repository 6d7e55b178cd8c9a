import RegistrySearch.Index.Json
import RegistrySearch.Proofs.Json.Decode

/-!
# Indexes are read as written

Every index, well formed or not, is written as JSON that is read back as the same index. Arrays go
through lists and dictionaries through their entries, which determine them. The order in which the
fields of an index are written does not matter, so this is said of `Index.jsonWith`, which leaves
the order open.
-/

namespace RegistrySearch

open Json (Value Tree)

/-! ### Writing -/

theorem Posting.isWhole_toJson (p : Posting) : p.toJson.IsWhole := by
  refine .object ?_
  simp only [List.forall_mem_cons, List.not_mem_nil, false_implies, implies_true, and_true]
  exact ⟨Value.isWhole_nat _, Value.isWhole_array fun _ _ => Value.isWhole_nat _⟩

theorem PostingList.isWhole_toJson (list : PostingList) : list.toJson.IsWhole := by
  refine .object ?_
  simp only [List.forall_mem_cons, List.not_mem_nil, false_implies, implies_true, and_true]
  exact ⟨Value.isWhole_array fun p _ => p.isWhole_toJson, Value.isWhole_nat _⟩

theorem isWhole_int64 (w : Int64) : (Value.int w.toInt).IsWhole :=
  Value.isWhole_int (Int64.le_toInt w)

theorem isWhole_pointToJson (p : Int64 × Ordinal) : (pointToJson p).IsWhole := by
  refine .array ?_
  simp only [List.forall_mem_cons, List.not_mem_nil, false_implies, implies_true, and_true]
  exact ⟨isWhole_int64 _, Value.isWhole_nat _⟩

theorem isWhole_entries {α : Type} {f : α → Value} (h : ∀ a, (f a).IsWhole)
    (entries : List (String × α)) :
    (Value.object (entries.map fun e => (e.1, f e.2))).IsWhole := by
  refine .object fun e he => ?_
  obtain ⟨e, _, rfl⟩ := List.mem_map.mp he
  exact h e.2

theorem FieldIndex.isWhole_toJson (f : FieldIndex) : f.toJson.IsWhole := by
  refine .object ?_
  simp only [List.forall_mem_cons, List.not_mem_nil, false_implies, implies_true, and_true]
  exact ⟨isWhole_entries PostingList.isWhole_toJson _,
    Value.isWhole_array fun p _ => isWhole_pointToJson p,
    Value.isWhole_array fun _ _ => Value.isWhole_nat _, Value.isWhole_nat _, Value.isWhole_nat _⟩

/-- The JSON value of an index with its fields in the order of `fields`. -/
def Index.jsonWith (index : Index) (fields : List (String × FieldIndex)) : Value :=
  .object [("ids", .array (index.ids.toList.map (.int ·.toInt))),
    ("fields", .object (fields.map fun e => (e.1, e.2.toJson)))]

theorem Index.toJson_eq (index : Index) : index.toJson = index.jsonWith index.fields.entries := rfl

theorem Index.isWhole_jsonWith (index : Index) (fields : List (String × FieldIndex)) :
    (index.jsonWith fields).IsWhole := by
  refine .object ?_
  simp only [List.forall_mem_cons, List.not_mem_nil, false_implies, implies_true, and_true]
  exact ⟨Value.isWhole_array fun w _ => isWhole_int64 w,
    isWhole_entries FieldIndex.isWhole_toJson _⟩

/-! ### Reading -/

theorem arrayOf?_tree {α : Type} {f : α → Value} {item? : Tree → Option α} (xs : Array α)
    (h : ∀ x, item? (f x).tree = some x) :
    arrayOf? item? (Value.array (xs.toList.map f)).tree = some xs := by
  rw [arrayOf?, Tree.list?_tree fun x _ => h x, Option.map_some, Array.toArray_toList]

theorem Posting.ofTree?_toJson (p : Posting) : Posting.ofTree? p.toJson.tree = some p := by
  have hpositions := arrayOf?_tree p.positions Tree.uint32?_tree
  rw [Posting.ofTree?, Posting.toJson, Tree.fields?_tree]
  · simp only [List.map_cons, List.map_nil, Option.bind_eq_bind, Option.bind_some,
      Tree.uint32?_tree, hpositions]
  · decide
  · rfl

theorem PostingList.ofTree?_toJson (list : PostingList) :
    PostingList.ofTree? list.toJson.tree = some list := by
  have hpostings := arrayOf?_tree list.postings Posting.ofTree?_toJson
  rw [PostingList.ofTree?, PostingList.toJson, Tree.fields?_tree]
  · simp only [List.map_cons, List.map_nil, Option.bind_eq_bind, Option.bind_some,
      Tree.uint64?_tree, hpostings]
  · decide
  · rfl

theorem pair?_pointToJson (p : Int64 × Ordinal) :
    Tree.pair? Tree.int64? Tree.uint32? (pointToJson p).tree = some p := by
  have hpair : Tree.pair? Tree.int64? Tree.uint32? (pointToJson p).tree = (do
      some (← (Value.int p.1.toInt).tree.int64?, ← (Value.nat p.2.toNat).tree.uint32?)) := rfl
  rw [hpair, Tree.int64?_tree, Tree.uint32?_tree]
  rfl

theorem FieldIndex.ofTree?_toJson (f : FieldIndex) : FieldIndex.ofTree? f.toJson.tree = some f := by
  have hterms := Tree.dictionary?_tree (d := f.terms) PostingList.ofTree?_toJson
  have hpoints := arrayOf?_tree f.points pair?_pointToJson
  have hlengths := arrayOf?_tree f.lengths Tree.uint32?_tree
  rw [FieldIndex.ofTree?, FieldIndex.toJson, Tree.fields?_tree]
  · simp only [List.map_cons, List.map_nil, Option.bind_eq_bind, Option.bind_some,
      Tree.uint64?_tree, Tree.uint32?_tree, hterms, hpoints, hlengths]
  · decide
  · rfl

/-- **Round trip.** An index is read from the tree that it is written as, whatever the order of its
fields. -/
theorem Index.ofTree?_jsonWith {index : Index} {fields : List (String × FieldIndex)}
    (h : fields.Perm index.fields.entries) :
    Index.ofTree? (index.jsonWith fields).tree = some index := by
  have hids := arrayOf?_tree index.ids Tree.int64?_tree
  have hfields := Tree.dictionary?_tree_of_perm h FieldIndex.ofTree?_toJson
  rw [Index.ofTree?, Index.jsonWith, Tree.fields?_tree]
  · simp only [List.map_cons, List.map_nil, Option.bind_eq_bind, Option.bind_some, hids, hfields]
  · decide
  · rfl

end RegistrySearch
