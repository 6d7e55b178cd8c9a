import RegistrySearch.Json.Decode
import RegistrySearch.Proofs.Dictionary
import RegistrySearch.Proofs.Json.Trees

/-!
# Typed data is read as written

The trees of words, lists, pairs, dictionaries and records are read as the data that were written,
provided that the parts are. The reading of items is a hypothesis of the lemmas for lists and
dictionaries, in the shape in which the lemma for the items concludes it, so that what is nested is
read without opening the readers again.
-/

namespace RegistrySearch.Json

/-- If the images of elements are mapped to something, so are those of a list. -/
theorem mapM_map_eq {α β γ : Type} {f : α → β} {g : β → Option γ} {k : α → γ} {xs : List α}
    (h : ∀ x ∈ xs, g (f x) = some (k x)) : (xs.map f).mapM g = some (xs.map k) := by
  induction xs with
  | nil => rfl
  | cons x xs ih =>
    have hx := h x List.mem_cons_self
    have hxs := ih fun y hy => h y (List.mem_cons_of_mem x hy)
    rw [List.map_cons, List.mapM_cons, hx, hxs]
    rfl

namespace Value

theorem isWhole_int {n : Int} (h : -2 ^ 63 ≤ n) : (int n).IsWhole :=
  .number (Number.isWhole_ofInt h)

theorem isWhole_nat (n : Nat) : (nat n).IsWhole := isWhole_int (by omega)

/-- An array of whole values is whole. -/
theorem isWhole_array {α : Type} {f : α → Value} {xs : List α} (h : ∀ x ∈ xs, (f x).IsWhole) :
    (array (xs.map f)).IsWhole := by
  refine .array fun v hv => ?_
  obtain ⟨x, hx, rfl⟩ := List.mem_map.mp hv
  exact h x hx

end Value

namespace Tree

/-! ### Words -/

theorem number?_tree {n : Int} (hlo : -2 ^ 63 ≤ n) :
    (Value.int n).tree.number? = some (.ofInt n) :=
  Number.value?_text (Number.isWhole_ofInt hlo)

theorem int64?_tree (w : Int64) : (Value.int w.toInt).tree.int64? = some w := by
  have hlo : -2 ^ 63 ≤ w.toInt := Int64.le_toInt w
  have hhi : w.toInt < 2 ^ 63 := Int64.toInt_lt w
  rw [int64?, number?_tree hlo, Option.bind_some, Number.int64?,
    Number.integer?_ofInt hlo (by omega), Option.bind_some, Numeral.int64?, if_pos ⟨hlo, hhi⟩,
    Int64.ofInt_toInt]

theorem uint64?_tree (w : UInt64) : (Value.nat w.toNat).tree.uint64? = some w := by
  have hlt := UInt64.toNat_lt w
  rw [uint64?, Value.nat, number?_tree (by omega), Option.bind_some, Number.ofInt,
    if_neg (by omega), Int.toNat_natCast, Nat.min_eq_left (by omega), Number.uint64?, Nat.toUInt64,
    UInt64.ofNat_toNat]

theorem uint32?_tree (w : UInt32) : (Value.nat w.toNat).tree.uint32? = some w := by
  have hlt := UInt32.toNat_lt w
  have hword : (UInt64.ofNat w.toNat).toNat = w.toNat :=
    UInt64.toNat_ofNat_of_lt' (Nat.lt_trans hlt (by decide))
  rw [uint32?, Value.nat, number?_tree (by omega), Option.bind_some, Number.ofInt,
    if_neg (by omega), Int.toNat_natCast, Nat.min_eq_left (by omega), Number.uint32?,
    Number.uint64?, Option.bind_some, Nat.toUInt64, hword, if_pos hlt, Nat.toUInt32,
    UInt32.ofNat_toNat]

/-! ### Lists and dictionaries -/

section shapes

variable {α : Type} {f : α → Value} {item? : Tree → Option α}

theorem list?_tree {xs : List α} (h : ∀ x ∈ xs, item? (f x).tree = some x) :
    (Value.array (xs.map f)).tree.list? item? = some xs := by
  rw [Value.tree, Value.itemTrees_eq_map, list?, List.map_map, mapM_map_eq (f := Value.tree ∘ f) h,
    List.map_id']

/-- A dictionary is read from its entries, whatever their order. -/
theorem dictionary?_tree_of_perm {d : Dictionary String α} {entries : List (String × α)}
    (hp : entries.Perm d.entries) (h : ∀ a, item? (f a).tree = some a) :
    (Value.object (entries.map fun e => (e.1, f e.2))).tree.dictionary? item? = some d := by
  rw [Value.tree, dictionary?, Value.memberTrees_eq_map, List.map_map,
    mapM_map_eq fun e _ => ?_, List.map_id', Option.map_some, Dictionary.ofList_of_perm hp]
  simp only [Function.comp_apply, Value.codes, text?_codes, h, Option.bind_eq_bind,
    Option.bind_some]

theorem dictionary?_tree {d : Dictionary String α} (h : ∀ a, item? (f a).tree = some a) :
    (Value.object (d.map f).entries).tree.dictionary? item? = some d := by
  rw [Dictionary.entries_map]
  exact dictionary?_tree_of_perm (.refl _) h

end shapes

/-! ### Records -/

/-- Of members with different keys each one is found at its key. -/
theorem member?_of_mem {members : List (String × Tree)} (hn : (members.map (·.1)).Nodup)
    {e : String × Tree} (h : e ∈ members) : member? members e.1 = some (some e.2) := by
  -- the test is left open, since the one of `member?` takes the pair apart
  have hfilter : ∀ p : String × Tree → Bool, (∀ m, p m = decide (m.1 = e.1)) →
      members.filter p = [e] := by
    intro p hp
    rw [funext hp, filter_key_eq_singleton hn h]
  rw [member?, hfilter]
  exact fun _ => rfl

/-- The fields of a record are found under their names. -/
theorem fields?_tree {names : List String} {entries : List (String × Value)} (hn : names.Nodup)
    (hnames : entries.map (·.1) = names) :
    (Value.object entries).tree.fields? names = some (entries.map fun e => some e.2.tree) := by
  subst hnames
  have hnamed : (Value.object entries).tree.namedMembers? (entries.map (·.1)) =
      some (entries.map fun e => (e.1, e.2.tree)) := by
    rw [Value.tree, namedMembers?, Value.memberTrees_eq_map]
    exact mapM_map_eq fun e _ => by simp only [Value.codes, text?_codes, Option.map_some]
  rw [fields?, hnamed, Option.bind_some]
  refine mapM_map_eq fun e he => ?_
  have hmem : (e.1, e.2.tree) ∈ entries.map fun e => (e.1, e.2.tree) := List.mem_map_of_mem he
  exact member?_of_mem (by rwa [List.map_map]) hmem

end Tree

end RegistrySearch.Json
