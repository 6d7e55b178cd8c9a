import RegistrySearch.Proofs.Segment.Integrity
import RegistrySearch.Store

/-!
# Segments in the store

The store keeps the bytes of a segment as they were put in, and gives them back if segments can be
read at all. An index that is written to a call directory is then opened and searched there like the
index itself, and bytes that are no segment any more are refused when the directory is opened.
-/

namespace RegistrySearch.Store

open Segment (AgreeOutside Holds decode encode ofIndex)

variable {s : Store} {call : Call} {index : Index} {bytes : List UInt8}

private theorem lookup_set {calls : List (Call × Option (List UInt8))}
    {segment : Option (List UInt8)} (h : (calls.lookup call).isSome) :
    (calls.map fun (c, old) => (c, if c = call then segment else old)).lookup call =
      some segment := by
  induction calls with
  | nil => cases h
  | cons c calls ih =>
    obtain ⟨c, old⟩ := c
    rw [lookup_cons_ite] at h
    rw [List.map_cons, lookup_cons_ite]
    by_cases hc : c = call
    · rw [if_pos hc, if_pos hc]
    · rw [if_neg hc] at h ⊢
      exact ih h

/-- A call directory that is there holds the segment that was put in. -/
theorem segment?_setSegment (h : s.has call) (segment : Option (List UInt8)) :
    (s.setSegment call segment).segment? call = segment := by
  rw [segment?, setSegment, lookup_set h, Option.join_some]

theorem write_eq (hs : s.takesSegments) (hc : s.has call) (index : Index) :
    s.write call index = .ok (s.setSegment call (some (ofIndex index))) := by
  rw [write, hs, hc]
  rfl

/-! ### Reading -/

/-- A segment that cannot be read is like none. -/
theorem openIndex_of_not_givesSegments (h : ¬ s.givesSegments) :
    s.openIndex call = .error .missing :=
  if_pos (by simpa using h)

theorem openIndex_of_segment? (hg : s.givesSegments) (hs : s.segment? call = some bytes) :
    s.openIndex call = (Segment.readIndex bytes).mapError .unreadable := by
  rw [openIndex, if_neg (by simpa using hg), hs]

theorem openIndex_of_holds (hg : s.givesSegments) (hs : s.segment? call = some bytes)
    (h : Holds bytes index) : s.openIndex call = .ok index := by
  rw [openIndex_of_segment? hg hs, Segment.readIndex_of_holds h]
  rfl

theorem openIndex_of_damage {damage : Segment.Damage} (hg : s.givesSegments)
    (hs : s.segment? call = some bytes) (h : decode bytes = .error damage) :
    s.openIndex call = .error (.unreadable (.damaged damage)) := by
  rw [openIndex_of_segment? hg hs, Segment.readIndex, h]
  rfl

/-- The index of a call directory is read as it was written. -/
theorem openIndex_write (hs : s.takesSegments) (hg : s.givesSegments) (hc : s.has call)
    (index : Index) :
    ∃ written, s.write call index = .ok written ∧ written.openIndex call = .ok index :=
  ⟨_, write_eq hs hc index,
    openIndex_of_holds hg (segment?_setSegment hc _) (Segment.holds_ofIndex index)⟩

/-- **Storage.** A call directory that is there takes every index as a segment, with the fields in
some order. Whatever this order is, the index that is opened is the one that was written, and its
search gives the hits of the evaluation, each with the identifier stored for it, or the error of the
evaluation. -/
theorem search_openIndex_write (hs : s.takesSegments) (hg : s.givesSegments) (hc : s.has call)
    (index : Index) :
    (∃ bytes, Holds bytes index ∧
      s.write call index = .ok (s.setSegment call (some bytes))) ∧
    ∀ bytes, Holds bytes index →
      (s.setSegment call (some bytes)).openIndex call = .ok index ∧
      ∀ clause limit,
        ((s.setSegment call (some bytes)).openIndex call).bind (·.search clause limit) =
          match index.evaluate clause limit with
          | .ok hits => .ok (hits.map fun h => ⟨h.doc, h.score, index.storedId? h.doc⟩)
          | .error e => .error (.invalidPattern e) := by
  refine ⟨⟨_, Segment.holds_ofIndex index, write_eq hs hc index⟩, fun bytes h => ?_⟩
  have hopen : (s.setSegment call (some bytes)).openIndex call = .ok index :=
    openIndex_of_holds hg (segment?_setSegment hc _) h
  refine ⟨hopen, fun clause limit => ?_⟩
  rw [hopen]
  rfl

/-- A store with one call directory. -/
private abbrev single : Store := ⟨true, true, true, .whole, ["ada"], [(⟨"ada", 0⟩, none)], 1⟩

/-- An index of no documents: the name of its field needs escapes, and its parts do not fit
together. -/
private abbrev illFormed : Index :=
  ⟨#[Int64.minValue, Int64.maxValue], .ofList [("a\"\\\n",
    ⟨.ofList [("", ⟨#[⟨7, #[3, 3]⟩], 18446744073709551615⟩)], #[(-1, 4294967295)], #[], 5, 0⟩)]⟩

/-- An index is opened as it was written also where no documents have it. -/
theorem search_openIndex_write_illFormed :
    single.takesSegments ∧ single.givesSegments ∧ single.has ⟨"ada", 0⟩ ∧
      ∃ written, single.write ⟨"ada", 0⟩ illFormed = .ok written ∧
        written.openIndex ⟨"ada", 0⟩ = .ok illFormed := by
  have hcall : single.has ⟨"ada", 0⟩ := by decide
  obtain ⟨⟨bytes, hholds, hwrite⟩, hopen⟩ := search_openIndex_write rfl rfl hcall illFormed
  exact ⟨rfl, rfl, hcall, _, hwrite, (hopen bytes hholds).1⟩

/-! ### Damage -/

/-- A segment of an index is damaged as soon as one of its bytes is changed. -/
theorem openIndex_set {i : Nat} {b : UInt8} (hg : s.givesSegments) (hc : s.has call)
    (h : Holds bytes index) (hi : i < bytes.length) (hb : b ≠ bytes[i]) :
    ∃ damage, (s.setSegment call (some (bytes.set i b))).openIndex call =
      .error (.unreadable (.damaged damage)) := by
  obtain ⟨fields, -, rfl⟩ := h
  have hne : ∀ body, ∀ hi : i < (encode body).length, b ≠ (encode body)[i] →
      (encode body).set i b ≠ encode body := by
    intro body hi hb heq
    have hget := List.getElem_of_eq heq (by rwa [List.length_set])
    rw [List.getElem_set_self] at hget
    exact hb hget
  obtain ⟨damage, hdamage⟩ := Segment.exists_damage_of_agreeOutside
    (Segment.agreeOutside_set _ i b) (hne _ hi hb)
  exact ⟨damage, openIndex_of_damage hg (segment?_setSegment hc _) hdamage⟩

/-- **Integrity.** A body is read from the bytes of its segment and from no others. Bytes that
differ from a segment in a window of four only, but there in one bit at least, are damaged. So is
the segment of an index in a call directory, when one byte of it is changed. -/
theorem segment_integrity (s : Store) (call : Call) (index : Index) (body bytes : List UInt8)
    (start i : Nat) (b : UInt8) :
    (decode bytes = .ok body ↔ bytes = encode body) ∧
    (AgreeOutside start bytes (encode body) → bytes ≠ encode body →
      ∃ damage, decode bytes = .error damage) ∧
    (s.givesSegments → s.has call → ∀ segment, Holds segment index → ∀ h : i < segment.length, b ≠ segment[i] →
      ∃ damage, (s.setSegment call (some (segment.set i b))).openIndex call =
        .error (.unreadable (.damaged damage))) :=
  ⟨Segment.decode_eq_ok_iff, Segment.exists_damage_of_agreeOutside,
    fun hg hc _ h hi hb => openIndex_set hg hc h hi hb⟩

/-- The text of an empty object, with three bytes changed across the border of the body and the
check sum. -/
private abbrev changed : List UInt8 :=
  [0x7B, 0x00, 0x01, 0xBF, 0x00, 0xA3, 0x52, 0x53, 0x45, 0x47]

private theorem agreeOutside_changed : AgreeOutside 1 changed (encode [0x7B, 0x7D]) := by
  refine ⟨by decide +kernel, fun i hi => ?_⟩
  have hback : changed.drop 5 = (encode [0x7B, 0x7D]).drop 5 := by decide +kernel
  obtain hi | hi := hi
  · obtain rfl : i = 0 := by omega
    decide +kernel
  · obtain ⟨k, rfl⟩ := Nat.exists_eq_add_of_le hi
    rw [← List.getElem?_drop, hback, List.getElem?_drop]

/-- A change across that border is found, and one of the first byte of a segment. -/
theorem segment_integrity_changed :
    changed ≠ encode [0x7B, 0x7D] ∧ (∃ damage, decode changed = .error damage) ∧
      single.givesSegments ∧ single.has ⟨"ada", 0⟩ ∧ Holds (ofIndex illFormed) illFormed ∧
      ∃ damage, (single.setSegment ⟨"ada", 0⟩ (some ((ofIndex illFormed).set 0 0))).openIndex
        ⟨"ada", 0⟩ = .error (.unreadable (.damaged damage)) := by
  have hne : changed ≠ encode [0x7B, 0x7D] := by decide +kernel
  have hcall : single.has ⟨"ada", 0⟩ := by decide
  have hholds := Segment.holds_ofIndex illFormed
  obtain ⟨-, hburst, hbyte⟩ := segment_integrity single ⟨"ada", 0⟩ illFormed [0x7B, 0x7D] changed
    1 0 0
  exact ⟨hne, hburst agreeOutside_changed hne, rfl, hcall, hholds,
    hbyte rfl hcall _ hholds (by decide +kernel) (by decide +kernel)⟩

end RegistrySearch.Store
