import RegistrySearch.Proofs.Segment.Checksum

/-!
# Damaged segments are found out

A body is read from the bytes of its segment and from no others (`decode_eq_ok_iff`). Two segments
of one length that differ in a window of four bytes only (`AgreeOutside`) do not exist: in front of
the bytes that end every segment both take the register to the residue, and the register tells the
two windows apart. So a segment that is changed in such a window is no segment any more, wherever
the window lies.
-/

namespace RegistrySearch.Segment

/-- Two strings of bytes are equally long and differ at most in the four places from `start` on. -/
structure AgreeOutside (start : Nat) (xs ys : List UInt8) : Prop where
  length_eq : xs.length = ys.length
  getElem?_eq : ∀ i, i < start ∨ start + 4 ≤ i → xs[i]? = ys[i]?

namespace AgreeOutside

variable {start : Nat} {xs ys : List UInt8}

/-- What stands in front of two strings that agree outside of a window does so, too. -/
theorem take (h : AgreeOutside start xs ys) (n : Nat) :
    AgreeOutside start (xs.take n) (ys.take n) := by
  refine ⟨by rw [List.length_take, List.length_take, h.length_eq], fun i hi => ?_⟩
  rw [List.getElem?_take, List.getElem?_take, h.getElem?_eq i hi]

/-- Two strings that agree outside of a window are equal if they leave the register, fed from one
state on, in one state. -/
theorem eq_of_feed_eq (h : AgreeOutside start xs ys) {c : UInt32} (hfeed : feed c xs = feed c ys) :
    xs = ys := by
  have hfront : xs.take start = ys.take start := by
    refine List.ext_getElem? fun i => ?_
    rw [List.getElem?_take, List.getElem?_take]
    split
    · next hi => exact h.getElem?_eq i (.inl hi)
    · rfl
  have hback : (xs.drop start).drop 4 = (ys.drop start).drop 4 := by
    refine List.ext_getElem? fun i => ?_
    rw [List.drop_drop, List.drop_drop, List.getElem?_drop, List.getElem?_drop]
    exact h.getElem?_eq _ (.inr (by omega))
  have hparts : ∀ zs : List UInt8,
      zs = zs.take start ++ ((zs.drop start).take 4 ++ (zs.drop start).drop 4) := fun zs => by
    rw [List.take_append_drop, List.take_append_drop]
  -- what follows the window is taken back, so that only the window is left to compare
  have hwindow : (xs.drop start).take 4 = (ys.drop start).take 4 := by
    rw [hparts xs, hparts ys, feed_append, feed_append, feed_append, feed_append, hfront,
      hback] at hfeed
    refine Segment.eq_of_feed_eq ?_ ?_ (feed_injective _ hfeed)
    · rw [List.length_take, List.length_take, List.length_drop, List.length_drop, h.length_eq]
    · rw [List.length_take]
      omega
  rw [hparts xs, hparts ys, hfront, hback, hwindow]

end AgreeOutside

/-! ### Segments -/

/-- A body with its check sum. -/
def protectedPart (body : List UInt8) : List UInt8 := body ++ littleEndian (crc32 body)

theorem encode_eq (body : List UInt8) : encode body = protectedPart body ++ magic := rfl

theorem take_encode (body : List UInt8) :
    (encode body).take (body.length + 4) = protectedPart body := by
  have hlength : (protectedPart body).length = body.length + 4 := by
    rw [protectedPart, List.length_append, length_littleEndian]
  rw [encode_eq, ← hlength, List.take_left]

theorem feed_protectedPart (body : List UInt8) : feed 0xFFFFFFFF (protectedPart body) = residue :=
  (feed_append_eq_residue_iff (length_littleEndian _)).mpr (ofLittleEndian_littleEndian _)

/-- **Distance.** Two segments that differ in a window of four bytes only are equal. -/
theorem encode_eq_of_agreeOutside {start : Nat} {body body' : List UInt8}
    (h : AgreeOutside start (encode body) (encode body')) : encode body = encode body' := by
  have hlength := h.length_eq
  rw [length_encode, length_encode] at hlength
  have hprotected := h.take (body.length + 4)
  rw [take_encode, show body.length + 4 = body'.length + 4 by omega, take_encode] at hprotected
  rw [encode_eq, encode_eq, hprotected.eq_of_feed_eq
    ((feed_protectedPart body).trans (feed_protectedPart body').symm)]

/-- A body is read from its segment, and from no other bytes. -/
theorem decode_eq_ok_iff {bytes body : List UInt8} :
    decode bytes = .ok body ↔ bytes = encode body := by
  refine ⟨fun h => ?_, fun h => h ▸ decode_encode body⟩
  simp only [decode] at h
  split at h
  · cases h
  · next hlong =>
    split at h
    · cases h
    · next hmagic =>
      split at h
      · cases h
      · next hchecksum =>
        cases h
        rw [Classical.not_not] at hmagic hchecksum
        have hstored : ((bytes.drop (bytes.length - footerLength)).take 4) =
            littleEndian (crc32 (bytes.take (bytes.length - footerLength))) := by
          have hlength : ((bytes.drop (bytes.length - footerLength)).take 4).length = 4 := by
            rw [List.length_take, List.length_drop]
            simp only [footerLength] at hlong ⊢
            omega
          refine eq_of_ofLittleEndian_eq hlength (Nat.le_of_eq hlength) ?_
          rw [hchecksum, ofLittleEndian_littleEndian]
        rw [encode, ← hstored, ← hmagic, List.append_assoc, List.take_append_drop,
          List.take_append_drop]

/-! ### Changed segments -/

/-- A segment that is changed in a window of four bytes is damaged. -/
theorem exists_damage_of_agreeOutside {start : Nat} {bytes body : List UInt8}
    (h : AgreeOutside start bytes (encode body)) (hne : bytes ≠ encode body) :
    ∃ damage, decode bytes = .error damage := by
  cases hdecode : decode bytes with
  | error damage => exact ⟨damage, rfl⟩
  | ok body' =>
    have hbytes := decode_eq_ok_iff.mp hdecode
    exact absurd (hbytes.trans (encode_eq_of_agreeOutside (hbytes ▸ h))) hne

theorem agreeOutside_set (bytes : List UInt8) (i : Nat) (b : UInt8) :
    AgreeOutside i (bytes.set i b) bytes := by
  refine ⟨List.length_set, fun j hj => ?_⟩
  exact List.getElem?_set_ne (by omega)

end RegistrySearch.Segment
