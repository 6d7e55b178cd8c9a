import RegistrySearch.Proofs.Index.RoundTrip
import RegistrySearch.Segment.Basic

/-!
# Segments are read as written

The footer of a segment is cut off where it was put on, the stored check sum is the one that was
computed, and the body is the text of the index in bytes. The fields of the index may stand in any
order in that text: bytes `Holds` an index if they are a segment of it in some order.
-/

namespace RegistrySearch.Segment

theorem length_littleEndian (w : UInt32) : (littleEndian w).length = 4 := rfl

/-- A word is its lowest byte behind its other bytes. -/
theorem shiftLeft_or_toUInt8 (w : UInt32) : (w >>> 8) <<< 8 ||| w.toUInt8.toUInt32 = w := by
  apply UInt32.toBitVec_inj.mp
  ext i hi
  simp only [UInt32.toBitVec_or, UInt32.toBitVec_shiftLeft, UInt32.toBitVec_shiftRight,
    UInt8.toBitVec_toUInt32, UInt32.toBitVec_toUInt8]
  by_cases h : i < 8
  · simp [h, BitVec.getLsbD_eq_getElem hi]
  · simp [h, show 8 + (i - 8) = i by omega, BitVec.getLsbD_eq_getElem hi]

theorem shiftRight_shiftRight (w : UInt32) :
    (w >>> 8) >>> 8 = w >>> 16 ∧ (w >>> 16) >>> 8 = w >>> 24 ∧ (w >>> 24) >>> 8 = 0 := by
  refine ⟨?_, ?_, ?_⟩
  all_goals
    apply UInt32.toBitVec_inj.mp
    ext i hi
    simp

/-- A word is read from its bytes. -/
theorem ofLittleEndian_littleEndian (w : UInt32) : ofLittleEndian (littleEndian w) = w := by
  obtain ⟨h16, h24, h32⟩ := shiftRight_shiftRight w
  simp only [ofLittleEndian, littleEndian, List.foldr_cons, List.foldr_nil]
  rw [← h32, shiftLeft_or_toUInt8, ← h24, shiftLeft_or_toUInt8, ← h16, shiftLeft_or_toUInt8,
    shiftLeft_or_toUInt8]

theorem length_encode (body : List UInt8) : (encode body).length = body.length + footerLength := by
  simp [encode, length_littleEndian, magic, footerLength]

/-- **Footer.** The body of a segment is read back, whatever it holds. -/
theorem decode_encode (body : List UInt8) : decode (encode body) = .ok body := by
  have hlength := length_encode body
  -- the body ends where its length says, and the footer starts there
  have hsplit : encode body = body ++ (littleEndian (crc32 body) ++ magic) :=
    List.append_assoc _ _ _
  have htake : (encode body).take body.length = body := by rw [hsplit, List.take_left]
  have hdrop : (encode body).drop body.length = littleEndian (crc32 body) ++ magic := by
    rw [hsplit, List.drop_left]
  have hchecksum : (littleEndian (crc32 body) ++ magic).take 4 = littleEndian (crc32 body) := rfl
  have hmagic : (littleEndian (crc32 body) ++ magic).drop 4 = magic := rfl
  rw [decode, if_neg (by omega)]
  simp only [hlength, Nat.add_sub_cancel, htake, hdrop, hchecksum, hmagic,
    ofLittleEndian_littleEndian, ne_eq, not_true_eq_false, if_false]

theorem utf8Decode?_utf8Encode (text : List Char) : utf8Decode? (utf8Encode text) = some text := by
  have hbytes : ByteArray.mk (utf8Encode text).toArray = text.utf8Encode := by
    rw [utf8Encode, List.utf8Encode, ByteArray.ext_iff, List.data_toByteArray]
  rw [utf8Decode?, hbytes, List.utf8Decode?_utf8Encode]
  rfl

/-- Bytes are a segment of an index: its JSON text with the fields in some order, and the footer of
these. -/
def Holds (bytes : List UInt8) (index : Index) : Prop :=
  ∃ fields, fields.Perm index.fields.entries ∧
    bytes = encode (utf8Encode (index.jsonWith fields).renderChars)

/-- The fields are written in ascending order. -/
theorem holds_ofIndex (index : Index) : Holds (ofIndex index) index :=
  ⟨index.fields.entries, .refl _, by rw [ofIndex, body, Index.toJson_eq]⟩

/-- **Round trip.** Every index is read from its segments. -/
theorem readIndex_of_holds {bytes : List UInt8} {index : Index} (h : Holds bytes index) :
    readIndex bytes = .ok index := by
  obtain ⟨fields, hperm, rfl⟩ := h
  have htree := Json.Tree.read?_renderChars (index.isWhole_jsonWith fields)
  have hindex := Index.ofTree?_jsonWith hperm
  rw [readIndex, decode_encode]
  simp only [utf8Decode?_utf8Encode, Option.bind_some, htree, hindex]

theorem readIndex_ofIndex (index : Index) : readIndex (ofIndex index) = .ok index :=
  readIndex_of_holds (holds_ofIndex index)

end RegistrySearch.Segment
