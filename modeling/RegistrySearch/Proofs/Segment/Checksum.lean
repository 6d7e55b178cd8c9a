import Mathlib.Logic.Function.Basic
import RegistrySearch.Proofs.Segment.RoundTrip

/-!
# What the check sum tells apart

A step of the register is linear over exclusive or, and it can be undone. So up to four bytes act on
the register like one word that is added before as many zeros are fed (`feed_eq_feed_zeros`), two
different groups of bytes of one length leave it in different states, and nothing that follows makes
these equal again.

Fed with the check sum behind the body, from the lowest byte on, the register ends in one state, the
**residue**, and it does so behind no other four bytes. The check sum is thus a part of the message
like any other, and a change across its border is found like one within the body.
-/

namespace RegistrySearch.Segment

/-! ### Single bits -/

theorem and_one_eq_one_iff (c : UInt32) : c &&& 1 = 1 ↔ c.toNat % 2 = 1 := by
  rw [← UInt32.toNat_inj, UInt32.toNat_and, ← Nat.and_one_is_mod]
  rfl

theorem toNat_shiftRight_one (c : UInt32) : (c >>> 1).toNat = c.toNat / 2 := by
  rw [UInt32.toNat_shiftRight]
  rfl

/-- What the lowest bit of the register adds when it is pushed out. -/
def crcFeedback (c : UInt32) : UInt32 := if c &&& 1 = 1 then crcPolynomial else 0

theorem crcShift_eq (c : UInt32) : crcShift c = (c >>> 1) ^^^ crcFeedback c := by
  rw [crcShift, crcFeedback]
  split
  · rfl
  · rw [UInt32.xor_zero]

theorem crcFeedback_xor (a b : UInt32) :
    crcFeedback (a ^^^ b) = crcFeedback a ^^^ crcFeedback b := by
  simp only [crcFeedback, and_one_eq_one_iff, UInt32.toNat_xor, Nat.xor_mod_two_eq_one]
  by_cases ha : a.toNat % 2 = 1 <;> by_cases hb : b.toNat % 2 = 1 <;> simp [ha, hb]

/-- A step is linear. -/
theorem crcShift_xor (a b : UInt32) : crcShift (a ^^^ b) = crcShift a ^^^ crcShift b := by
  simp only [crcShift_eq, UInt32.shiftRight_xor, crcFeedback_xor]
  ac_rfl

/-- A step leaves nothing of no register but the empty one: the divisor has its highest bit set,
which the shift has left free. -/
theorem eq_zero_of_crcShift {c : UInt32} (h : crcShift c = 0) : c = 0 := by
  have hlow := and_one_eq_one_iff c
  rw [crcShift] at h
  split at h
  · have hpoly : (c >>> 1).toNat = 0xEDB88320 := by rw [UInt32.xor_eq_zero_iff.mp h]; rfl
    have hlt := c.toNat_lt
    rw [toNat_shiftRight_one] at hpoly
    omega
  · next hodd =>
    have hhalf : (c >>> 1).toNat = 0 := by rw [h]; rfl
    rw [toNat_shiftRight_one] at hhalf
    rw [hlow] at hodd
    rw [← UInt32.toNat_inj, UInt32.toNat_zero]
    omega

theorem crcShift_injective : Function.Injective crcShift := by
  intro a b h
  have hzero : crcShift (a ^^^ b) = 0 := by rw [crcShift_xor, h, UInt32.xor_self]
  exact UInt32.xor_eq_zero_iff.mp (eq_zero_of_crcShift hzero)

/-- A step halves an even register. -/
theorem crcShift_two_mul {n : Nat} (h : 2 * n < 2 ^ 32) :
    crcShift (UInt32.ofNat (2 * n)) = UInt32.ofNat n := by
  have hdouble : (UInt32.ofNat (2 * n)).toNat = 2 * n := UInt32.toNat_ofNat_of_lt' h
  have heven : ¬(UInt32.ofNat (2 * n) &&& 1 = 1) := by
    rw [and_one_eq_one_iff, hdouble]
    omega
  rw [crcShift, if_neg heven, ← UInt32.toNat_inj, toNat_shiftRight_one, hdouble,
    UInt32.toNat_ofNat_of_lt' (show n < 2 ^ 32 by omega)]
  omega

/-! ### Bytes -/

theorem crcShift8_xor (a b : UInt32) : crcShift8 (a ^^^ b) = crcShift8 a ^^^ crcShift8 b := by
  simp only [crcShift8, crcShift_xor]

theorem crcShift8_injective : Function.Injective crcShift8 := by
  intro a b h
  iterate 8 apply crcShift_injective
  exact h

theorem crcShift8_mul {n : Nat} (h : 256 * n < 2 ^ 32) :
    crcShift8 (UInt32.ofNat (256 * n)) = UInt32.ofNat n := by
  rw [show 256 * n = 2 * (2 * (2 * (2 * (2 * (2 * (2 * (2 * n))))))) by omega, crcShift8]
  iterate 8 rw [crcShift_two_mul (by omega)]

theorem crcByte_zero (c : UInt32) : crcByte c 0 = crcShift8 c := by
  rw [crcByte, show (0 : UInt8).toUInt32 = 0 from rfl, UInt32.xor_zero]

/-! ### Words of bytes -/

theorem shiftLeft_or_toUInt32 (w : UInt32) (b : UInt8) :
    (w <<< 8) ||| b.toUInt32 = (w <<< 8) ^^^ b.toUInt32 := by
  apply UInt32.toBitVec_inj.mp
  ext i hi
  by_cases h : i < 8
  · simp [h]
  · simp [h, BitVec.getLsbD_of_ge b.toBitVec i (by omega)]

theorem shiftLeft_eq_ofNat (w : UInt32) : w <<< 8 = UInt32.ofNat (256 * w.toNat) := by
  rw [← UInt32.toNat_inj, UInt32.toNat_shiftLeft, UInt32.toNat_ofNat, Nat.shiftLeft_eq,
    Nat.mul_comm]
  rfl

theorem ofLittleEndian_cons (b : UInt8) (bytes : List UInt8) :
    ofLittleEndian (b :: bytes) = (ofLittleEndian bytes <<< 8) ||| b.toUInt32 := rfl

theorem toNat_ofLittleEndian_cons {bytes : List UInt8} (b : UInt8)
    (h : (ofLittleEndian bytes).toNat < 2 ^ 24) :
    (ofLittleEndian (b :: bytes)).toNat = 256 * (ofLittleEndian bytes).toNat + b.toNat := by
  have hb : b.toNat < 2 ^ 8 := b.toNat_lt
  rw [ofLittleEndian_cons, UInt32.toNat_or, shiftLeft_eq_ofNat,
    UInt32.toNat_ofNat_of_lt' (by simp only [UInt32.size]; omega), UInt8.toNat_toUInt32,
    show 256 * (ofLittleEndian bytes).toNat = (ofLittleEndian bytes).toNat <<< 8 by
      rw [Nat.shiftLeft_eq]; omega, ← Nat.shiftLeft_add_eq_or_of_lt hb]

theorem toNat_ofLittleEndian_lt {bytes : List UInt8} (h : bytes.length ≤ 4) :
    (ofLittleEndian bytes).toNat < 256 ^ bytes.length := by
  induction bytes with
  | nil => decide
  | cons b bytes ih =>
    rw [List.length_cons] at h
    have hlt := ih (by omega)
    have hpow : 256 ^ bytes.length ≤ 256 ^ 3 := Nat.pow_le_pow_right (by decide) (by omega)
    have hb : b.toNat < 256 := b.toNat_lt
    rw [toNat_ofLittleEndian_cons b (by omega), List.length_cons, Nat.pow_succ]
    omega

/-- A word of at most three bytes has room for one more. -/
theorem toNat_ofLittleEndian_lt_of_length {bytes : List UInt8} (h : bytes.length ≤ 3) :
    (ofLittleEndian bytes).toNat < 2 ^ 24 := by
  have hlt := toNat_ofLittleEndian_lt (Nat.le_succ_of_le h)
  have hpow : 256 ^ bytes.length ≤ 256 ^ 3 := Nat.pow_le_pow_right (by decide) h
  omega

/-- Up to four bytes are determined by their word. -/
theorem eq_of_ofLittleEndian_eq {xs ys : List UInt8} (hlength : xs.length = ys.length)
    (h : xs.length ≤ 4) (hword : ofLittleEndian xs = ofLittleEndian ys) : xs = ys := by
  induction xs generalizing ys with
  | nil => exact (List.length_eq_zero_iff.mp hlength.symm).symm
  | cons x xs ih =>
    obtain _ | ⟨y, ys⟩ := ys
    · cases hlength
    · simp only [List.length_cons] at h hlength
      have hx := toNat_ofLittleEndian_cons x (toNat_ofLittleEndian_lt_of_length
        (show xs.length ≤ 3 by omega))
      have hy := toNat_ofLittleEndian_cons y (toNat_ofLittleEndian_lt_of_length
        (show ys.length ≤ 3 by omega))
      have hxlt : x.toNat < 256 := x.toNat_lt
      have hylt : y.toNat < 256 := y.toNat_lt
      rw [hword, hy] at hx
      have hhead : x = y := UInt8.toNat_inj.mp (by omega)
      have htail : ofLittleEndian xs = ofLittleEndian ys := UInt32.toNat_inj.mp (by omega)
      rw [hhead, ih (by omega) (by omega) htail]

/-! ### Strings of bytes -/

/-- The register after a string of bytes. -/
def feed (c : UInt32) (bytes : List UInt8) : UInt32 := bytes.foldl crcByte c

theorem feed_cons (c : UInt32) (b : UInt8) (bytes : List UInt8) :
    feed c (b :: bytes) = feed (crcByte c b) bytes := rfl

theorem feed_append (c : UInt32) (xs ys : List UInt8) :
    feed c (xs ++ ys) = feed (feed c xs) ys :=
  List.foldl_append

theorem crc32_eq (bytes : List UInt8) : crc32 bytes = ~~~feed 0xFFFFFFFF bytes := rfl

/-- What follows does not make two states of the register equal. -/
theorem feed_injective (bytes : List UInt8) : Function.Injective (feed · bytes) := by
  induction bytes with
  | nil => exact fun _ _ h => h
  | cons b bytes ih =>
    intro c d h
    have hstep : crcByte c b = crcByte d b := ih h
    exact (UInt32.xor_left_inj _).mp (crcShift8_injective hstep)

/-- Up to four bytes act on the register like their word, added before as many zeros. -/
theorem feed_eq_feed_zeros {bytes : List UInt8} (h : bytes.length ≤ 4) (c : UInt32) :
    feed c bytes = feed (c ^^^ ofLittleEndian bytes) (List.replicate bytes.length 0) := by
  induction bytes generalizing c with
  | nil =>
    rw [ofLittleEndian, List.foldr_nil, UInt32.xor_zero]
    rfl
  | cons b bytes ih =>
    rw [List.length_cons] at h
    have hroom := toNat_ofLittleEndian_lt_of_length (show bytes.length ≤ 3 by omega)
    -- a word with its lowest byte free is moved down by one byte
    have hword : crcShift8 (ofLittleEndian bytes <<< 8) = ofLittleEndian bytes := by
      rw [shiftLeft_eq_ofNat, crcShift8_mul (by omega), UInt32.ofNat_toNat]
    have hstep : crcByte c b ^^^ ofLittleEndian bytes =
        crcByte (c ^^^ ofLittleEndian (b :: bytes)) 0 := by
      calc crcByte c b ^^^ ofLittleEndian bytes
          = crcShift8 (c ^^^ b.toUInt32) ^^^ crcShift8 (ofLittleEndian bytes <<< 8) := by
            rw [hword, crcByte]
        _ = crcShift8 (c ^^^ ((ofLittleEndian bytes <<< 8) ^^^ b.toUInt32)) := by
            rw [← crcShift8_xor]
            ac_rfl
        _ = crcByte (c ^^^ ofLittleEndian (b :: bytes)) 0 := by
            rw [crcByte_zero, ofLittleEndian_cons, shiftLeft_or_toUInt32]
    rw [feed_cons, ih (by omega), hstep, List.length_cons, List.replicate_succ, feed_cons]

/-- **Bursts.** Two groups of up to four bytes, equally long, are told apart by the register. -/
theorem eq_of_feed_eq {c : UInt32} {xs ys : List UInt8} (hlength : xs.length = ys.length)
    (h : xs.length ≤ 4) (hfeed : feed c xs = feed c ys) : xs = ys := by
  have hys : feed c ys = feed (c ^^^ ofLittleEndian ys) (List.replicate ys.length 0) :=
    feed_eq_feed_zeros (hlength ▸ h) c
  rw [feed_eq_feed_zeros h, hys, hlength] at hfeed
  have hword := (UInt32.xor_right_inj c).mp (feed_injective _ hfeed)
  exact eq_of_ofLittleEndian_eq hlength h hword

/-! ### The check sum as a part of the message -/

/-- The register after a body and its check sum. -/
def residue : UInt32 := feed 0xFFFFFFFF [0, 0, 0, 0]

/-- **Residue.** The register ends in one state behind the check sum that fits, and behind no other
four bytes. -/
theorem feed_append_eq_residue_iff {body stored : List UInt8} (h : stored.length = 4) :
    feed 0xFFFFFFFF (body ++ stored) = residue ↔ ofLittleEndian stored = crc32 body := by
  rw [feed_append, feed_eq_feed_zeros (Nat.le_of_eq h), h, crc32_eq, residue]
  refine ((feed_injective (List.replicate 4 0)).eq_iff).trans ?_
  rw [← UInt32.xor_neg_one, ← UInt32.xor_right_inj (feed 0xFFFFFFFF body), ← UInt32.xor_assoc,
    UInt32.xor_self, UInt32.zero_xor]
  exact Iff.rfl

end RegistrySearch.Segment
