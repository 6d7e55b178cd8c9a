import RegistrySearch.Arithmetic

/-!
# Double-precision numbers as words

A number of 64 bits is a sign, eleven bits of exponent and 52 bits of fraction. Every finite word
denotes an exact value `± mantissa · 2 ^ exponent`, and all words, the not-a-numbers and both zeros
included, stand in one total order, which `orderKey` reads off their bits. Of the operations only
`truncate` is needed, the integer part toward zero.
-/

namespace RegistrySearch.Numeral

/-- A double-precision number, as its word. -/
structure Binary64 where
  bits : UInt64
deriving DecidableEq, Inhabited

namespace Binary64

/-- Whether the sign bit is set. -/
def isNegative (x : Binary64) : Bool := 2 ^ 63 ≤ x.bits.toNat

/-- The word without its sign bit. -/
def magnitudeBits (x : Binary64) : Nat := x.bits.toNat % 2 ^ 63

/-- The eleven bits of the exponent. -/
def exponentBits (x : Binary64) : Nat := x.magnitudeBits / 2 ^ 52

/-- The 52 bits of the fraction. -/
def fractionBits (x : Binary64) : Nat := x.magnitudeBits % 2 ^ 52

/-- Whether the word denotes a number, and not an infinity or a not-a-number. -/
def isFinite (x : Binary64) : Bool := x.exponentBits < 2047

/-- Whether the word denotes no number at all. -/
def isNaN (x : Binary64) : Bool := x.exponentBits = 2047 && x.fractionBits ≠ 0

/-- The mantissa of a finite word. -/
def mantissa (x : Binary64) : Nat :=
  if x.exponentBits = 0 then x.fractionBits else 2 ^ 52 + x.fractionBits

/-- The exponent of a finite word: its value is `± mantissa · 2 ^ exponent`. -/
def exponent (x : Binary64) : Int :=
  if x.exponentBits = 0 then -1074 else (x.exponentBits : Int) - 1075

/-- The largest natural number not above `mantissa · 2 ^ exponent`. -/
def magnitude (x : Binary64) : Nat :=
  if 0 ≤ x.exponent then x.mantissa * 2 ^ x.exponent.toNat
  else x.mantissa / 2 ^ (-x.exponent).toNat

/-- The integer part of a finite word's value: what is left of it toward zero. -/
def truncate (x : Binary64) : Int :=
  if x.isNegative then -(x.magnitude : Int) else x.magnitude

/-- The place of a word in the total order: negative words below positive ones, and by magnitude
among those of one sign, so that `-0.0` stands below `0.0` and the not-a-numbers at the ends. -/
def orderKey (x : Binary64) : Int :=
  if x.isNegative then -(x.magnitudeBits : Int) - 1 else x.magnitudeBits

/-- The number that a word stands for in computations. -/
def toFloat (x : Binary64) : Float := Float.ofBits x.bits

/-- The word that holds the result of a computation. An undefined result has its sign bit set. -/
def ofFloat (x : Float) : Binary64 := if x.isNaN then ⟨0xFFF8000000000000⟩ else ⟨x.toBits⟩

end Binary64

end RegistrySearch.Numeral
