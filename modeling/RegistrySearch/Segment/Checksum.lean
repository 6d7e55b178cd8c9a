/-!
# The cyclic redundancy check of 32 bits

The check sum `crc32` of a string of bytes is the remainder of a polynomial division with the bits
of every byte taken from the lowest on. The register starts and ends inverted.
-/

namespace RegistrySearch.Segment

/-- The divisor, its highest power left out, the lowest power in the highest bit. -/
def crcPolynomial : UInt32 := 0xEDB88320

/-- The register after one more bit. -/
def crcShift (c : UInt32) : UInt32 :=
  if c &&& 1 = 1 then (c >>> 1) ^^^ crcPolynomial else c >>> 1

/-- The register after eight more bits. -/
def crcShift8 (c : UInt32) : UInt32 :=
  crcShift (crcShift (crcShift (crcShift (crcShift (crcShift (crcShift (crcShift c)))))))

/-- The register after one more byte. -/
def crcByte (c : UInt32) (b : UInt8) : UInt32 := crcShift8 (c ^^^ b.toUInt32)

/-- The check sum of a string of bytes. -/
def crc32 (bytes : List UInt8) : UInt32 := ~~~(bytes.foldl crcByte 0xFFFFFFFF)

end RegistrySearch.Segment
