import RegistrySearch.Index.Json
import RegistrySearch.Segment.Checksum

/-!
# Segments

An index is stored as a segment: the bytes of its text, their check sum from the lowest byte on, and
four bytes that end every segment. Reading a segment verifies the ending and the check sum before
the text is looked at.
-/

namespace RegistrySearch.Segment

/-- The bytes that end every segment. -/
def magic : List UInt8 := [0x52, 0x53, 0x45, 0x47]

/-- The number of bytes behind the body. -/
def footerLength : Nat := 8

/-- A word as bytes, from the lowest on. -/
def littleEndian (w : UInt32) : List UInt8 :=
  [w.toUInt8, (w >>> 8).toUInt8, (w >>> 16).toUInt8, (w >>> 24).toUInt8]

/-- The word of bytes, from the lowest on. -/
def ofLittleEndian (bytes : List UInt8) : UInt32 :=
  bytes.foldr (fun b w => (w <<< 8) ||| b.toUInt32) 0

/-- A body with its footer. -/
def encode (body : List UInt8) : List UInt8 := body ++ littleEndian (crc32 body) ++ magic

/-- Why bytes are no segment. -/
inductive Damage where
  | short (size : Nat)
  | noMagic
  | checksum (stored computed : UInt32)
deriving DecidableEq

/-- The eight hexadecimal digits of a word. -/
def hexWord (w : UInt32) : List Char :=
  [28, 24, 20, 16, 12, 8, 4, 0].map fun shift => Json.Value.hexDigit (w.toNat >>> shift % 16)

/-- The report of damage. -/
def Damage.text : Damage → String
  | short size =>
    "index segment is corrupt: segment is " ++ toString size ++ " bytes, shorter than its footer"
  | noMagic => "index segment is corrupt: missing segment magic"
  | checksum stored computed =>
    "index segment is corrupt: checksum mismatch: stored " ++ String.ofList (hexWord stored)
      ++ ", computed " ++ String.ofList (hexWord computed)

/-- The body of a segment. -/
def decode (bytes : List UInt8) : Except Damage (List UInt8) :=
  if bytes.length < footerLength then .error (.short bytes.length)
  else
    let body := bytes.take (bytes.length - footerLength)
    let footer := bytes.drop (bytes.length - footerLength)
    let stored := ofLittleEndian (footer.take 4)
    if footer.drop 4 ≠ magic then .error .noMagic
    else if stored ≠ crc32 body then .error (.checksum stored (crc32 body))
    else .ok body

/-! ### Indexes -/

/-- The bytes of a text. -/
def utf8Encode (text : List Char) : List UInt8 := text.flatMap String.utf8EncodeChar

/-- The text of bytes. -/
def utf8Decode? (bytes : List UInt8) : Option (List Char) :=
  (ByteArray.mk bytes.toArray).utf8Decode?.map Array.toList

/-- The body of the segment of an index. -/
def body (index : Index) : List UInt8 := utf8Encode index.toJson.renderChars

/-- The segment of an index. -/
def ofIndex (index : Index) : List UInt8 := encode (body index)

/-- Why a segment cannot be read. -/
inductive ReadError where
  | damaged (damage : Damage)
  | undecodable
deriving DecidableEq

/-- The index of a segment. -/
def readIndex (bytes : List UInt8) : Except ReadError Index :=
  match decode bytes with
  | .error damage => .error (.damaged damage)
  | .ok body =>
    match ((utf8Decode? body).bind Json.Tree.read?).bind Index.ofTree? with
    | some index => .ok index
    | none => .error .undecodable

end RegistrySearch.Segment
