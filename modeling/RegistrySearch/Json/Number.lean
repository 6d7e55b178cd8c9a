import RegistrySearch.Numeral.Integer
import RegistrySearch.Numeral.Shortest

/-!
# Numbers of JSON text

A number without fraction and exponent is kept exactly when it fits a word of 64 bits, unsigned or
signed; every other number becomes a double-precision one.

Between the text and the `Number` stands the `NumberText`, a number as it is written. Its digits are
gathered into a word as long as they fit, then scaled by one power of ten, so a long fraction may
come out one unit away from the nearest double. The other way `Number.render` writes a double with
the fewest digits that read back.
-/

namespace RegistrySearch.Json

open Numeral (Binary64 Decimal digit? ofDigits int64? shortest)

/-- A number: a natural one, a negative integer, or a double. -/
inductive Number where
  | natural (n : UInt64)
  | negative (n : Int64)
  | real (x : Binary64)
deriving DecidableEq

/-- A number as written: sign, integer digits, and what may follow a point and an exponent mark. -/
structure NumberText where
  isNegative : Bool
  integer : List Nat
  fraction : Option (List Nat)
  exponent : Option (Bool × List Nat)
deriving DecidableEq

/-- Gathers digits while their number stays below `2 ^ 64`; the rest of the digits is left. -/
def gather (n : Nat) : List Nat → Nat × List Nat
  | [] => (n, [])
  | d :: rest => if 10 * n + d < 2 ^ 64 then gather (10 * n + d) rest else (n, d :: rest)

/-- A power of ten, rounded to a double. -/
def powerOfTen (n : Nat) : Float := Float.ofScientific 1 false n

/-- The double `significand · 10 ^ exponent`, with a rounding after each step; `none` if it is too
large. Below the least power of ten the scaling is done in steps. -/
def scaled? (significand : Nat) (exponent : Int) : Option Float :=
  let f := significand.toUInt64.toFloat
  if significand = 0 then some f
  else if 308 < exponent then none
  else if 0 ≤ exponent then
    let g := f * powerOfTen exponent.toNat
    if g.isInf then none else some g
  else if -308 ≤ exponent then some (f / powerOfTen (-exponent).toNat)
  else if -616 ≤ exponent then some (f / powerOfTen 308 / powerOfTen (-exponent - 308).toNat)
  else some 0

/-- The double of the given sign and magnitude. -/
def signed (isNegative : Bool) (f : Float) : Number :=
  .real (.ofFloat (if isNegative then -f else f))

/-- The exponent that a list of digits denotes, if it stays below `2 ^ 31`. -/
def exponent? (digits : List Nat) : Option Nat :=
  if ofDigits digits < 2 ^ 31 then some (ofDigits digits) else none

namespace NumberText

/-- The double that the text denotes, `none` if it is too large. -/
def real? (t : NumberText) : Option Number :=
  let (whole, dropped) := gather 0 t.integer
  let fraction := t.fraction.getD []
  let (significand, ignored) := gather whole fraction
  let place : Int := (dropped.length : Int) - ((fraction.length - ignored.length : Nat) : Int)
  match t.exponent with
  | none => (scaled? significand place).map (signed t.isNegative)
  | some (down, digits) =>
    match exponent? digits with
    | some e => (scaled? significand (if down then place - e else place + e)).map
        (signed t.isNegative)
    | none => if significand ≠ 0 ∧ ¬down then none else some (signed t.isNegative 0)

/-- The value of a number as written, `none` if it is too large. -/
def value? (t : NumberText) : Option Number :=
  let n := ofDigits t.integer
  if t.fraction.isSome || t.exponent.isSome || 2 ^ 64 ≤ n then t.real?
  else if !t.isNegative then some (.natural n.toUInt64)
  else if n = 0 ∨ 2 ^ 63 < n then some (signed true n.toUInt64.toFloat)
  else (int64? (-(n : Int))).map .negative

end NumberText

/-! ### Reading a number as one type -/

namespace Number

/-- The integer that a number is written as; a double is none, even a whole one. -/
def integer? : Number → Option Int
  | natural n => some n.toNat
  | negative n => some n.toInt
  | real _ => none

/-- The number as a signed word. -/
def int64? (n : Number) : Option Int64 := n.integer?.bind Numeral.int64?

/-- The number as an unsigned word. -/
def uint64? : Number → Option UInt64
  | natural n => some n
  | negative n => if 0 ≤ n.toInt then some n.toInt.toNat.toUInt64 else none
  | real _ => none

/-- The number as a short unsigned word. -/
def uint32? (n : Number) : Option UInt32 :=
  n.uint64?.bind fun w => if w.toNat < 2 ^ 32 then some w.toNat.toUInt32 else none

/-- The number as a double, rounded if it is an integer of more than 53 bits. -/
def toFloat : Number → Float
  | natural n => n.toFloat
  | negative n => n.toFloat
  | real x => x.toFloat

/-- The number of an integer in the range of the words; others are clamped to it. -/
def ofInt (n : Int) : Number :=
  if n < 0 then .negative (Numeral.clampInt64 n) else .natural (min n.toNat (2 ^ 64 - 1)).toUInt64

/-! ### Writing -/

/-- The decimal digits of a natural number. -/
def digits (n : Nat) : List Char := Nat.toDigits 10 n

/-- The decimal text of an integer. -/
def integerText (n : Int) : List Char :=
  if n < 0 then '-' :: digits n.natAbs else digits n.natAbs

/-- The text of an exponent, which always has a sign. -/
def exponentText (n : Int) : List Char := if 0 ≤ n then '+' :: digits n.natAbs else integerText n

/-- A decimal in the form of JSON text: positional when the point falls at most sixteen places
behind the first digit or four zeros before it, and with an exponent otherwise. A whole number
keeps one zero behind the point. -/
def decimalText (d : Decimal) : List Char :=
  let ds := digits d.digits
  let point := (ds.length : Int) + d.place
  if 0 ≤ d.place ∧ point ≤ 16 then ds ++ List.replicate d.place.toNat '0' ++ ['.', '0']
  else if 0 < point ∧ point ≤ 16 then ds.take point.toNat ++ '.' :: ds.drop point.toNat
  else if -5 < point ∧ point ≤ 0 then
    ['0', '.'] ++ List.replicate (-point).toNat '0' ++ ds
  else
    let tail := ds.drop 1
    ds.take 1 ++ (if tail.isEmpty then [] else '.' :: tail) ++ 'e' :: exponentText (point - 1)

/-- The text of a finite double. -/
def realText (x : Binary64) : List Char :=
  let body := if x.magnitudeBits = 0 then ['0', '.', '0'] else decimalText (shortest x)
  if x.isNegative then '-' :: body else body

/-- The text of a number. -/
def render : Number → List Char
  | natural n => digits n.toNat
  | negative n => integerText n.toInt
  | real x => realText x

end Number

end RegistrySearch.Json
