import RegistrySearch.Numeral.Binary64

/-!
# The shortest decimal of a double-precision number

A word stands for all reals that round to it. Among the decimals `digits · 10 ^ place` in that
`Interval`, the one with the fewest digits is written, and of those the one nearest to the value.
All of this is integer arithmetic over a common scale.
-/

namespace RegistrySearch.Numeral

/-- A decimal `digits · 10 ^ place`. -/
structure Decimal where
  digits : Nat
  place : Int
deriving DecidableEq

/-- A positive value `mantissa · 2 ^ exponent` with the bounds of the reals that round to it, in
quarters: they lie between `low · 2 ^ exponent / 4` and `high · 2 ^ exponent / 4`. -/
structure Interval where
  mantissa : Nat
  exponent : Int
  low : Nat
  high : Nat
  /-- Whether the bounds themselves round to the value: a tie goes to the even mantissa. -/
  closed : Bool

namespace Interval

/-- The reals that round to the magnitude of a finite word. Below the least mantissa the next
number is only half as far away. -/
def ofWord (x : Binary64) : Interval :=
  let m := x.mantissa
  let low := if x.fractionBits = 0 && 1 < x.exponentBits then 4 * m - 1 else 4 * m - 2
  ⟨m, x.exponent, low, 4 * m + 2, m % 2 = 0⟩

/-- `2 ^ exponent / 10 ^ place` as a fraction. -/
def scale (v : Interval) (place : Int) : Nat × Nat :=
  (2 ^ v.exponent.toNat * 10 ^ (-place).toNat, 2 ^ (-v.exponent).toNat * 10 ^ place.toNat)

/-- Whether `digits · 10 ^ place` rounds to the value. -/
def holds (v : Interval) (d : Decimal) : Bool :=
  let (num, den) := v.scale d.place
  let point := 4 * d.digits * den
  if v.closed then v.low * num ≤ point && point ≤ v.high * num
  else v.low * num < point && point < v.high * num

/-- The neighbours of the value on the grid of the multiples of `10 ^ place`, the nearer one first;
of two equally near ones the even one. -/
def neighbours (v : Interval) (place : Int) : List Decimal :=
  let (num, den) := v.scale place
  let below := v.mantissa * num / den
  let rest := 2 * (v.mantissa * num % den)
  if rest < den || (rest = den && below % 2 = 0) then [⟨below, place⟩, ⟨below + 1, place⟩]
  else [⟨below + 1, place⟩, ⟨below, place⟩]

end Interval

/-- The least `n` from `start` on with `den ≤ num · 10 ^ n`, within `steps` steps. -/
def leadingZeros (num den start : Nat) : Nat → Nat
  | 0 => start
  | steps + 1 => if den ≤ num * 10 ^ start then start else leadingZeros num den (start + 1) steps

/-- The place of the leading digit of `mantissa · 2 ^ exponent`. -/
def leadingPlace (mantissa : Nat) (exponent : Int) : Int :=
  let num := mantissa * 2 ^ exponent.toNat
  let den := 2 ^ (-exponent).toNat
  if den ≤ num then ((Nat.toDigits 10 (num / den)).length : Int) - 1
  else -(leadingZeros num den 1 400 : Int)

/-- The first decimal of at most `count + 1` further digits that rounds to the value, tried from
the coarsest grid on. -/
def firstHit (v : Interval) (place : Int) : Nat → Decimal
  | 0 => ⟨v.mantissa, v.exponent⟩
  | count + 1 =>
    match (v.neighbours place).find? v.holds with
    | some d => d
    | none => firstHit v (place - 1) count

/-- Takes trailing zeros off the digits, at most `count` of them. -/
def trimZeros (d : Decimal) : Nat → Decimal
  | 0 => d
  | count + 1 =>
    if d.digits % 10 = 0 ∧ d.digits ≠ 0 then trimZeros ⟨d.digits / 10, d.place + 1⟩ count else d

/-- The shortest decimal that rounds to the magnitude of a finite word other than zero: seventeen
digits always suffice. -/
def shortest (x : Binary64) : Decimal :=
  trimZeros (firstHit (.ofWord x) (leadingPlace x.mantissa x.exponent) 17) 17

end RegistrySearch.Numeral
