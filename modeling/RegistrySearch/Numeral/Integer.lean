import RegistrySearch.Arithmetic

/-!
# Integers in decimal

Reading and range checks of whole numbers as they occur in queries, bounds and JSON text.
-/

namespace RegistrySearch.Numeral

/-- The value of a decimal digit. -/
def digit? (c : Char) : Option Nat :=
  if '0' ≤ c ∧ c ≤ '9' then some (c.toNat - '0'.toNat) else none

/-- The number that a list of decimal digits denotes. -/
def ofDigits (digits : List Nat) : Nat := digits.foldl (fun n d => 10 * n + d) 0

/-- Reads one digit or more, and nothing else. -/
def natural? (s : List Char) : Option Nat :=
  if s.isEmpty then none else (s.mapM digit?).map ofDigits

/-- The signed word of 64 bits that holds an integer, if it lies in range. -/
def int64? (n : Int) : Option Int64 :=
  if -2 ^ 63 ≤ n ∧ n < 2 ^ 63 then some (Int64.ofInt n) else none

/-- The word nearest to an integer. -/
def clampInt64 (n : Int) : Int64 :=
  if n < -2 ^ 63 then Int64.minValue
  else if 2 ^ 63 ≤ n then Int64.maxValue
  else Int64.ofInt n

/-- Reads an integer of 64 bits: an optional sign, then digits. -/
def readInt64? (s : String) : Option Int64 :=
  match s.toList with
  | '-' :: rest => (natural? rest).bind fun n => int64? (-(n : Int))
  | '+' :: rest => (natural? rest).bind fun n => int64? n
  | rest => (natural? rest).bind fun n => int64? n

/-- Reads a natural number below `2 ^ 64`: an optional plus, then digits. -/
def readUInt64? (s : String) : Option UInt64 :=
  let n? := match s.toList with
    | '+' :: rest => natural? rest
    | rest => natural? rest
  n?.bind fun n => if n < 2 ^ 64 then some (UInt64.ofNat n) else none

end RegistrySearch.Numeral
