/-!
# Powers and sums

The running part of the library rests on the core library alone, its theory on Mathlib, too. Powers
with a natural exponent and sums of lists are the core library's in both, so that a definition and
a statement about it speak of the same ones.
-/

attribute [instance (high)] instPowNat Zero.ofOfNat0

-- Mathlib prefers the power of a monoid where the exponent is a numeral.
attribute [default_instance (high + 1)] instPowNat
