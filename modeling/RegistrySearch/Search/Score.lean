import RegistrySearch.Numeral.Binary64

/-!
# Scores

Terms and phrases are weighted by how rare they are (`inverseFrequency`, positive in a sound index)
and by how often they occur in a document of the given length. Patterns and ranges have no
frequency; all that they match weighs the same.
-/

namespace RegistrySearch.Search

/-- How soon further occurrences of a term count less. -/
def saturation : Float := 1.2

/-- How much the length of a document counts. -/
def lengthWeight : Float := 0.75

/-- The score of patterns and ranges. -/
def constantScore : Float := 1.0

/-- The smallest positive normal number. -/
def smallestNormal : Float := Float.ofBits 0x0010000000000000

/-- The weight of a term that occurs in `frequency` of `count` documents. -/
def inverseFrequency (count frequency : Float) : Float :=
  (1.0 + (count - frequency + 0.5) / (frequency + 0.5)).log

/-- The score of a term with a weight that occurs `frequency` times in a document of the given
length, when documents have `average` tokens. -/
def termScore (frequency weight length average : Float) : Float :=
  if frequency ≤ 0.0 then 0.0
  else
    let average := if average > smallestNormal then average else smallestNormal
    let norm := saturation * (1.0 - lengthWeight + lengthWeight * length / average)
    weight * frequency / (frequency + norm)

end RegistrySearch.Search
