import RegistrySearch.Arithmetic

/-!
# What is left of a text

A reader that takes something off the front of a text returns the rest together with the fact that
it is shorter, so that reading on ends. `Rest s` is the type of such rests of `s`; what may also
leave the text as it is returns a `Remainder s`. Places are counted in bytes, of which a text has
`utf8Length`.
-/

namespace RegistrySearch.Text

/-- What is left of `s` when at least one character is taken. -/
abbrev Rest (s : List Char) : Type := { rest : List Char // rest.length < s.length }

/-- What is left of `s`, perhaps all of it. -/
abbrev Remainder (s : List Char) : Type := { rest : List Char // rest.length ≤ s.length }

/-- The number of bytes of a text in UTF-8. -/
def utf8Length (s : List Char) : Nat := (s.map Char.utf8Size).sum

theorem utf8Length_append (s t : List Char) :
    utf8Length (s ++ t) = utf8Length s + utf8Length t := by
  rw [utf8Length, List.map_append, List.sum_append, utf8Length, utf8Length]

theorem length_dropWhile_le (p : Char → Bool) (s : List Char) :
    (s.dropWhile p).length ≤ s.length :=
  (List.dropWhile_sublist p).length_le

theorem length_lt_of_dropWhile {p : Char → Bool} {s rest : List Char} {c : Char}
    (h : s.dropWhile p = c :: rest) : rest.length < s.length := by
  have := length_dropWhile_le p s
  rw [h, List.length_cons] at this
  exact this

end RegistrySearch.Text
