import RegistrySearch.Pattern.Regex
import RegistrySearch.Unicode.Folding

/-!
# Flags

Flags change how the rest of a group is read: which characters are equal, what a dot and the ends of
lines are, whether classes go beyond ASCII, and whether blanks and remarks are passed over
(`Flags.skip`). What they do to a set or a character is done when it is read, so that an expression
knows of no flags.
-/

namespace RegistrySearch.Pattern

open Unicode (Ranges isBlank)

/-- How a pattern is read. -/
structure Flags where
  /-- Letter case does not count. -/
  ignoreCase : Bool
  /-- `^` and `$` match at the ends of lines, too. -/
  multiLine : Bool
  /-- The dot takes line breaks. -/
  dotAll : Bool
  /-- Repetitions prefer few rounds, which changes nothing in whether a text matches. -/
  swapGreed : Bool
  /-- Classes and word boundaries go beyond ASCII. -/
  unicode : Bool
  /-- A carriage return ends a line, too. -/
  crlf : Bool
  /-- Blanks do not count, and a hash begins a remark up to the end of the line. -/
  verbose : Bool

namespace Flags

/-- The flags that a pattern begins with. -/
def initial : Flags := ⟨false, false, false, false, true, false, false⟩

/-- The flags with the one of a letter switched. -/
def set? (f : Flags) (letter : Char) (on : Bool) : Option Flags :=
  match letter with
  | 'i' => some { f with ignoreCase := on }
  | 'm' => some { f with multiLine := on }
  | 's' => some { f with dotAll := on }
  | 'U' => some { f with swapGreed := on }
  | 'u' => some { f with unicode := on }
  | 'R' => some { f with crlf := on }
  | 'x' => some { f with verbose := on }
  | _ => none

/-- The flags with those of letters switched: on up to a hyphen, off behind it. -/
def setAll? (f : Flags) (on : Bool) : List Char → Option Flags
  | [] => some f
  | '-' :: letters => setAll? f false letters
  | letter :: letters => (f.set? letter on).bind fun f => setAll? f on letters

/-- Reads letters of flags: none of them twice, one hyphen at most, and something behind it. -/
def read? (f : Flags) (letters : List Char) : Option Flags :=
  if letters.Nodup ∧ letters.getLast? ≠ some '-' then f.setAll? true letters else none

/-! ### Blanks and remarks -/

/-- The text behind blanks and remarks, when `inRemark` tells whether one is open. -/
def skipFrom (inRemark : Bool) : List Char → List Char
  | [] => []
  | c :: rest =>
    if inRemark then skipFrom (c ≠ '\n') rest
    else if isBlank c then skipFrom false rest
    else if c = '#' then skipFrom true rest
    else c :: rest

/-- The text behind blanks and remarks, where they do not count. -/
def skip (f : Flags) (s : List Char) : List Char := if f.verbose then skipFrom false s else s

theorem length_skipFrom_le (inRemark : Bool) (s : List Char) :
    (skipFrom inRemark s).length ≤ s.length := by
  induction s generalizing inRemark with
  | nil => simp [skipFrom]
  | cons c rest ih =>
    simp only [skipFrom]
    split
    · exact Nat.le_succ_of_le (ih _)
    · split
      · exact Nat.le_succ_of_le (ih _)
      · split
        · exact Nat.le_succ_of_le (ih _)
        · exact Nat.le_refl _

theorem length_skip_le (f : Flags) (s : List Char) : (f.skip s).length ≤ s.length := by
  unfold skip
  split
  · exact length_skipFrom_le false s
  · exact Nat.le_refl _

/-! ### Sets and characters -/

/-- The letters of ASCII in both cases, of those in a set. -/
def asciiFoldClosure (set : Ranges) : Ranges :=
  let shifted (first last : Nat) (shift : Int) : List (Nat × Nat) :=
    (set.inter (.single first last)).rows.map fun (a, b) =>
      ((a + shift).toNat, (b + shift).toNat)
  .ofRows (set.rows ++ shifted 0x41 0x5A 32 ++ shifted 0x61 0x7A (-32))

/-- A set with what is equal to its members up to letter case, where case does not count. -/
def folded (f : Flags) (set : Ranges) : Ranges :=
  if !f.ignoreCase then set
  else if f.unicode then Unicode.foldClosure set
  else asciiFoldClosure set

/-- A set or its complement. Without Unicode a set must stay within ASCII. -/
def signed? (f : Flags) (isNegated : Bool) (set : Ranges) : Option Ranges :=
  if f.unicode then some (if isNegated then set.complement else set)
  else if isNegated || !set.isAscii then none
  else some set

/-- A named or bracketed set or its complement, where letter case may not count. -/
def named? (f : Flags) (isNegated : Bool) (set : Ranges) : Option Ranges :=
  f.signed? isNegated (f.folded set)

/-- The expression that takes one character, or one equal to it up to case. -/
def char (f : Flags) (c : Char) : Regex :=
  if f.ignoreCase && (f.unicode || c.toNat ≤ 0x7F) then
    .chars (f.folded (.single c.toNat c.toNat))
  else .char c

/-- The expression of a dot. -/
def dot? (f : Flags) : Option Regex :=
  if !f.unicode then none
  else if f.dotAll then some (.chars .all)
  else if f.crlf then some (.chars (Ranges.complement ⟨[(0x0A, 0x0A), (0x0D, 0x0D)]⟩))
  else some (.chars (Ranges.complement ⟨[(0x0A, 0x0A)]⟩))

/-- What `^` demands. -/
def caret (f : Flags) : Assertion := if f.multiLine then .lineStart f.crlf else .textStart

/-- What `$` demands. -/
def dollar (f : Flags) : Assertion := if f.multiLine then .lineEnd f.crlf else .textEnd

end Flags

end RegistrySearch.Pattern
