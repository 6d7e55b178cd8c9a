import RegistrySearch.Unicode.Category
import RegistrySearch.Unicode.Property.Derived

/-!
# Text in quotes

Text is quoted in messages so that every character can be seen: between double quotes, with a
backslash in front of quotes and backslashes, and with escapes for whatever shows nothing of its
own, which is what is not `isPrintable`.
-/

namespace RegistrySearch.Text

open Unicode (Ranges)

/-- Code points without a shape of their own: controls, formats, separators, and what is not
assigned. -/
def shapeless : Ranges := .union Unicode.others Unicode.separators

/-- Whether a character is shown as it is. A mark that joins the character in front of it is not. -/
def isPrintable (c : Char) : Bool :=
  c = ' ' || !(shapeless.contains c.toNat || Unicode.Property.graphemeExtend.contains c.toNat)

/-- The escape with the number of a character. -/
def numericEscape (c : Char) : List Char :=
  '\\' :: 'u' :: '\x7b' :: Nat.toDigits 16 c.toNat ++ ['\x7d']

/-- The form of a character between quotes. -/
def quotedChar (c : Char) : List Char :=
  match c with
  | '\x00' => ['\\', '0']
  | '\t' => ['\\', 't']
  | '\r' => ['\\', 'r']
  | '\n' => ['\\', 'n']
  | '\\' => ['\\', '\\']
  | '"' => ['\\', '"']
  | c => if isPrintable c then [c] else numericEscape c

/-- A text in quotes. -/
def quoted (s : String) : String :=
  String.ofList ('"' :: s.toList.flatMap quotedChar ++ ['"'])

end RegistrySearch.Text
