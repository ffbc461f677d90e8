import Turnstile.Text.Property

/-!
# Quoted text

A text between double quotes, as error messages and descriptions show it: quotes and backslashes
behind a backslash, the common control characters by their letters, and any other character that does
not print on its own (a control, an unassigned one, a blank other than the space, a mark that would
join the character before it) by its number.
-/

namespace Turnstile.Text

/-- The characters outside ASCII that stand for themselves. -/
def printable : CodePoints :=
  (CodePoints.inCategories
    ["Ll", "Lm", "Lo", "Lt", "Lu", "Mc", "Me", "Mn", "Nd", "Nl", "No",
     "Pc", "Pd", "Pe", "Pf", "Pi", "Po", "Ps", "Sc", "Sk", "Sm", "So"]).diff
    CodePoints.graphemeExtend

/-- The hexadecimal numeral of a number, in small letters. -/
def hexNumeral (n : Nat) : List Char := Nat.toDigits 16 n

/-- One character of a quoted text. -/
def quotedChar (c : Char) : List Char :=
  if c = '"' then ['\\', '"']
  else if c = '\\' then ['\\', '\\']
  else if c = '\n' then ['\\', 'n']
  else if c = '\t' then ['\\', 't']
  else if c = '\r' then ['\\', 'r']
  else if c.toNat = 0 then ['\\', '0']
  else if 0x20 ≤ c.toNat ∧ c.toNat < 0x7f then [c]
  else if 0x80 ≤ c.toNat ∧ printable.contains c.toNat then [c]
  else ['\\', 'u', '\x7b'] ++ hexNumeral c.toNat ++ ['\x7d']

/-- The text between quotes. -/
def quoted (s : String) : String := String.ofList ('"' :: s.toList.flatMap quotedChar ++ ['"'])

end Turnstile.Text
