import Strata.Text.Visible

/-!
Quoted texts, as they stand in messages: double quotes around, quote and backslash escaped, the
four common controls by letter, and every other character that is not visible by its number.
-/

namespace Strata.Text

/-- The written form of one character inside quotes. -/
def escapeChar (c : Char) : List Char :=
  if c = '"' then ['\\', '"']
  else if c = '\\' then ['\\', '\\']
  else if c = '\t' then ['\\', 't']
  else if c = '\r' then ['\\', 'r']
  else if c = '\n' then ['\\', 'n']
  else if c = Char.ofNat 0 then ['\\', '0']
  else if isVisible c then [c]
  else '\\' :: 'u' :: '{' :: Nat.toDigits 16 c.toNat ++ ['}']

/-- The characters between double quotes, with escapes. -/
def quote (s : List Char) : List Char :=
  '"' :: s.flatMap escapeChar ++ ['"']

/-- The text between double quotes, with escapes. -/
def quoted (s : String) : String := String.ofList (quote s.toList)

end Strata.Text
