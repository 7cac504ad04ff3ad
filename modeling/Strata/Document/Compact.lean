import Strata.Document.Basic

/-!
Documents as compact JSON text: no blanks, fields in key order, and only the quote, the backslash
and the controls escaped in texts.
-/

namespace Strata

namespace Document

/-- A lower-case hexadecimal digit. -/
def hexDigit (n : Nat) : Char := (Nat.toDigits 16 n).headD '0'

/-- The written form of one character of a text. -/
def escapeJson (c : Char) : List Char :=
  if c = '"' then ['\\', '"']
  else if c = '\\' then ['\\', '\\']
  else if c = '\n' then ['\\', 'n']
  else if c = '\r' then ['\\', 'r']
  else if c = '\t' then ['\\', 't']
  else if c.toNat = 8 then ['\\', 'b']
  else if c.toNat = 12 then ['\\', 'f']
  else if c.toNat < 32 then ['\\', 'u', '0', '0', hexDigit (c.toNat / 16), hexDigit (c.toNat % 16)]
  else [c]

/-- A text between quotes. -/
def compactText (s : String) : String :=
  String.ofList ('"' :: s.toList.flatMap escapeJson ++ ['"'])

mutual

/-- The compact text of a document. -/
def compact : Document → String
  | .null => "null"
  | .boolean b => if b then "true" else "false"
  | .number n => n.text
  | .text s => compactText s
  | .list items => "[" ++ ",".intercalate (compactItems items) ++ "]"
  | .object fields => "\x7b" ++ ",".intercalate (compactFields fields) ++ "\x7d"
termination_by structural d => d

/-- The compact texts of list items. -/
def compactItems : List Document → List String
  | [] => []
  | d :: rest => d.compact :: compactItems rest
termination_by structural ds => ds

/-- The compact texts of object fields. -/
def compactFields : List (String × Document) → List String
  | [] => []
  | (key, d) :: rest => (compactText key ++ ":" ++ d.compact) :: compactFields rest
termination_by structural fs => fs

end

end Document

end Strata
