/-!
A place in a YAML text: what is still to be read, how much was read, and the line and the column.
-/

namespace Strata.Yaml

/-- A place in a text. Lines count from one, columns and the characters read from zero. -/
structure Cursor where
  rest : List Char
  index : Nat := 0
  line : Nat := 1
  column : Nat := 0

/-- Whether a character ends a line. -/
def endsLine (c : Char) : Bool :=
  c = '\n' || c = '\r' || c.toNat = 0x85 || c.toNat = 0x2028 || c.toNat = 0x2029

/-- Whether a character is a blank within a line. -/
def isBlank (c : Char) : Bool := c = ' ' || c = '\t'

/-- Whether a text begins with a blank or the end of a line, or is at its end. -/
def startsGap : List Char → Bool
  | [] => true
  | c :: _ => isBlank c || endsLine c

/-- Whether a text begins with the end of a line, or is at its end. -/
def startsBreak : List Char → Bool
  | [] => true
  | c :: _ => endsLine c

/-- Whether a character may stand in a text at all. -/
def isAllowed (c : Char) : Bool :=
  let n := c.toNat
  n = 0x9 || n = 0xa || n = 0xd || (0x20 ≤ n && n ≤ 0x7e) || n = 0x85 ||
    (0xa0 ≤ n && n ≤ 0xfffd) || 0x10000 ≤ n

/-- Whether a character may stand in a name. -/
def isName (c : Char) : Bool := c.isAlphanum || c = '_' || c = '-'

namespace Cursor

/-- The place after the next characters, none of which ends a line. -/
def skip (c : Cursor) (n : Nat) : Cursor :=
  { c with rest := c.rest.drop n, index := c.index + n, column := c.column + n }

/-- The place after the characters of a kind, none of which ends a line. -/
def skipWhile (c : Cursor) (p : Char → Bool) : Cursor := c.skip (c.rest.takeWhile p).length

/-- The place after a comment, if there is one here. -/
def skipComment (c : Cursor) : Cursor :=
  match c.rest with
  | '#' :: _ => c.skipWhile fun d => !endsLine d
  | _ => c

/-- Reads the end of a line, if there is one here. The separators of lines and of paragraphs stand
for themselves, every other end of a line for a line feed. -/
def readBreak? (c : Cursor) : Option (Char × Cursor) :=
  let next (d : Char) (n : Nat) : Option (Char × Cursor) :=
    some (d, { rest := c.rest.drop n, index := c.index + n, line := c.line + 1, column := 0 })
  match c.rest with
  | '\r' :: '\n' :: _ => next '\n' 2
  | d :: _ =>
    if !endsLine d then none
    else if d.toNat = 0x2028 || d.toNat = 0x2029 then next d 1
    else next '\n' 1
  | [] => none

/-- Reads empty lines, and of each line the blanks before a column. -/
def readBreaks (indent : Nat) : Nat → Cursor → List Char × Cursor
  | 0, c => ([], c)
  | fuel + 1, c =>
    let c := c.skip (min (c.rest.takeWhile (· = ' ')).length (indent - c.column))
    match c.readBreak? with
    | some (d, c) =>
      let (breaks, c) := readBreaks indent fuel c
      (d :: breaks, c)
    | none => ([], c)

/-- Whether a document begins or ends here: three dashes or three points alone at the start of a
line. -/
def atBoundary (c : Cursor) (mark : Char) : Bool :=
  c.column = 0 && c.rest.take 3 = [mark, mark, mark] && startsGap (c.rest.drop 3)

/-- Whether a boundary of documents is here. -/
def atAnyBoundary (c : Cursor) : Bool := c.atBoundary '-' || c.atBoundary '.'

end Cursor

end Strata.Yaml
