import Strata.Document.Basic
import Strata.Document.Toml.Moment
import Strata.Number.Integer
import Strata.Number.Literal
import Strata.Text.Stop

/-!
The parts of TOML text that have no parts of their own: comments and ends of lines, quoted texts
in one line or several, keys, numbers and moments. Reading stops at the first fault; within a
number every fault is taken to be at its start, which is in the same line.
-/

namespace Strata.Toml

open Number Text

/-! ### Lines and comments -/

/-- Whether a character is a blank within a line. -/
def isBlank (c : Char) : Bool := c = ' ' || c = '\t'

/-- The text from the next visible character of the line on. -/
def skipBlanks (s : List Char) : List Char := s.dropWhile isBlank

/-- What follows the end of a line, a line feed with or without a carriage return before it. -/
def endLine? : List Char → Option (List Char)
  | '\n' :: rest => some rest
  | '\r' :: '\n' :: rest => some rest
  | _ => none

/-- Whether a character may stand in a comment or, unescaped, between quotes. -/
def isPrintable (c : Char) : Bool := c = '\t' || (' ' ≤ c && c.toNat ≠ 0x7f)

/-- The text after a comment, from its mark on, if there is a comment. -/
def skipComment : List Char → List Char
  | '#' :: rest => rest.dropWhile isPrintable
  | s => s

/-- What follows the rest of a line that may hold blanks and a comment only. -/
def readLineRest (s : List Char) : Except Stop (List Char) :=
  match skipComment (skipBlanks s) with
  | [] => .ok []
  | rest =>
    match endLine? rest with
    | some rest => .ok rest
    | none => Stop.before rest

/-- The text from the next token on, in this line or a later one. -/
def skipLinesFor : Nat → List Char → List Char
  | 0, s => s
  | fuel + 1, s =>
    let s := skipBlanks s
    match endLine? (skipComment s) with
    | some rest => skipLinesFor fuel rest
    | none => s

/-- The text from the next token on, in this line or a later one. A comment that a line does not
end is left where it is. -/
def skipLines (s : List Char) : List Char := skipLinesFor (s.length + 1) s

/-! ### Quoted texts -/

/-- The character that a count of hexadecimal digits stands for. -/
def readCode (count : Nat) (s : List Char) : Except Stop (Char × List Char) :=
  match (s.take count).mapM hexValue? with
  | none => Stop.before s
  | some digits =>
    let n := digits.foldl (fun n d => 16 * n + d) 0
    if digits.length = count ∧ n.isValidChar then .ok (Char.ofNat n, s.drop count)
    else Stop.before s

/-- The character that an escape stands for, after its backslash. A letter that is no escape
counts as read. -/
def readEscape : List Char → Except Stop (Char × List Char)
  | [] => .error ⟨[]⟩
  | 'u' :: rest => readCode 4 rest
  | 'U' :: rest => readCode 8 rest
  | c :: rest =>
    match c with
    | '"' | '\\' => .ok (c, rest)
    | 'b' => .ok (Char.ofNat 8, rest)
    | 'f' => .ok (Char.ofNat 12, rest)
    | 'n' => .ok ('\n', rest)
    | 'r' => .ok ('\r', rest)
    | 't' => .ok ('\t', rest)
    | _ => Stop.before rest

/-- The characters of a text in one line, up to its closing quote. Only double quotes allow
escapes. -/
def readLine (quote : Char) : Nat → List Char → Except Stop (List Char × List Char)
  | 0, s => Stop.before s
  | _ + 1, [] => .error ⟨[]⟩
  | fuel + 1, c :: rest => do
    if c = quote then .ok ([], rest)
    else if c = '\\' && quote = '"' then
      let (d, rest) ← readEscape rest
      let (cs, rest) ← readLine quote fuel rest
      .ok (d :: cs, rest)
    else if isPrintable c then
      let (cs, rest) ← readLine quote fuel rest
      .ok (c :: cs, rest)
    else Stop.before (c :: rest)

/-- What follows the blanks of a line and its end, and all empty lines and blanks after it. -/
def skipEscapedEnd? (s : List Char) : Option (List Char) :=
  (endLine? (skipBlanks s)).map fun rest => more (rest.length + 1) rest
where
  /-- The text after blanks and ends of lines. -/
  more : Nat → List Char → List Char
    | 0, s => s
    | fuel + 1, s =>
      match endLine? (skipBlanks s) with
      | some rest => more fuel rest
      | none => skipBlanks s

/-- The characters of a text in several lines, up to its three closing quotes. One or two quotes
may stand anywhere in it, so of up to five the last three close it. Only double quotes allow
escapes, of which an escaped end of a line stands for nothing. -/
def readBlock (quote : Char) : Nat → List Char → Except Stop (List Char × List Char)
  | 0, s => Stop.before s
  | _ + 1, [] => .error ⟨[]⟩
  | fuel + 1, c :: rest => do
    if c = quote then
      let quotes := ((c :: rest).takeWhile (· = quote)).take 5
      let rest := (c :: rest).drop quotes.length
      if 3 ≤ quotes.length then .ok (quotes.drop 3, rest)
      else
        let (cs, rest) ← readBlock quote fuel rest
        .ok (quotes ++ cs, rest)
    else if c = '\\' && quote = '"' then
      match skipEscapedEnd? rest with
      | some rest => readBlock quote fuel rest
      | none =>
        let (d, rest) ← readEscape rest
        let (cs, rest) ← readBlock quote fuel rest
        .ok (d :: cs, rest)
    else
      match endLine? (c :: rest) with
      | some rest =>
        let (cs, rest) ← readBlock quote fuel rest
        .ok ('\n' :: cs, rest)
      | none =>
        if isPrintable c then
          let (cs, rest) ← readBlock quote fuel rest
          .ok (c :: cs, rest)
        else Stop.before (c :: rest)

/-- A text, after one opening quote. The end of a line right after three of them is left out. -/
def readText (quote : Char) (s : List Char) : Except Stop (String × List Char) := do
  let (cs, rest) ←
    if s.take 2 = [quote, quote] then
      let body := s.drop 2
      readBlock quote (s.length + 1) ((endLine? body).getD body)
    else readLine quote (s.length + 1) s
  .ok (String.ofList cs, rest)

/-! ### Keys -/

/-- Whether a character may stand in a bare key. -/
def isBare (c : Char) : Bool := c.isAlphanum || c = '_' || c = '-'

/-- Whether a text begins with a key. -/
def startsKey : List Char → Bool
  | c :: _ => isBare c || c = '"' || c = '\''
  | [] => false

/-- One part of a key. -/
def readKeyPart (s : List Char) : Except Stop (String × List Char) :=
  match s with
  | '"' :: rest => (readLine '"' s.length rest).map fun r => (String.ofList r.1, r.2)
  | '\'' :: rest => (readLine '\'' s.length rest).map fun r => (String.ofList r.1, r.2)
  | s =>
    let name := s.takeWhile isBare
    if name.isEmpty then Stop.before s else .ok (String.ofList name, s.dropWhile isBare)

/-- The parts of a key between points. -/
def readKeyParts : Nat → List Char → Except Stop (List String × List Char)
  | 0, s => Stop.before s
  | fuel + 1, s => do
    let (part, rest) ← readKeyPart (skipBlanks s)
    match skipBlanks rest with
    | '.' :: rest =>
      let (parts, rest) ← readKeyParts fuel rest
      .ok (part :: parts, rest)
    | rest => .ok ([part], rest)

/-- No key has as many parts as this, and no value nests as deep. -/
def depthLimit : Nat := 80

/-- A key. -/
def readKey (s : List Char) : Except Stop (List String × List Char) := do
  let (parts, rest) ← readKeyParts s.length s
  if depthLimit ≤ parts.length then Stop.before s else .ok (parts, rest)

/-! ### Numbers -/

/-- Splits digits off a text, with single underscores between them. -/
def splitMore (isDigit : Char → Bool) : List Char → Option (List Char × List Char)
  | [] => some ([], [])
  | '_' :: s =>
    match s with
    | [] => none
    | c :: rest =>
      if isDigit c then (splitMore isDigit rest).map fun r => (c :: r.1, r.2) else none
  | c :: rest =>
    if isDigit c then (splitMore isDigit rest).map fun r => (c :: r.1, r.2)
    else some ([], c :: rest)

/-- Splits digits off a text that begins with one. -/
def splitDigits (isDigit : Char → Bool) : List Char → Option (List Char × List Char)
  | c :: rest =>
    if isDigit c then (splitMore isDigit rest).map fun r => (c :: r.1, r.2) else none
  | [] => none

/-- Splits a whole number off a text, a zero standing alone. -/
def splitWhole (s : List Char) : Option (List Char × List Char) :=
  match s with
  | '0' :: rest => some (['0'], rest)
  | s => splitDigits isDigit s

/-- Splits the fraction off a text, with its point, if there is one. -/
def splitFraction (s : List Char) : Option (List Char × List Char) :=
  match s with
  | '.' :: rest => (splitDigits isDigit rest).map fun r => ('.' :: r.1, r.2)
  | s => some ([], s)

/-- Splits the exponent off a text, with its letter, if there is one. -/
def splitExponent (s : List Char) : Option (List Char × List Char) :=
  match s with
  | 'e' :: rest | 'E' :: rest =>
    match rest with
    | '+' :: rest => (splitDigits isDigit rest).map fun r => ('e' :: '+' :: r.1, r.2)
    | '-' :: rest => (splitDigits isDigit rest).map fun r => ('e' :: '-' :: r.1, r.2)
    | rest => (splitDigits isDigit rest).map fun r => ('e' :: r.1, r.2)
  | s => some ([], s)

/-- An integer, if it is in the range of 64 bits. -/
def wholeNumber? (n : Int) : Option Document :=
  if (⟨true, .w64⟩ : IntegerType).holds n then some (.number (.whole n)) else none

/-- A number in decimal notation, after its sign: with a fraction or an exponent a binary number,
which may not exceed all of them, else an integer. -/
def readDecimal (negative : Bool) (s : List Char) : Option (Document × List Char) := do
  let (whole, rest) ← splitWhole s
  let (fraction, rest) ← splitFraction rest
  let (exponent, rest) ← splitExponent rest
  if fraction.isEmpty && exponent.isEmpty then
    let n : Int := digitsValue whole
    let d ← wholeNumber? (if negative then -n else n)
    some (d, rest)
  else
    let x ← BinaryFormat.double.readUnsigned negative (whole ++ fraction ++ exponent)
    if x = .infinite false then none else some (.ofReal x, rest)

/-- An unsigned integer in another base, after the letter of the base. -/
def readBase (base : Nat) (s : List Char) : Option (Document × List Char) := do
  let (digits, rest) ← splitDigits (fun c => (hexValue? c).any (· < base)) s
  let d ← wholeNumber? (digits.foldl (fun n c => base * n + (hexValue? c).getD 0) 0)
  some (d, rest)

/-- A number after its sign, among them the infinite and the undefined one, which are null. -/
def readSigned (negative : Bool) (s : List Char) : Option (Document × List Char) :=
  match s with
  | 'i' :: 'n' :: 'f' :: rest | 'n' :: 'a' :: 'n' :: rest => some (.null, rest)
  | s => readDecimal negative s

/-- The key under which a moment stands. -/
def momentKey : String := "$__toml_private_datetime"

/-- A number or a moment. -/
def readNumber (s : List Char) : Option (Document × List Char) :=
  if startsDate s || startsTime s then
    (Moment.read s).map fun r => (.object [(momentKey, .text r.1.text)], r.2)
  else
    match s with
    | '0' :: 'x' :: rest => readBase 16 rest
    | '0' :: 'o' :: rest => readBase 8 rest
    | '0' :: 'b' :: rest => readBase 2 rest
    | '+' :: rest => readSigned false rest
    | '-' :: rest => readSigned true rest
    | s => readSigned false s

end Strata.Toml
