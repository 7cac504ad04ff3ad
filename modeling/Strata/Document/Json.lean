import Strata.Document.Basic
import Strata.Number.Digits
import Strata.Text.Stop

/-!
Reading JSON text. The grammar is the strict one: no comments, no trailing commas, one document.
Values nest at most 127 deep. A number with a point or an exponent is computed in 64-bit steps,
digits and then one multiplication or division by a power of ten, and a number whose magnitude
leaves the range is an error. Reading stops at the first fault.
-/

namespace Strata.Json

open Number Text

/-- Whether a character may stand between tokens. -/
def isSpace (c : Char) : Bool := c = ' ' || c = '\n' || c = '\t' || c = '\r'

/-- The text from the next token on. -/
def skip (s : List Char) : List Char := s.dropWhile isSpace

/-! ### Texts -/

/-- Drops the characters that begin in the first `n` bytes; the flag says whether there were so
many bytes. -/
def dropBytes : Nat → List Char → Bool × List Char
  | 0, s => (true, s)
  | _ + 1, [] => (false, [])
  | n + 1, c :: rest => dropBytes (n + 1 - c.utf8Size) rest
termination_by _ s => s.length

/-- The four digits of a numbered character. -/
def readHex (s : List Char) : Except Stop (Nat × List Char) :=
  let (enough, rest) := dropBytes 4 s
  if !enough then .error ⟨[]⟩
  else
    match s with
    | a :: b :: c :: d :: _ =>
      match hexValue? a, hexValue? b, hexValue? c, hexValue? d with
      | some a, some b, some c, some d => .ok (((a * 16 + b) * 16 + c) * 16 + d, rest)
      | _, _, _, _ => Stop.before rest
    | _ => Stop.before rest

/-- A character given by number: one code, or two that together stand for one beyond the first
plane. -/
def readNumbered (s : List Char) : Except Stop (Char × List Char) := do
  let (n, rest) ← readHex s
  if 0xDC00 ≤ n ∧ n ≤ 0xDFFF then Stop.before rest
  else if 0xD800 ≤ n ∧ n ≤ 0xDBFF then
    match rest with
    | '\\' :: 'u' :: more =>
      let (m, rest) ← readHex more
      if 0xDC00 ≤ m ∧ m ≤ 0xDFFF then
        .ok (Char.ofNat (0x10000 + (n - 0xD800) * 0x400 + (m - 0xDC00)), rest)
      else Stop.before rest
    | '\\' :: more => Stop.after more
    | more => Stop.after more
  else .ok (Char.ofNat n, rest)

/-- The character that an escape stands for, after its backslash. -/
def readEscape : List Char → Except Stop (Char × List Char)
  | [] => .error ⟨[]⟩
  | 'u' :: rest => readNumbered rest
  | c :: rest =>
    match c with
    | '"' | '\\' | '/' => .ok (c, rest)
    | 'b' => .ok (Char.ofNat 8, rest)
    | 'f' => .ok (Char.ofNat 12, rest)
    | 'n' => .ok ('\n', rest)
    | 'r' => .ok ('\r', rest)
    | 't' => .ok ('\t', rest)
    | _ => Stop.before rest

/-- The characters of a text up to its closing quote. Each turn reads at least one character. -/
def readChars : Nat → List Char → Except Stop (List Char × List Char)
  | 0, s => Stop.before s
  | _ + 1, [] => .error ⟨[]⟩
  | _ + 1, '"' :: rest => .ok ([], rest)
  | fuel + 1, '\\' :: rest => do
    let (c, rest) ← readEscape rest
    let (cs, rest) ← readChars fuel rest
    .ok (c :: cs, rest)
  | fuel + 1, c :: rest =>
    if c.toNat < 32 then Stop.before rest
    else do
      let (cs, rest) ← readChars fuel rest
      .ok (c :: cs, rest)

/-- A text, after its opening quote. -/
def readText (s : List Char) : Except Stop (String × List Char) := do
  let (cs, rest) ← readChars (s.length + 1) s
  .ok (String.ofList cs, rest)

/-! ### Numbers -/

/-- The greatest count that the digits of a number are gathered in. -/
def greatestSignificand : Nat := 18446744073709551615

/-- A significand times a power of ten in 64-bit steps: beyond the powers that 64 bits hold it is
divided by the greatest of them first. Nothing comes of a product out of range. -/
def scale (x : Binary) (power : Int) : Nat → Option Binary
  | 0 => some x
  | fuel + 1 =>
    if power.natAbs ≤ 308 then
      let ten := BinaryFormat.double.ofDecimal false 1 power.natAbs
      if 0 ≤ power then
        let y := BinaryFormat.double.mul x ten
        if y.isFinite then some y else none
      else some (BinaryFormat.double.div x ten)
    else if x = .zero false then some x
    else if 0 ≤ power then none
    else scale (BinaryFormat.double.div x (BinaryFormat.double.ofDecimal false 1 308))
      (power + 308) fuel

/-- Gives a number its sign. -/
def signed (negative : Bool) : Binary → Binary
  | .finite _ m e => .finite negative m e
  | x => x

/-- The number with a significand and a power of ten. -/
def ofParts (negative : Bool) (significand : Nat) (power : Int) (rest : List Char) :
    Except Stop (Numeral × List Char) :=
  match scale (BinaryFormat.double.ofNat significand) power (power.natAbs / 308 + 2) with
  | some x => .ok (.real (signed negative x), rest)
  | none => Stop.before rest

/-- The digits of an exponent so far, or nothing if they exceed 31 bits, and what follows. -/
def exponentDigits : Nat → List Char → Option Nat × List Char
  | e, [] => (some e, [])
  | e, c :: rest =>
    if !isDigit c then (some e, c :: rest)
    else if 10 * e + digitValue c ≤ 2147483647 then exponentDigits (10 * e + digitValue c) rest
    else (none, rest.dropWhile isDigit)

/-- Where reading stands after the digit that makes an exponent exceed 31 bits. -/
def afterLongExponent : Nat → List Char → List Char
  | _, [] => []
  | e, c :: rest =>
    if isDigit c && 10 * e + digitValue c ≤ 2147483647 then
      afterLongExponent (10 * e + digitValue c) rest
    else rest

/-- A power of ten kept in 32 bits. -/
def clampPower (p : Int) : Int := max (-2147483648) (min 2147483647 p)

/-- A number from its exponent on, after the letter. -/
def readPower (negative : Bool) (significand : Nat) (power : Int) (s : List Char) :
    Except Stop (Numeral × List Char) :=
  let (down, digits) := splitSign s
  match digits with
  | [] => .error ⟨[]⟩
  | c :: rest =>
    if !isDigit c then Stop.before rest
    else
      match exponentDigits (digitValue c) rest with
      | (some e, rest) =>
        ofParts negative significand (clampPower (if down then power - e else power + e)) rest
      | (none, after) =>
        if significand ≠ 0 && !down then Stop.before (afterLongExponent (digitValue c) rest)
        else .ok (.real (.zero negative), after)

/-- A number from what follows its digits on. -/
def readTail (negative : Bool) (significand : Nat) (power : Int) :
    List Char → Except Stop (Numeral × List Char)
  | c :: rest =>
    if c = 'e' || c = 'E' then readPower negative significand power rest
    else ofParts negative significand power (c :: rest)
  | [] => ofParts negative significand power []

/-- The digits after a point, gathered while they fit; the rest of them changes nothing. -/
def readFraction (negative : Bool) (significand : Nat) (power : Int) :
    List Char → Except Stop (Numeral × List Char)
  | [] => readTail negative significand power []
  | c :: rest =>
    if !isDigit c then readTail negative significand power (c :: rest)
    else if 10 * significand + digitValue c ≤ greatestSignificand then
      readFraction negative (10 * significand + digitValue c) (power - 1) rest
    else readTail negative significand power (rest.dropWhile isDigit)

/-- A number from its point on, after the point; a digit has to follow. -/
def readPoint (negative : Bool) (significand : Nat) (power : Int) (s : List Char) :
    Except Stop (Numeral × List Char) :=
  match s with
  | c :: _ => if isDigit c then readFraction negative significand power s else Stop.after s
  | [] => .error ⟨[]⟩

/-- A number whose whole digits exceed 64 bits: each further one counts as a power of ten. -/
def readLong (negative : Bool) (significand : Nat) (power : Int) :
    List Char → Except Stop (Numeral × List Char)
  | [] => ofParts negative significand power []
  | c :: rest =>
    if isDigit c then readLong negative significand (power + 1) rest
    else if c = '.' then readPoint negative significand power rest
    else readTail negative significand power (c :: rest)

/-- A number without point or exponent: whole if it is in the 64-bit ranges, minus zero apart. -/
def ofDigits (negative : Bool) (significand : Nat) : Numeral :=
  if !negative then .whole significand
  else if significand = 0 ∨ 9223372036854775808 < significand then
    .real (signed true (BinaryFormat.double.ofNat significand))
  else .whole (-significand)

/-- A number from its whole digits on. -/
def readWhole (negative : Bool) (significand : Nat) :
    List Char → Except Stop (Numeral × List Char)
  | [] => .ok (ofDigits negative significand, [])
  | c :: rest =>
    if isDigit c then
      if 10 * significand + digitValue c ≤ greatestSignificand then
        readWhole negative (10 * significand + digitValue c) rest
      else readLong negative significand 1 rest
    else if c = '.' then readPoint negative significand 0 rest
    else if c = 'e' || c = 'E' then readPower negative significand 0 rest
    else .ok (ofDigits negative significand, c :: rest)

/-- A number after its sign. A leading zero stands alone before the point. -/
def readNumber (negative : Bool) : List Char → Except Stop (Numeral × List Char)
  | [] => .error ⟨[]⟩
  | '0' :: c :: rest =>
    if isDigit c then Stop.after (c :: rest) else readWhole negative 0 (c :: rest)
  | c :: rest =>
    if isDigit c then readWhole negative (digitValue c) rest else Stop.before rest

/-! ### Values -/

/-- Reads the rest of a word whose letters are given. -/
def readWord (word : List Char) (value : Document) (s : List Char) :
    Except Stop (Document × List Char) :=
  match word, s with
  | [], s => .ok (value, s)
  | _ :: _, [] => .error ⟨[]⟩
  | w :: word, c :: rest => if w = c then readWord word value rest else Stop.before rest

/-- A key and the colon after it, from the opening quote on. -/
def readKey (s : List Char) : Except Stop (String × List Char) :=
  match s with
  | '"' :: rest => do
    let (key, rest) ← readText rest
    match skip rest with
    | ':' :: rest => .ok (key, rest)
    | rest => Stop.after rest
  | s => Stop.after s

mutual

/-- A value, at most `depth` levels deep. -/
def readValue : Nat → Nat → List Char → Except Stop (Document × List Char)
  | 0, _, s => Stop.before s
  | fuel + 1, depth, s =>
    match skip s with
    | [] => .error ⟨[]⟩
    | c :: rest =>
      match c with
      | 'n' => readWord ['u', 'l', 'l'] .null rest
      | 't' => readWord ['r', 'u', 'e'] (.boolean true) rest
      | 'f' => readWord ['a', 'l', 's', 'e'] (.boolean false) rest
      | '-' => (readNumber true rest).map fun r => (.number r.1, r.2)
      | '"' => (readText rest).map fun r => (.text r.1, r.2)
      | '[' =>
        if depth = 0 then Stop.after (c :: rest)
        else
          match skip rest with
          | ']' :: rest => .ok (.list [], rest)
          | [] => .error ⟨[]⟩
          | rest => (readItems fuel (depth - 1) rest).map fun r => (.list r.1, r.2)
      | '{' =>
        if depth = 0 then Stop.after (c :: rest)
        else
          match skip rest with
          | '}' :: rest => .ok (.object [], rest)
          | rest =>
            (readFields fuel (depth - 1) rest).map fun r => (Document.ofFields r.1, r.2)
      | _ =>
        if isDigit c then (readNumber false (c :: rest)).map fun r => (.number r.1, r.2)
        else Stop.after (c :: rest)

/-- The items of a list from one of them on, with the closing bracket. -/
def readItems : Nat → Nat → List Char → Except Stop (List Document × List Char)
  | 0, _, s => Stop.before s
  | fuel + 1, depth, s => do
    let (item, rest) ← readValue fuel depth s
    match skip rest with
    | ']' :: rest => .ok ([item], rest)
    | ',' :: rest =>
      match skip rest with
      | ']' :: rest => Stop.before rest
      | rest =>
        let (items, rest) ← readItems fuel depth rest
        .ok (item :: items, rest)
    | rest => Stop.after rest

/-- The fields of an object from a key on, with the closing brace. -/
def readFields : Nat → Nat → List Char → Except Stop (List (String × Document) × List Char)
  | 0, _, s => Stop.before s
  | fuel + 1, depth, s => do
    let (key, rest) ← readKey s
    let (value, rest) ← readValue fuel depth rest
    match skip rest with
    | '}' :: rest => .ok ([(key, value)], rest)
    | ',' :: rest =>
      match skip rest with
      | '"' :: rest =>
        let (fields, rest) ← readFields fuel depth ('"' :: rest)
        .ok ((key, value) :: fields, rest)
      | rest => Stop.after rest
    | rest => Stop.after rest

end

/-- The greatest depth of nesting. -/
def greatestDepth : Nat := 127

/-- The document that a text holds, and nothing but blanks after it. -/
def read (s : List Char) : Except Stop Document := do
  let (d, rest) ← readValue (2 * s.length + 2) greatestDepth s
  match skip rest with
  | [] => .ok d
  | rest => Stop.after rest

/-- The document that a text holds, or the line where reading it stopped. -/
def parse (text : String) : Except Nat Document :=
  (read text.toList).mapError (·.line text.toList)

end Strata.Json
