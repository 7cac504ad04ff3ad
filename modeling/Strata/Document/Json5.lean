import Strata.Config.Record
import Strata.Document.Json
import Strata.Text.Identifier
import Strata.Text.Search

/-!
Reading relaxed JSON: comments, trailing commas, bare keys, single quotes, and numbers with a plus
sign, a bare point or hexadecimal digits. Numbers are kept as they are written, since what they
stand for depends on what is asked of them: as a part of a document a number without point and
exponent is an integer of 64 bits, where an integer is expected any number is cut to its range.
-/

namespace Strata.Json5

open Number Text Config

/-- A value as it is written. -/
inductive Node where
  | null
  | boolean (b : Bool)
  | number (digits : List Char)
  | text (s : String)
  | list (items : List Node)
  | object (fields : List (String × Node))
  deriving Repr, Inhabited

/-! ### Blanks and comments -/

/-- Whether a character ends a line. -/
def endsLine (c : Char) : Bool :=
  c = '\n' || c = '\r' || c.toNat = 0x2028 || c.toNat = 0x2029

/-- Code points of the general category Zs. -/
def spaceRanges : List (Nat × Nat) :=
  [(0x20, 0x20), (0xa0, 0xa0), (0x1680, 0x1680), (0x2000, 0x200a), (0x202f, 0x202f),
   (0x205f, 0x205f), (0x3000, 0x3000)]

/-- Whether a character may stand between tokens. -/
def isSpace (c : Char) : Bool :=
  c = '\t' || c.toNat = 0xb || c.toNat = 0xc || c.toNat = 0xfeff || endsLine c ||
    inRanges spaceRanges c.toNat

/-- The text after the end of a comment. -/
def endComment : List Char → Option (List Char)
  | [] => none
  | '*' :: '/' :: rest => some rest
  | _ :: rest => endComment rest

/-- The text from the next token on. A comment that does not end is left where it is. -/
def skipFor : Nat → List Char → List Char
  | 0, s => s
  | fuel + 1, s =>
    match s.dropWhile isSpace with
    | '/' :: '/' :: rest => skipFor fuel (rest.dropWhile fun c => !endsLine c)
    | '/' :: '*' :: rest =>
      match endComment rest with
      | some rest => skipFor fuel rest
      | none => '/' :: '*' :: rest
    | rest => rest

/-- The text from the next token on. -/
def skip (s : List Char) : List Char := skipFor (s.length + 1) s

/-! ### Texts -/

/-- The value of hexadecimal digits. -/
def hexDigits? (s : List Char) : Option Nat :=
  s.foldlM (fun n c => (hexValue? c).map (16 * n + ·)) 0

/-- A count of hexadecimal digits at the start of a text. -/
def readHex (count : Nat) (s : List Char) : Option (Nat × List Char) :=
  if s.length < count then none
  else (hexDigits? (s.take count)).map fun n => (n, s.drop count)

/-- One part of a text: a character, half of one given by two numbers, or nothing. -/
inductive Piece where
  | char (c : Char)
  | leading (n : Nat)
  | trailing (n : Nat)
  | nothing

/-- The piece that a numbered escape stands for. -/
def Piece.ofCode (n : Nat) : Piece :=
  if 0xD800 ≤ n ∧ n ≤ 0xDBFF then .leading n
  else if 0xDC00 ≤ n ∧ n ≤ 0xDFFF then .trailing n
  else .char (Char.ofNat n)

/-- The piece that an escape stands for, after its backslash. -/
def readEscape : List Char → Option (Piece × List Char)
  | [] => none
  | '\r' :: '\n' :: rest => some (.nothing, rest)
  | c :: rest =>
    if c = 'x' then (readHex 2 rest).map fun r => (.char (Char.ofNat r.1), r.2)
    else if c = 'u' then (readHex 4 rest).map fun r => (Piece.ofCode r.1, r.2)
    else if c = '0' then some (.char (Char.ofNat 0), rest)
    else if isDigit c then none
    else if endsLine c then some (.nothing, rest)
    else if c = 'b' then some (.char (Char.ofNat 8), rest)
    else if c = 'f' then some (.char (Char.ofNat 12), rest)
    else if c = 'n' then some (.char '\n', rest)
    else if c = 'r' then some (.char '\r', rest)
    else if c = 't' then some (.char '\t', rest)
    else if c = 'v' then some (.char (Char.ofNat 11), rest)
    else some (.char c, rest)

/-- The pieces of a text up to its closing quote. -/
def readPieces (closing : Char) : Nat → List Char → Option (List Piece × List Char)
  | 0, _ => none
  | _ + 1, [] => none
  | fuel + 1, c :: rest => do
    if c = closing then some ([], rest)
    else if endsLine c then none
    else
      let (piece, rest) ← if c = '\\' then readEscape rest else some (.char c, rest)
      let (pieces, rest) ← readPieces closing fuel rest
      some (piece :: pieces, rest)

/-- The characters that pieces amount to. Two halves have to stand together. -/
def joinPieces : List Piece → Option (List Char)
  | [] => some []
  | .nothing :: rest => joinPieces rest
  | .char c :: rest => (joinPieces rest).map (c :: ·)
  | .leading n :: .trailing m :: rest =>
    (joinPieces rest).map (Char.ofNat (0x10000 + (n - 0xD800) * 0x400 + (m - 0xDC00)) :: ·)
  | .leading _ :: _ => none
  | .trailing _ :: _ => none

/-- A quoted text, after its opening quote. -/
def readText (closing : Char) (s : List Char) : Option (String × List Char) := do
  let (pieces, rest) ← readPieces closing (s.length + 1) s
  let cs ← joinPieces pieces
  some (String.ofList cs, rest)

/-- The further pieces of a bare name. -/
def readNameRest : Nat → List Char → Option (List Piece × List Char)
  | 0, s => some ([], s)
  | fuel + 1, s =>
    match s with
    | '\\' :: 'u' :: rest => do
      let (n, rest) ← readHex 4 rest
      let (pieces, rest) ← readNameRest fuel rest
      some (Piece.ofCode n :: pieces, rest)
    | c :: rest =>
      if continuesName c then do
        let (pieces, rest) ← readNameRest fuel rest
        some (.char c :: pieces, rest)
      else some ([], s)
    | [] => some ([], s)

/-- A key: a quoted text or a bare name. -/
def readKey (s : List Char) : Option (String × List Char) :=
  match s with
  | '"' :: rest => readText '"' rest
  | '\'' :: rest => readText '\'' rest
  | '\\' :: _ => name s
  | c :: _ => if startsName c then name s else none
  | [] => none
where
  /-- A bare name. -/
  name (s : List Char) : Option (String × List Char) := do
    let (pieces, rest) ← readNameRest s.length s
    let cs ← joinPieces pieces
    if pieces.isEmpty then none else some (String.ofList cs, rest)

/-! ### Numbers -/

/-- Splits off the exponent of a number, if there is one. -/
def splitExponent (s : List Char) : List Char × List Char :=
  match s with
  | c :: rest =>
    if c = 'e' || c = 'E' then
      let (sign, rest) :=
        match rest with
        | '+' :: more => (['+'], more)
        | '-' :: more => (['-'], more)
        | more => ([], more)
      let digits := rest.takeWhile isDigit
      if digits.isEmpty then ([], s) else (c :: sign ++ digits, rest.dropWhile isDigit)
    else ([], s)
  | [] => ([], s)

/-- Splits off the decimal digits at the start of a text, a zero standing alone. -/
def splitWhole (s : List Char) : List Char × List Char :=
  match s with
  | '0' :: rest => (['0'], rest)
  | s => (s.takeWhile isDigit, s.dropWhile isDigit)

/-- Splits an unsigned number off a text. -/
def splitUnsigned (s : List Char) : Option (List Char × List Char) :=
  match stripStart "Infinity".toList s with
  | some rest => some ("Infinity".toList, rest)
  | none =>
    match stripStart "NaN".toList s with
    | some rest => some ("NaN".toList, rest)
    | none =>
      match s with
      | '0' :: x :: d :: rest =>
        if (x = 'x' || x = 'X') && (hexValue? d).isSome then
          let digits := (d :: rest).takeWhile fun c => (hexValue? c).isSome
          some ('0' :: x :: digits, rest.drop (digits.length - 1))
        else decimal s
      | s => decimal s
where
  /-- Splits a decimal number off a text. -/
  decimal (s : List Char) : Option (List Char × List Char) :=
    let (digits, rest) := splitWhole s
    match rest with
    | '.' :: more =>
      let fraction := more.takeWhile isDigit
      if digits.isEmpty && fraction.isEmpty then none
      else
        let (e, rest) := splitExponent (more.dropWhile isDigit)
        some (digits ++ '.' :: fraction ++ e, rest)
    | rest =>
      if digits.isEmpty then none
      else
        let (e, rest) := splitExponent rest
        some (digits ++ e, rest)

/-- Splits a number off a text. -/
def splitNumber (s : List Char) : Option (List Char × List Char) :=
  match s with
  | '+' :: rest => (splitUnsigned rest).map fun r => ('+' :: r.1, r.2)
  | '-' :: rest => (splitUnsigned rest).map fun r => ('-' :: r.1, r.2)
  | s => splitUnsigned s

/-! ### Values -/

mutual

/-- A value at the start of a text. -/
def readValue : Nat → List Char → Option (Node × List Char)
  | 0, _ => none
  | fuel + 1, s =>
    match s with
    | 'n' :: 'u' :: 'l' :: 'l' :: rest => some (.null, rest)
    | 't' :: 'r' :: 'u' :: 'e' :: rest => some (.boolean true, rest)
    | 'f' :: 'a' :: 'l' :: 's' :: 'e' :: rest => some (.boolean false, rest)
    | '"' :: rest => (readText '"' rest).map fun r => (.text r.1, r.2)
    | '\'' :: rest => (readText '\'' rest).map fun r => (.text r.1, r.2)
    | '[' :: rest =>
      match skip rest with
      | ']' :: rest => some (.list [], rest)
      | rest => (readItems fuel rest).map fun r => (.list r.1, r.2)
    | '{' :: rest =>
      match skip rest with
      | '}' :: rest => some (.object [], rest)
      | rest => (readFields fuel rest).map fun r => (.object r.1, r.2)
    | s => (splitNumber s).map fun r => (.number r.1, r.2)

/-- The items of a list from one of them on, with the closing bracket. -/
def readItems : Nat → List Char → Option (List Node × List Char)
  | 0, _ => none
  | fuel + 1, s => do
    let (item, rest) ← readValue fuel s
    match skip rest with
    | ']' :: rest => some ([item], rest)
    | ',' :: rest =>
      match skip rest with
      | ']' :: rest => some ([item], rest)
      | rest =>
        let (items, rest) ← readItems fuel rest
        some (item :: items, rest)
    | _ => none

/-- The fields of an object from a key on, with the closing brace. -/
def readFields : Nat → List Char → Option (List (String × Node) × List Char)
  | 0, _ => none
  | fuel + 1, s => do
    let (key, rest) ← readKey s
    match skip rest with
    | ':' :: rest =>
      let (value, rest) ← readValue fuel (skip rest)
      match skip rest with
      | '}' :: rest => some ([(key, value)], rest)
      | ',' :: rest =>
        match skip rest with
        | '}' :: rest => some ([(key, value)], rest)
        | rest =>
          let (fields, rest) ← readFields fuel rest
          some ((key, value) :: fields, rest)
      | _ => none
    | _ => none

end

/-- The value that a text holds, and nothing but blanks and comments around it. -/
def parse (text : String) : Option Node := do
  let s := text.toList
  let (node, rest) ← readValue (2 * s.length + 2) (skip s)
  if (skip rest).isEmpty then some node else none

/-! ### What values stand for -/

/-- The integer type of 64 bits. -/
def longType : IntegerType := ⟨true, .w64⟩

/-- The value of a hexadecimal number of 32 bits, if the text is one. -/
def hexNumber? (s : List Char) : Option (Option Nat) :=
  match s with
  | '0' :: x :: digits =>
    if x = 'x' || x = 'X' then
      some ((hexDigits? digits).filter (· < 4294967296))
    else none
  | _ => none

/-- The binary number that the text of a number stands for. -/
def real? (s : List Char) : Option Binary :=
  if s = "Infinity".toList then some (.infinite false)
  else if s = "-Infinity".toList then some (.infinite true)
  else if s = "NaN".toList || s = "-NaN".toList then some .nan
  else
    match hexNumber? s with
    | some n => n.map BinaryFormat.double.ofNat
    | none =>
      match BinaryFormat.double.read s with
      | .ok x => if x.isFinite then some x else none
      | .error _ => none

/-- Whether the text of a number is that of an integer. -/
def isWhole (s : List Char) : Bool :=
  !s.contains '.' && ((hexNumber? s).isSome || !(s.contains 'e' || s.contains 'E')) &&
    s ≠ "Infinity".toList && s ≠ "-Infinity".toList && s ≠ "NaN".toList && s ≠ "-NaN".toList

/-- The document that the text of a number stands for. -/
def numberDocument? (s : List Char) : Option Document :=
  if isWhole s then
    match hexNumber? s with
    | some n => n.map fun n => .number (.whole n)
    | none => (longType.read s).toOption.map fun n => .number (.whole n)
  else (real? s).map Document.ofReal

mutual

/-- The document that a value stands for, if its numbers are in range. -/
def Node.document? : Node → Option Document
  | .null => some .null
  | .boolean b => some (.boolean b)
  | .number s => numberDocument? s
  | .text s => some (.text s)
  | .list items => (documents? items).map .list
  | .object fields => (fieldDocuments? fields).map .ofFields
termination_by structural n => n

/-- The documents that list items stand for. -/
def documents? : List Node → Option (List Document)
  | [] => some []
  | n :: rest => do
    let d ← n.document?
    let ds ← documents? rest
    some (d :: ds)
termination_by structural ns => ns

/-- The documents that object fields stand for. -/
def fieldDocuments? : List (String × Node) → Option (List (String × Document))
  | [] => some []
  | (key, n) :: rest => do
    let d ← n.document?
    let ds ← fieldDocuments? rest
    some ((key, d) :: ds)
termination_by structural ns => ns

end

/-- A binary number cut to an integer type: fractions go towards zero, what is out of range to the
nearer end, and the undefined number to zero. -/
def cut (t : IntegerType) : Binary → Int
  | .nan => 0
  | .infinite s => if s then t.least else t.greatest
  | .finite s m e =>
    let n : Int := (m * scaleUp e / scaleUp (-e) : Nat)
    max t.least (min t.greatest (if s then -n else n))

/-- What relaxed JSON is when it does not fit; no more is said about it. -/
def unfit : Misfit := .invalidType .null "another value"

/-- A value that is needed. -/
def require {α : Type} : Option α → Except Misfit α
  | some a => .ok a
  | none => .error unfit

/-- Relaxed JSON as a notation. -/
def dialect : Dialect Node :=
  { text := fun | .text s => .ok s | _ => .error unfit
    integer := fun t => fun
      | .number s => (require (real? s)).map (cut t)
      | _ => .error unfit
    items := fun | .list items => .ok items | _ => .error unfit
    parts := fun _ => fun
      | .object fields => .ok (.named fields)
      | .list items => .ok (.placed items)
      | _ => .error unfit
    document := fun n => require n.document?
    skip := fun n => (require n.document?).map fun _ => ()
    surplus := fun _ => .ok ()
    distinct := true }

end Strata.Json5
