import Strata.Document.Yaml.Cursor
import Strata.Number.Digits

/-!
The texts of YAML: quoted ones, plain ones, and blocks of lines. Between two words of a quoted or
plain text a single end of a line is read as a blank and further ends of lines are kept. A literal
block keeps all its lines, a folded one joins the lines that do not begin with a blank.
-/

namespace Strata.Yaml

open Number

/-- How a text is written. -/
inductive Style where
  | plain
  | quoted
  | literal
  | folded
  deriving DecidableEq, Repr

/-! ### Gaps between words -/

/-- What stands between two words: blanks before the first end of a line, and the ends of lines. A
gap is escaped if its first end of a line does not count. -/
structure Gap where
  blanks : List Char := []
  breaks : List Char := []
  escaped : Bool := false

namespace Gap

/-- Whether the gap reaches into a further line. -/
def isBroken (g : Gap) : Bool := g.escaped || !g.breaks.isEmpty

/-- What a gap stands for. -/
def text (g : Gap) : List Char :=
  if g.escaped then g.breaks
  else
    match g.breaks with
    | [] => g.blanks
    | '\n' :: [] => [' ']
    | '\n' :: more => more
    | breaks => breaks

/-- Reads the rest of a gap. Where the column is below the indent, a tab at the start of a line is
a fault. -/
def read (indent : Nat) : Nat → Gap → Cursor → Except Nat (Gap × Cursor)
  | 0, g, c => .ok (g, c)
  | fuel + 1, g, c =>
    match c.rest with
    | [] => .ok (g, c)
    | d :: _ =>
      if isBlank d then
        if g.isBroken then
          if d = '\t' && c.column < indent then .error c.line else read indent fuel g (c.skip 1)
        else read indent fuel { g with blanks := g.blanks ++ [d] } (c.skip 1)
      else
        match c.readBreak? with
        | some (b, c) => read indent fuel { g with blanks := [], breaks := g.breaks ++ [b] } c
        | none => .ok (g, c)

end Gap

/-! ### Quoted texts -/

/-- What the escape of one letter stands for. -/
def escapes : List (Char × Nat) :=
  [('0', 0), ('a', 7), ('b', 8), ('t', 9), ('\t', 9), ('n', 10), ('v', 11), ('f', 12), ('r', 13),
   ('e', 27), (' ', 32), ('"', 34), ('/', 47), ('\\', 92), ('N', 0x85), ('_', 0xa0),
   ('L', 0x2028), ('P', 0x2029)]

/-- The number of hexadecimal digits after the letter of an escape. -/
def codeLength? (c : Char) : Option Nat :=
  if c = 'x' then some 2 else if c = 'u' then some 4 else if c = 'U' then some 8 else none

/-- The character that an escape stands for, and the number of characters of the escape after its
backslash. -/
def escape? : List Char → Option (Char × Nat)
  | [] => none
  | c :: rest =>
    match codeLength? c with
    | some count =>
      match (rest.take count).mapM hexValue? with
      | some digits =>
        let n := digits.foldl (fun n d => 16 * n + d) 0
        if digits.length = count ∧ n.isValidChar then some (Char.ofNat n, count + 1) else none
      | none => none
    | none => (escapes.lookup c).map fun n => (Char.ofNat n, 1)

/-- Reads a word of a quoted text. The flag says whether an escaped end of a line ends it. -/
def readWord (quote : Char) : Nat → Cursor → Except Nat ((List Char × Bool) × Cursor)
  | 0, c => .ok (([], false), c)
  | fuel + 1, c =>
    if startsGap c.rest then .ok (([], false), c)
    else
      match c.rest with
      | [] => .ok (([], false), c)
      | d :: rest =>
        if quote = '\'' && d = quote && rest.head? = some quote then
          (readWord quote fuel (c.skip 2)).map fun r => ((d :: r.1.1, r.1.2), r.2)
        else if d = quote then .ok (([], false), c)
        else if quote = '"' && d = '\\' then
          match (c.skip 1).readBreak? with
          | some (_, c) => .ok (([], true), c)
          | none =>
            match escape? rest with
            | some (e, count) =>
              (readWord quote fuel (c.skip (count + 1))).map fun r => ((e :: r.1.1, r.1.2), r.2)
            | none => .error c.line
        else (readWord quote fuel (c.skip 1)).map fun r => ((d :: r.1.1, r.1.2), r.2)

/-- Reads a quoted text after its opening quote. -/
def readQuotedFor (quote : Char) : Nat → Cursor → Except Nat (List Char × Cursor)
  | 0, c => .error c.line
  | fuel + 1, c => do
    if c.atAnyBoundary || c.rest.isEmpty then .error c.line
    else
      let ((word, escaped), c) ← readWord quote (c.rest.length + 1) c
      if c.rest.head? = some quote then .ok (word, c.skip 1)
      else
        let (gap, c) ← Gap.read 0 (c.rest.length + 1) { escaped := escaped } c
        let (more, c) ← readQuotedFor quote fuel c
        .ok (word ++ gap.text ++ more, c)

/-- Reads a quoted text from its opening quote on. -/
def readQuoted (quote : Char) (c : Cursor) : Except Nat (String × Cursor) :=
  (readQuotedFor quote (c.rest.length + 1) (c.skip 1)).map fun r => (String.ofList r.1, r.2)

/-! ### Plain texts -/

/-- Whether a character is a bracket or a comma, which delimit plain texts within brackets. -/
def isFlowMark (c : Char) : Bool := c ∈ [',', '[', ']', '{', '}']

/-- Reads a word of a plain text. -/
def readPlainWord (inFlow : Bool) : Nat → Cursor → Except Nat (List Char × Cursor)
  | 0, c => .ok ([], c)
  | fuel + 1, c =>
    match c.rest with
    | [] => .ok ([], c)
    | d :: rest =>
      if startsGap c.rest then .ok ([], c)
      else if inFlow && d = ':' && rest.head?.any (fun e => isFlowMark e || e = '?') then
        .error c.line
      else if (d = ':' && startsGap rest) || (inFlow && isFlowMark d) then .ok ([], c)
      else (readPlainWord inFlow fuel (c.skip 1)).map fun r => (d :: r.1, r.2)

/-- Reads a plain text, the gap before its next word given. The flag says whether the text ends
after the end of a line. -/
def readPlainFor (inFlow : Bool) (indent : Nat) :
    Nat → Gap → Cursor → Except Nat ((List Char × Bool) × Cursor)
  | 0, gap, c => .ok (([], gap.isBroken), c)
  | fuel + 1, gap, c => do
    if c.atAnyBoundary || c.rest.head? = some '#' then .ok (([], gap.isBroken), c)
    else
      let (word, c) ← readPlainWord inFlow (c.rest.length + 1) c
      if word.isEmpty then .ok (([], gap.isBroken), c)
      else
        let found := gap.text ++ word
        let (next, c) ← Gap.read indent (c.rest.length + 1) {} c
        if (next.blanks.isEmpty && !next.isBroken) ||
            (!inFlow && next.isBroken && c.column < indent) then
          .ok ((found, next.isBroken), c)
        else
          let ((more, broken), c) ← readPlainFor inFlow indent fuel next c
          .ok ((found ++ more, broken), c)

/-- Reads a plain text. -/
def readPlain (inFlow : Bool) (indent : Nat) (c : Cursor) : Except Nat ((String × Bool) × Cursor) :=
  (readPlainFor inFlow indent (c.rest.length + 1) {} c).map fun r =>
    ((String.ofList r.1.1, r.1.2), r.2)

/-! ### Blocks of lines -/

/-- How many of the line ends after a block count. -/
inductive Chomping where
  | strip
  | clip
  | keep
  deriving DecidableEq, Repr

/-- Reads a sign that says which line ends after a block count. -/
def readChomping (c : Cursor) : Option Chomping × Cursor :=
  match c.rest with
  | '+' :: _ => (some .keep, c.skip 1)
  | '-' :: _ => (some .strip, c.skip 1)
  | _ => (none, c)

/-- Reads a digit that says how far a block is indented; it may not be zero. -/
def readIncrement (c : Cursor) : Except Nat (Option Nat × Cursor) :=
  match c.rest with
  | d :: _ =>
    if d = '0' then .error c.line
    else if isDigit d then .ok (some (digitValue d), c.skip 1)
    else .ok (none, c)
  | [] => .ok (none, c)

/-- Reads the signs after the mark of a block, in either order. -/
def readBlockSigns (c : Cursor) : Except Nat ((Chomping × Option Nat) × Cursor) := do
  match readChomping c with
  | (some chomping, c) =>
    let (increment, c) ← readIncrement c
    .ok ((chomping, increment), c)
  | (none, c) =>
    let (increment, c) ← readIncrement c
    match increment with
    | none => .ok ((.clip, none), c)
    | some n =>
      let (chomping, c) := readChomping c
      .ok ((chomping.getD .clip, some n), c)

/-- Reads the rest of a line, which may hold blanks and a comment only, and its end. -/
def readLineRest (c : Cursor) : Except Nat Cursor :=
  let c := (c.skipWhile isBlank).skipComment
  if !startsBreak c.rest then .error c.line
  else
    match c.readBreak? with
    | some (_, c) => .ok c
    | none => .ok c

/-- Reads empty lines of a block and the indent of the next line. A tab may not stand within the
indent. -/
def readEmptyLines (indent : Nat) (c : Cursor) : Except Nat (List Char × Cursor) :=
  let (breaks, c) := c.readBreaks indent (c.rest.length + 1)
  if c.column < indent && c.rest.head? = some '\t' then .error c.line else .ok (breaks, c)

/-- Reads the empty lines at the start of a block whose indent is not given, and the greatest
column at which the blanks of a line end. -/
def readFirstLines : Nat → Nat → Cursor → Except Nat ((List Char × Nat) × Cursor)
  | 0, greatest, c => .ok (([], greatest), c)
  | fuel + 1, greatest, c =>
    let c := c.skipWhile (· = ' ')
    let greatest := max greatest c.column
    if c.rest.head? = some '\t' then .error c.line
    else
      match c.readBreak? with
      | some (d, c) =>
        (readFirstLines fuel greatest c).map fun r => ((d :: r.1.1, r.1.2), r.2)
      | none => .ok (([], greatest), c)

/-- The text of a block so far, and what is left open at its end: the last end of a line, the ends
of the empty lines after it, and whether the last line began with a blank. -/
structure Block where
  text : List Char := []
  last : List Char := []
  empty : List Char := []
  blank : Bool := false

/-- What joins a line to the block before it. -/
def Block.joint (b : Block) (folded blank : Bool) : List Char :=
  if folded && b.last = ['\n'] && !b.blank && !blank then
    if b.empty.isEmpty then [' '] else b.empty
  else b.last ++ b.empty

/-- Reads the lines of a block. -/
def readBlockLines (folded : Bool) (indent : Nat) :
    Nat → Block → Cursor → Except Nat (Block × Cursor)
  | 0, b, c => .ok (b, c)
  | fuel + 1, b, c => do
    if c.column ≠ indent || c.rest.isEmpty then .ok (b, c)
    else
      let blank := c.rest.head?.any isBlank
      let line := c.rest.takeWhile fun d => !endsLine d
      let c := c.skip line.length
      let (last, c) :=
        match c.readBreak? with
        | some (d, c) => ([d], c)
        | none => ([], c)
      let (empty, c) ← readEmptyLines indent c
      readBlockLines folded indent fuel
        { text := b.text ++ b.joint folded blank ++ line, last := last, empty := empty,
          blank := blank } c

/-- Reads a block from its mark on. The indent of what surrounds it is given, one less than the
least column of its lines. -/
def readBlock (folded : Bool) (outer : Int) (c : Cursor) : Except Nat (String × Cursor) := do
  let ((chomping, increment), c) ← readBlockSigns (c.skip 1)
  let c ← readLineRest c
  let (indent, empty, c) ←
    match increment with
    | some n => do
      let indent := (max outer 0).toNat + n
      let (empty, c) ← readEmptyLines indent c
      pure (indent, empty, c)
    | none => do
      let ((empty, greatest), c) ← readFirstLines (c.rest.length + 1) 0 c
      pure (max (max greatest (outer + 1).toNat) 1, empty, c)
  let (b, c) ← readBlockLines folded indent (c.rest.length + 1) { empty := empty } c
  let tail :=
    match chomping with
    | .strip => []
    | .clip => b.last
    | .keep => b.last ++ b.empty
  .ok (String.ofList (b.text ++ tail), c)

end Strata.Yaml
