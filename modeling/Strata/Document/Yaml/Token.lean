import Strata.Document.Yaml.Scalar

/-!
The tokens of a YAML text. Indents become tokens of their own, and so do keys: whether a text, a
name or a bracket starts a key is known only when a colon follows it in the same line, so such a
token is a candidate and is held back until that is settled. The tokens end with the end of the
text or with the line of a fault.
-/

namespace Strata.Yaml

open Number

/-- The kinds of tokens. -/
inductive TokenKind where
  | version (major minor : Nat)
  | tagHandle (handle stem : String)
  | documentStart
  | documentEnd
  | blockSequence
  | blockMapping
  | blockEnd
  | flowSequence
  | flowSequenceEnd
  | flowMapping
  | flowMappingEnd
  | blockEntry
  | flowEntry
  | key
  | value
  | alias (name : String)
  | anchor (name : String)
  | tag (handle suffix : String)
  | scalar (style : Style) (text : String)
  | streamEnd
  | fault
  deriving DecidableEq, Repr

/-- A token and the line in which it starts, or for a fault the line in which it was found. -/
structure Token where
  kind : TokenKind
  line : Nat
  deriving Repr

/-! ### Names, tags and directives -/

/-- Reads the name of an anchor or an alias, after its mark. -/
def readName (c : Cursor) : Except Nat (String × Cursor) :=
  let name := c.rest.takeWhile isName
  let c := c.skipWhile isName
  let ends := startsGap c.rest || c.rest.head?.any (· ∈ ['?', ':', ',', ']', '}', '%', '@', '`'])
  if name.isEmpty || !ends then .error c.line else .ok (String.ofList name, c)

/-- The octet that a percent sign and two hexadecimal digits stand for. -/
def octet? : List Char → Option Nat
  | '%' :: a :: b :: _ => do some (16 * (← hexValue? a) + (← hexValue? b))
  | _ => none

/-- The number of further octets of a character and the bits that its first octet gives. -/
def leadingOctet? (n : Nat) : Option (Nat × Nat) :=
  if n < 0x80 then some (0, n)
  else if n / 0x20 = 6 then some (1, n % 0x20)
  else if n / 0x10 = 14 then some (2, n % 0x10)
  else if n / 0x08 = 30 then some (3, n % 0x08)
  else none

/-- Reads the further octets of a character. -/
def readOctets : Nat → Nat → Cursor → Except Nat (Char × Cursor)
  | 0, n, c => .ok (Char.ofNat n, c)
  | count + 1, n, c =>
    match octet? c.rest with
    | none => .error c.line
    | some o =>
      if o / 0x40 = 2 then readOctets count (0x40 * n + o % 0x40) (c.skip 3) else .error c.line

/-- Reads a character that is given by its octets. -/
def readEscapedOctets (c : Cursor) : Except Nat (Char × Cursor) :=
  match (octet? c.rest).bind leadingOctet? with
  | none => .error c.line
  | some (count, n) => readOctets count n (c.skip 3)

/-- Whether a character may stand in a tag. -/
def isTagChar (verbatim : Bool) (c : Char) : Bool :=
  isName c || ";/?:@&=+$.%!~*'()".toList.contains c || (verbatim && ",[]".toList.contains c)

/-- Reads the characters of a tag. -/
def readTagChars (verbatim : Bool) : Nat → Cursor → Except Nat (List Char × Cursor)
  | 0, c => .ok ([], c)
  | fuel + 1, c => do
    match c.rest with
    | [] => .ok ([], c)
    | d :: _ =>
      if !isTagChar verbatim d then .ok ([], c)
      else
        let (e, c) ← if d = '%' then readEscapedOctets c else .ok (d, c.skip 1)
        let (more, c) ← readTagChars verbatim fuel c
        .ok (e :: more, c)

/-- Reads the rest of a tag that may not be empty. -/
def readTagRest (verbatim : Bool) (c : Cursor) : Except Nat (String × Cursor) := do
  let (cs, c) ← readTagChars verbatim (c.rest.length + 1) c
  if cs.isEmpty then .error c.line else .ok (String.ofList cs, c)

/-- Splits a tag into a handle and a suffix at its second exclamation mark. -/
def readShortTag (c : Cursor) : Except Nat ((String × String) × Cursor) := do
  let name := (c.rest.drop 1).takeWhile isName
  let c := c.skip (name.length + 1)
  match c.rest with
  | '!' :: _ =>
    let (suffix, c) ← readTagRest false (c.skip 1)
    .ok (("!" ++ String.ofList name ++ "!", suffix), c)
  | _ =>
    let (more, c) ← readTagChars false (c.rest.length + 1) c
    let suffix := String.ofList (name ++ more)
    .ok (if suffix.isEmpty then ("", "!") else ("!", suffix), c)

/-- Reads a tag, from its exclamation mark on: a handle and a suffix, the handle of a tag that is
given in full being empty. -/
def readTag (inFlow : Bool) (c : Cursor) : Except Nat ((String × String) × Cursor) := do
  let (tag, c) ←
    if c.rest.take 2 = ['!', '<'] then do
      let (suffix, c) ← readTagRest true (c.skip 2)
      if c.rest.head? = some '>' then .ok (("", suffix), c.skip 1) else .error c.line
    else readShortTag c
  if startsGap c.rest || (inFlow && c.rest.head? = some ',') then .ok (tag, c) else .error c.line

/-- Reads a number of a version. -/
def readVersionNumber (c : Cursor) : Except Nat (Nat × Cursor) :=
  let digits := c.rest.takeWhile isDigit
  if digits.isEmpty || 9 < digits.length then .error c.line
  else .ok (digitsValue digits, c.skipWhile isDigit)

/-- Reads what follows the name of a version directive. -/
def readVersion (c : Cursor) : Except Nat (TokenKind × Cursor) := do
  let (major, c) ← readVersionNumber (c.skipWhile isBlank)
  if c.rest.head? ≠ some '.' then .error c.line
  else
    let (minor, c) ← readVersionNumber (c.skip 1)
    .ok (.version major minor, c)

/-- Reads what follows the name of a tag directive: a handle and what it stands for. -/
def readTagHandle (c : Cursor) : Except Nat (TokenKind × Cursor) := do
  let c := c.skipWhile isBlank
  if c.rest.head? ≠ some '!' then .error c.line
  else
    let name := (c.rest.drop 1).takeWhile isName
    let c := c.skip (name.length + 1)
    let (handle, c) ←
      if c.rest.head? = some '!' then .ok ("!" ++ String.ofList name ++ "!", c.skip 1)
      else if name.isEmpty then .ok ("!", c)
      else .error c.line
    if !c.rest.head?.any isBlank then .error c.line
    else
      let (stem, c) ← readTagRest true (c.skipWhile isBlank)
      if startsGap c.rest then .ok (.tagHandle handle stem, c) else .error c.line

/-- Reads a directive, from its percent sign on, and its line. -/
def readDirective (c : Cursor) : Except Nat (TokenKind × Cursor) := do
  let c := c.skip 1
  let name := String.ofList (c.rest.takeWhile isName)
  let c := c.skipWhile isName
  if name.isEmpty || !startsGap c.rest then .error c.line
  else
    let (kind, c) ←
      if name = "YAML" then readVersion c
      else if name = "TAG" then readTagHandle c
      else .error c.line
    let c ← readLineRest c
    .ok (kind, c)

/-! ### Scanning -/

/-- A token that may turn out to start a key: its number among the tokens, and its place. It has
to start one if it stands where the keys of a block stand. -/
structure Candidate where
  required : Bool
  number : Nat
  place : Cursor

/-- What is known while a text is scanned. There is a place for a candidate for each bracket that
is open, and one below them. Tokens leave the queue in their order. -/
structure Scanner where
  cursor : Cursor
  indent : Int := -1
  outer : List Int := []
  keyAllowed : Bool := true
  candidates : List (Option Candidate) := [none]
  released : Nat := 0
  queue : List Token := []
  ended : Bool := false

namespace Scanner

/-- Whether a bracket is open. -/
def inFlow (s : Scanner) : Bool := 1 < s.candidates.length

/-- A fault at the current place. -/
def fail {α : Type} (s : Scanner) : Except Nat α := .error s.cursor.line

/-- Adds a token. -/
def push (s : Scanner) (kind : TokenKind) (line : Nat) : Scanner :=
  { s with queue := s.queue ++ [⟨kind, line⟩] }

/-- Adds a token of the given number of characters at the current place. -/
def pushHere (s : Scanner) (kind : TokenKind) (length : Nat) : Scanner :=
  { s.push kind s.cursor.line with cursor := s.cursor.skip length }

/-- Inserts a token before the one of the given number. -/
def insert (s : Scanner) (number : Nat) (kind : TokenKind) (line : Nat) : Scanner :=
  let i := number - s.released
  { s with queue := s.queue.take i ++ ⟨kind, line⟩ :: s.queue.drop i }

/-- Says whether a key may start at the next token. -/
def allowKey (s : Scanner) (allowed : Bool) : Scanner := { s with keyAllowed := allowed }

/-- Gives up the innermost candidate, which may not be required. -/
def dropCandidate (s : Scanner) : Except Nat Scanner :=
  match s.candidates with
  | some k :: rest => if k.required then s.fail else .ok { s with candidates := none :: rest }
  | _ => .ok s

/-- Makes the next token a candidate, if a key may start here. -/
def saveCandidate (s : Scanner) : Except Nat Scanner :=
  if !s.keyAllowed then .ok s
  else
    let k : Candidate :=
      { required := !s.inFlow && s.indent = s.cursor.column
        number := s.released + s.queue.length
        place := s.cursor }
    s.dropCandidate.map fun s => { s with candidates := some k :: s.candidates.drop 1 }

/-- Whether a candidate cannot start a key any more, because it is in an earlier line or more than
1024 characters away. -/
def isStale (s : Scanner) (k : Candidate) : Bool :=
  k.place.line < s.cursor.line || k.place.index + 1024 < s.cursor.index

/-- Gives up the candidates that cannot start a key any more. -/
def dropStale (s : Scanner) : Except Nat Scanner :=
  if s.candidates.any fun k => k.any fun k => s.isStale k && k.required then s.fail
  else .ok { s with candidates := s.candidates.map (·.filter fun k => !s.isStale k) }

/-- Begins a block at a column beyond the current indent. -/
def roll (s : Scanner) (column : Nat) (begin : Scanner → Scanner) : Scanner :=
  if !s.inFlow && s.indent < column then
    begin { s with indent := column, outer := s.indent :: s.outer }
  else s

/-- Ends the blocks beyond a column. -/
def unrollFor (column : Int) : List Int → Scanner → Scanner
  | [], s => s
  | i :: outer, s =>
    if column < s.indent then
      unrollFor column outer { s.push .blockEnd s.cursor.line with indent := i, outer := outer }
    else s

/-- Ends the blocks beyond a column, unless a bracket is open. -/
def unroll (s : Scanner) (column : Int) : Scanner :=
  if s.inFlow then s else unrollFor column s.outer s

/-- The place of the next token, and whether the end of a line is before it. A tab counts as a
blank where no key may start. -/
def skipFor (tabs flow : Bool) : Nat → Bool → Cursor → Bool × Cursor
  | 0, broken, c => (broken, c)
  | fuel + 1, broken, c =>
    let c := if c.column = 0 && c.rest.head?.any (·.toNat = 0xfeff) then c.skip 1 else c
    let c := c.skipWhile fun d => d = ' ' || (d = '\t' && (tabs && !broken || flow))
    match c.skipComment.readBreak? with
    | some (_, c) => skipFor tabs flow fuel true c
    | none => (broken, c.skipComment)

/-- Goes to the next token. After the end of a line a key may start. -/
def skip (s : Scanner) : Scanner :=
  let (broken, c) := skipFor (!s.keyAllowed) s.inFlow (s.cursor.rest.length + 1) false s.cursor
  { s with cursor := c, keyAllowed := s.keyAllowed || (broken && !s.inFlow) }

/-- Ends all blocks, before a directive or a boundary of documents. -/
def closeAll (s : Scanner) : Except Nat Scanner :=
  (s.unroll (-1)).dropCandidate.map (·.allowKey false)

/-- Adds the end of the text, which starts a line. -/
def fetchEnd (s : Scanner) : Except Nat Scanner := do
  let c := s.cursor
  let s := if c.column = 0 then s
    else { s with cursor := { c with line := c.line + 1, column := 0 } }
  let s ← s.closeAll
  .ok { s.push .streamEnd s.cursor.line with ended := true }

/-- Adds an opening bracket. -/
def fetchOpen (s : Scanner) (kind : TokenKind) : Except Nat Scanner := do
  let s ← s.saveCandidate
  .ok ({ s with candidates := none :: s.candidates }.allowKey true |>.pushHere kind 1)

/-- Adds a closing bracket. -/
def fetchClose (s : Scanner) (kind : TokenKind) : Except Nat Scanner := do
  let s ← s.dropCandidate
  let candidates := if s.inFlow then s.candidates.drop 1 else s.candidates
  .ok ({ s with candidates := candidates }.allowKey false |>.pushHere kind 1)

/-- Adds a comma. -/
def fetchComma (s : Scanner) : Except Nat Scanner :=
  s.dropCandidate.map fun s => (s.allowKey true).pushHere .flowEntry 1

/-- Begins a block of the given kind at the current place, where a key has to be allowed. -/
def rollHere (s : Scanner) (kind : TokenKind) : Except Nat Scanner :=
  if s.inFlow then .ok s
  else if !s.keyAllowed then s.fail
  else .ok (s.roll s.cursor.column fun s => s.push kind s.cursor.line)

/-- Adds the dash of an item. -/
def fetchEntry (s : Scanner) : Except Nat Scanner := do
  let s ← (← s.rollHere .blockSequence).dropCandidate
  .ok ((s.allowKey true).pushHere .blockEntry 1)

/-- Adds the mark of a key. -/
def fetchKey (s : Scanner) : Except Nat Scanner := do
  let s ← (← s.rollHere .blockMapping).dropCandidate
  .ok ((s.allowKey !s.inFlow).pushHere .key 1)

/-- Adds the colon before a value. If there is a candidate, it starts the key. -/
def fetchValue (s : Scanner) : Except Nat Scanner := do
  match s.candidates with
  | some k :: rest =>
    let s := { s with candidates := none :: rest }.insert k.number .key k.place.line
    let s := s.roll k.place.column fun s => s.insert k.number .blockMapping k.place.line
    .ok ((s.allowKey false).pushHere .value 1)
  | _ =>
    let s ← s.rollHere .blockMapping
    .ok ((s.allowKey !s.inFlow).pushHere .value 1)

/-- Adds a token that was read from the current place on. -/
def pushRead (s : Scanner) (kind : TokenKind) (c : Cursor) : Scanner :=
  { s.push kind s.cursor.line with cursor := c }

/-- Adds an anchor or an alias. -/
def fetchName (s : Scanner) (kind : String → TokenKind) : Except Nat Scanner := do
  let s ← s.saveCandidate
  let (name, c) ← readName (s.cursor.skip 1)
  .ok ((s.allowKey false).pushRead (kind name) c)

/-- Adds a tag. -/
def fetchTag (s : Scanner) : Except Nat Scanner := do
  let s ← s.saveCandidate
  let ((handle, suffix), c) ← readTag s.inFlow s.cursor
  .ok ((s.allowKey false).pushRead (.tag handle suffix) c)

/-- Adds a block of lines. -/
def fetchBlock (s : Scanner) (style : Style) : Except Nat Scanner := do
  let s ← s.dropCandidate
  let (text, c) ← readBlock (style = .folded) s.indent s.cursor
  .ok ((s.allowKey true).pushRead (.scalar style text) c)

/-- Adds a quoted text. -/
def fetchQuoted (s : Scanner) (quote : Char) : Except Nat Scanner := do
  let s ← s.saveCandidate
  let (text, c) ← readQuoted quote s.cursor
  .ok ((s.allowKey false).pushRead (.scalar .quoted text) c)

/-- Adds a plain text. If it ends after the end of a line, a key may start there. -/
def fetchPlain (s : Scanner) : Except Nat Scanner := do
  let s ← s.saveCandidate
  let ((text, broken), c) ← readPlain s.inFlow (s.indent + 1).toNat s.cursor
  .ok ((s.allowKey broken).pushRead (.scalar .plain text) c)

/-- Adds a boundary of documents. -/
def fetchBoundary (s : Scanner) (kind : TokenKind) : Except Nat Scanner :=
  s.closeAll.map fun s => s.pushHere kind 3

/-- Adds a directive. -/
def fetchDirective (s : Scanner) : Except Nat Scanner := do
  let s ← s.closeAll
  let (kind, c) ← readDirective s.cursor
  .ok (s.pushRead kind c)

/-- Characters that do not start a plain text. -/
def indicators : List Char :=
  ['-', '?', ':', ',', '[', ']', '{', '}', '#', '&', '*', '!', '|', '>', '\'', '"', '%', '@', '`']

/-- Whether a plain text starts with the given character. -/
def startsPlain (inFlow : Bool) (d : Char) (rest : List Char) : Bool :=
  (!startsGap [d] && !indicators.contains d) ||
    (d = '-' && !rest.head?.any isBlank) ||
    (!inFlow && (d = '?' || d = ':') && !startsGap rest)

/-- Adds the next token, which is at the current place. -/
def fetchHere (s : Scanner) : Except Nat Scanner :=
  match s.cursor.rest with
  | [] => s.fetchEnd
  | d :: rest =>
    if s.cursor.column = 0 && d = '%' then s.fetchDirective
    else if s.cursor.atBoundary '-' then s.fetchBoundary .documentStart
    else if s.cursor.atBoundary '.' then s.fetchBoundary .documentEnd
    else if d = '[' then s.fetchOpen .flowSequence
    else if d = '{' then s.fetchOpen .flowMapping
    else if d = ']' then s.fetchClose .flowSequenceEnd
    else if d = '}' then s.fetchClose .flowMappingEnd
    else if d = ',' then s.fetchComma
    else if d = '-' && startsGap rest then s.fetchEntry
    else if d = '?' && (s.inFlow || startsGap rest) then s.fetchKey
    else if d = ':' && (s.inFlow || startsGap rest) then s.fetchValue
    else if d = '*' then s.fetchName .alias
    else if d = '&' then s.fetchName .anchor
    else if d = '!' then s.fetchTag
    else if d = '|' && !s.inFlow then s.fetchBlock .literal
    else if d = '>' && !s.inFlow then s.fetchBlock .folded
    else if d = '\'' || d = '"' then s.fetchQuoted d
    else if startsPlain s.inFlow d rest then s.fetchPlain
    else s.fail

/-- Goes to the next token and adds it. -/
def fetch (s : Scanner) : Except Nat Scanner := do
  let s ← s.skip.dropStale
  (← (s.unroll s.cursor.column).fetchHere).dropStale

/-- The number of tokens that no candidate holds back. -/
def ready (s : Scanner) : Nat :=
  (s.candidates.filterMap fun k => k.map fun k => k.number - s.released).foldl min s.queue.length

/-- The tokens from here on. -/
def tokensFor : Nat → Scanner → List Token
  | 0, s => [⟨.fault, s.cursor.line⟩]
  | fuel + 1, s =>
    match s.fetch with
    | .error line => [⟨.fault, line⟩]
    | .ok s =>
      if s.ended then s.queue
      else
        s.queue.take s.ready ++
          tokensFor fuel
            { s with queue := s.queue.drop s.ready, released := s.released + s.ready }

end Scanner

/-- A text without the mark of its byte order, if it begins with one. -/
def withoutMark : List Char → List Char
  | c :: rest => if c.toNat = 0xfeff then rest else c :: rest
  | [] => []

/-- The tokens of a text. A character that may not stand in a text is a fault before all else. -/
def tokens (text : List Char) : List Token :=
  let text := withoutMark text
  if text.all isAllowed then Scanner.tokensFor (text.length + 2) { cursor := ⟨text, 0, 1, 0⟩ }
  else [⟨.fault, 1⟩]

end Strata.Yaml
