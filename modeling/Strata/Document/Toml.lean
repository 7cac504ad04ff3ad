import Strata.Config.Record
import Strata.Document.Toml.Scalar
import Strata.Document.Toml.Section

/-!
Reading TOML text into a document. A number that is infinite or undefined is null, a date or a
time of day is an object with one field. A key that is given twice is a fault at the start of its
line, within an inline table at the start of the table.
-/

namespace Strata.Toml

open Text

/-- Splits the last part off a key. -/
def splitLast (parts : List String) : List String × String :=
  (parts.dropLast, parts.getLast?.getD "")

mutual

/-- A value inside the given number of lists and inline tables. -/
def readValue : Nat → Nat → List Char → Except Stop (Document × List Char)
  | 0, _, s => Stop.before s
  | fuel + 1, depth, s =>
    match s with
    | [] => .error ⟨[]⟩
    | '"' :: rest => (readText '"' rest).map fun r => (.text r.1, r.2)
    | '\'' :: rest => (readText '\'' rest).map fun r => (.text r.1, r.2)
    | 't' :: 'r' :: 'u' :: 'e' :: rest => .ok (.boolean true, rest)
    | 'f' :: 'a' :: 'l' :: 's' :: 'e' :: rest => .ok (.boolean false, rest)
    | '[' :: rest =>
      if depthLimit ≤ depth + 1 then Stop.before s
      else
        match skipLines rest with
        | ']' :: rest => .ok (.list [], rest)
        | rest => (readItems fuel (depth + 1) rest).map fun r => (.list r.1, r.2)
    | '{' :: rest =>
      if depthLimit ≤ depth + 1 then Stop.before s
      else
        match skipBlanks rest with
        | '}' :: rest => .ok (.object [], rest)
        | _ =>
          match readFields fuel (depth + 1) rest Section.declared with
          | .error e => .error e
          | .ok (none, _) => Stop.before rest
          | .ok (some t, '}' :: rest) => .ok (t.document, rest)
          | .ok (some _, rest) => Stop.before rest
    | s =>
      match readNumber s with
      | some r => .ok r
      | none => Stop.before s

/-- The items of a list from one of them on, with the closing bracket. -/
def readItems : Nat → Nat → List Char → Except Stop (List Document × List Char)
  | 0, _, s => Stop.before s
  | fuel + 1, depth, s => do
    let (item, rest) ← readValue fuel depth s
    match skipLines rest with
    | ']' :: rest => .ok ([item], rest)
    | ',' :: rest =>
      match skipLines rest with
      | ']' :: rest => .ok ([item], rest)
      | rest =>
        let (items, rest) ← readItems fuel depth rest
        .ok (item :: items, rest)
    | rest => Stop.before rest

/-- The fields of an inline table from a key on, up to what does not continue them. The table is
missing if its keys do not agree. -/
def readFields : Nat → Nat → List Char → Section →
    Except Stop (Option Section × List Char)
  | 0, _, s, _ => Stop.before s
  | fuel + 1, depth, s, t => do
    let (parts, rest) ← readKey s
    match rest with
    | '=' :: rest =>
      let (d, rest) ← readValue fuel depth (skipBlanks rest)
      let assigned := t.assign (splitLast parts).1 (splitLast parts).2 d
      match skipBlanks rest with
      | ',' :: rest =>
        if startsKey (skipBlanks rest) then
          (readFields fuel depth rest (assigned.getD t)).map fun r =>
            (assigned.bind fun _ => r.1, r.2)
        else .ok (assigned, ',' :: rest)
      | rest => .ok (assigned, rest)
    | rest => Stop.before rest

end

/-- A text being read: the tables so far, and the header whose table takes the values. -/
structure Draft where
  root : Section := .declared
  header : List String := []

/-- What becomes of a draft, or a fault at the given place. -/
def orStop (place : List Char) : Option Section → Except Stop Section
  | some t => .ok t
  | none => Stop.before place

/-- Reads a header and the rest of its line. -/
def readHeader (draft : Draft) (s : List Char) : Except Stop (Draft × List Char) := do
  match s with
  | '[' :: '[' :: rest =>
    let (parts, rest) ← readKey rest
    match rest with
    | ']' :: ']' :: rest =>
      let rest ← readLineRest rest
      let root ← orStop s (draft.root.openTables (splitLast parts).1 (splitLast parts).2)
      .ok (⟨root, parts⟩, rest)
    | rest => Stop.before rest
  | s =>
    let (parts, rest) ← readKey (s.drop 1)
    match rest with
    | ']' :: rest =>
      let rest ← readLineRest rest
      let root ← orStop s (draft.root.openTable (splitLast parts).1 (splitLast parts).2)
      .ok (⟨root, parts⟩, rest)
    | rest => Stop.before rest

/-- Reads a key, its value and the rest of the line. -/
def readAssignment (draft : Draft) (s : List Char) : Except Stop (Draft × List Char) := do
  let (parts, rest) ← readKey s
  match rest with
  | '=' :: rest =>
    let (d, rest) ← readValue (2 * s.length + 2) 0 (skipBlanks rest)
    let rest ← readLineRest rest
    let (path, key) := splitLast parts
    let root ← orStop s (draft.root.within false (Section.assign path key d) draft.header)
    .ok ({ draft with root := root }, rest)
  | rest => Stop.before rest

/-- Reads the lines of a text. -/
def readLines : Nat → Draft → List Char → Except Stop Section
  | 0, _, s => Stop.before s
  | fuel + 1, draft, s =>
    match skipBlanks s with
    | [] => .ok draft.root
    | '#' :: rest =>
      match readLineRest ('#' :: rest) with
      | .error e => .error e
      | .ok rest => readLines fuel draft rest
    | c :: rest =>
      match endLine? (c :: rest) with
      | some rest => readLines fuel draft rest
      | none =>
        match (if c = '[' then readHeader draft (c :: rest)
          else readAssignment draft (c :: rest)) with
        | .error e => .error e
        | .ok (draft, rest) => readLines fuel draft rest

/-- A text without the mark of its byte order, if it begins with one. -/
def withoutMark : List Char → List Char
  | c :: rest => if c.toNat = 0xfeff then rest else c :: rest
  | [] => []

/-- The document that a text holds, or the line where reading it stopped. -/
def parse (text : String) : Except Nat Document :=
  let s := withoutMark text.toList
  match readLines (s.length + 1) {} s with
  | .ok t => .ok t.document
  | .error stop => .error (stop.line s)

/-- TOML as a notation. -/
def dialect : Config.Dialect Document :=
  { Config.documents with surplus := fun _ => .ok () }

end Strata.Toml
