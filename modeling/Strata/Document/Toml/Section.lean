import Strata.Document.Basic

/-!
The tables of a TOML text while it is read. A table comes into being by its header, or because a
longer key passes through it. What is written down as a value is closed, and a table may be
described by one header and by keys of one kind only.
-/

namespace Strata.Toml

mutual

/-- What a key of a table stands for: a value, a table, or an array of tables, of which the last
is still open. -/
inductive Item where
  | value (d : Document)
  | table (t : Section)
  | tables (earlier : List Section) (last : Section)

/-- A table. It is implied as long as it has no header of its own, and dotted if the key that
passed through it belonged to a value and not to a header. -/
inductive Section where
  | mk (implied dotted : Bool) (entries : List (String × Item))

end

namespace Section

/-- The empty table of a header. -/
def declared : Section := .mk false false []

/-- The empty table of a key that passes through it. -/
def passed (dotted : Bool) : Section := .mk true dotted []

/-- Whether the table has no header yet. -/
def isImplied : Section → Bool
  | .mk implied _ _ => implied

/-- Whether the table came into being by the key of a value. -/
def isDotted : Section → Bool
  | .mk _ dotted _ => dotted

/-- The entries of the table. -/
def entries : Section → List (String × Item)
  | .mk _ _ entries => entries

/-- The table with a header. -/
def declare (t : Section) : Section := .mk false false t.entries

/-- What a key stands for. -/
def get? (t : Section) (key : String) : Option Item := t.entries.lookup key

/-- Sets what a key stands for. -/
def set (t : Section) (key : String) (item : Item) : Section :=
  match t with
  | .mk implied dotted entries => .mk implied dotted ((key, item) :: entries.filter (·.1 != key))

/-- Changes the table at the end of a path. Tables that are missing on the way come into being,
and an array of tables stands for its last one. The way does not lead into values, and the key of
a value does not lead into tables that have a header. -/
def within (dotted : Bool) (change : Section → Option Section) :
    List String → Section → Option Section
  | [], t => change t
  | key :: path, t =>
    match t.get? key with
    | none => (within dotted change path (passed dotted)).map fun u => t.set key (.table u)
    | some (.value _) => none
    | some (.table u) =>
      if dotted && !u.isImplied then none
      else (within dotted change path u).map fun u => t.set key (.table u)
    | some (.tables earlier last) =>
      (within dotted change path last).map fun u => t.set key (.tables earlier u)

/-- Gives a key a value. A table that came into being by dotted keys takes further values by
dotted keys only, and every other table takes them only by keys of one part. -/
def assign (path : List String) (key : String) (d : Document) : Section → Option Section :=
  within true (fun t =>
    if t.isDotted == path.isEmpty || (t.get? key).isSome then none
    else some (t.set key (.value d))) path

/-- Opens the table of a header. -/
def openTable (path : List String) (key : String) : Section → Option Section :=
  within false (fun t =>
    match t.get? key with
    | none => some (t.set key (.table declared))
    | some (.table u) =>
      if u.isImplied && !u.isDotted then some (t.set key (.table u.declare)) else none
    | some _ => none) path

/-- Opens a further table of the array that a header names. -/
def openTables (path : List String) (key : String) : Section → Option Section :=
  within false (fun t =>
    match t.get? key with
    | none => some (t.set key (.tables [] declared))
    | some (.tables earlier last) => some (t.set key (.tables (earlier ++ [last]) declared))
    | some _ => none) path

end Section

mutual

/-- The document of an item. -/
def Item.document : Item → Document
  | .value d => d
  | .table t => t.document
  | .tables earlier last => .list (documents earlier ++ [last.document])

/-- The document of a table. -/
def Section.document : Section → Document
  | .mk _ _ entries => .ofFields (fields entries)

/-- The documents of tables. -/
def documents : List Section → List Document
  | [] => []
  | t :: ts => t.document :: documents ts

/-- The fields of entries. -/
def fields : List (String × Item) → List (String × Document)
  | [] => []
  | (key, item) :: rest => (key, item.document) :: fields rest

end

end Strata.Toml
