import Strata.Document.Yaml.Token

/-!
The nodes of a YAML document. Reading the tokens of a document never fails: where they do not
continue as the grammar says, the tree ends with a missing node that knows the line of the fault.
An alias refers to a node by the number of its anchor.
-/

namespace Strata.Yaml

/-- A node, with the line in which it starts. -/
inductive Node where
  | scalar (line : Nat) (tag : Option String) (style : Style) (text : String)
  | sequence (line : Nat) (tag : Option String) (items : List Node)
  | mapping (line : Nat) (tag : Option String) (entries : List (Node × Node))
  | alias (line : Nat) (number : Nat)
  | missing (line : Nat)
  deriving Repr, Inhabited

/-- An empty plain text. -/
def Node.empty : Node := .scalar 0 none .plain ""

/-- What is known while a document is read: the tokens ahead, what the handles of tags stand for,
the number of the last anchor of each name, the nodes of the anchors by number, and the number of
parts met, the start and the end of a collection counting as one each. -/
structure Draft where
  tokens : List Token
  handles : List (String × String) := []
  anchors : List (String × Nat) := []
  targets : List (Nat × Node) := []
  parts : Nat := 0
  stopped : Bool := false

namespace Draft

/-- The next token. -/
def next (d : Draft) : Token := d.tokens.headD ⟨.fault, 0⟩

/-- The kind of the next token. -/
def kind (d : Draft) : TokenKind := d.next.kind

/-- Passes over the next token. -/
def drop (d : Draft) : Draft := { d with tokens := d.tokens.drop 1 }

/-- Counts one more part. -/
def count (d : Draft) : Draft := { d with parts := d.parts + 1 }

/-- Stops at a line. -/
def stopAt (d : Draft) (line : Nat) : Node × Draft := (.missing line, { d with stopped := true })

/-- Stops at the next token. -/
def stop (d : Draft) : Node × Draft := d.stopAt d.next.line

/-- Gives the next number to an anchor. The number is that of the anchors with distinct names so
far, so it may be one that an anchor whose name was given again has already. -/
def number (d : Draft) : Option String → Option Nat × Draft
  | none => (none, d)
  | some name =>
    let n := d.anchors.length
    (some n, { d with anchors := (name, n) :: d.anchors.filter (·.1 != name) })

/-- Remembers the node of an anchor, unless an anchor within it, which came after the given count
of others, has taken its number. -/
def remember (d : Draft) (n : Option Nat) (taken : Nat) (node : Node) : Draft :=
  match n with
  | some n =>
    if (d.targets.take (d.targets.length - taken)).any fun t => t.1 = n then d
    else { d with targets := (n, node) :: d.targets }
  | none => d

end Draft

/-! ### Tags and anchors -/

/-- The properties before a node: its anchor, its tag, and the lines where the first of them and
the tag start. -/
structure Marks where
  anchor : Option String := none
  tag : Option (String × String) := none
  line : Nat := 0
  tagLine : Nat := 0

/-- Reads an anchor and a tag, in either order. -/
def readMarks (d : Draft) : Marks × Draft :=
  let line := d.next.line
  match d.kind with
  | .anchor name =>
    let d := d.drop
    match d.kind with
    | .tag handle suffix => (⟨some name, some (handle, suffix), line, d.next.line⟩, d.drop)
    | _ => (⟨some name, none, line, line⟩, d)
  | .tag handle suffix =>
    let d := d.drop
    match d.kind with
    | .anchor name => (⟨some name, some (handle, suffix), line, line⟩, d.drop)
    | _ => (⟨none, some (handle, suffix), line, line⟩, d)
  | _ => (⟨none, none, line, line⟩, d)

/-- The whole tag that a handle and a suffix stand for, if the handle is known. -/
def resolveTag (handles : List (String × String)) :
    Option (String × String) → Option (Option String)
  | none => some none
  | some (handle, suffix) =>
    if handle.isEmpty then some (some suffix)
    else (handles.lookup handle).map fun stem => some (stem ++ suffix)

/-! ### Nodes -/

mutual

/-- Reads a node. Blocks are allowed or not, and a block of items may stand at the indent of the
mapping around it or not. -/
def readNode (block indentless : Bool) : Nat → Draft → Node × Draft
  | 0, d => d.stop
  | fuel + 1, d =>
    match d.kind with
    | .alias name =>
      match d.anchors.lookup name with
      | some n => (.alias d.next.line n, d.drop.count)
      | none => d.stop
    | _ =>
      let (marks, d) := readMarks d
      if d.kind = .fault then d.stop
      else
        match resolveTag d.handles marks.tag with
        | none => d.stopAt marks.tagLine
        | some tag => readMarked block indentless fuel marks tag d

/-- Reads what follows the anchor and the tag of a node. -/
def readMarked (block indentless : Bool) : Nat → Marks → Option String → Draft → Node × Draft
  | 0, _, _, d => d.stop
  | fuel + 1, marks, tag, d =>
    let taken := d.targets.length
    let scalar (tag : Option String) (style : Style) (text : String) (d : Draft) : Node × Draft :=
      let node := Node.scalar marks.line tag style text
      let (n, d) := d.number marks.anchor
      (node, d.count.remember n taken node)
    let sequence (items : Draft → List Node × Draft) (d : Draft) : Node × Draft :=
      let (n, d) := d.number marks.anchor
      let (found, d) := items d.count
      let node := Node.sequence marks.line tag found
      (node, d.remember n taken node)
    let mapping (entries : Draft → List (Node × Node) × Draft) (d : Draft) : Node × Draft :=
      let (n, d) := d.number marks.anchor
      let (found, d) := entries d.count
      let node := Node.mapping marks.line tag found
      (node, d.remember n taken node)
    match d.kind with
    | .scalar style text => scalar (tag.filter (· ≠ "!")) style text d.drop
    | .flowSequence => sequence (readFlowItems true fuel) d.drop
    | .flowMapping => mapping (readFlowEntries true fuel) d.drop
    | kind =>
      if indentless && kind = .blockEntry then sequence (readBlockItems true fuel) d
      else if block && kind = .blockSequence then sequence (readBlockItems false fuel) d.drop
      else if block && kind = .blockMapping then mapping (readBlockEntries fuel) d.drop
      else if marks.anchor.isSome || tag.isSome then scalar tag .plain "" d
      else d.stop

/-- Reads the items of a block. Those at the indent of the mapping around them end with the first
token that is no dash, others with the end of the block. -/
def readBlockItems (indentless : Bool) : Nat → Draft → List Node × Draft
  | 0, d => ([d.stop.1], d.stop.2)
  | fuel + 1, d =>
    match d.kind with
    | .fault => ([d.stop.1], d.stop.2)
    | .blockEntry =>
      let d := d.drop
      let bare := d.kind = .blockEntry || d.kind = .blockEnd ||
        (indentless && (d.kind = .key || d.kind = .value))
      let (item, d) := if bare then (.empty, d.count) else readNode true false fuel d
      if d.stopped then ([item], d)
      else
        let (items, d) := readBlockItems indentless fuel d
        (item :: items, d)
    | kind =>
      if indentless then ([], d.count)
      else if kind = .blockEnd then ([], d.drop.count)
      else ([d.stop.1], d.stop.2)

/-- Reads the keys and values of a block. -/
def readBlockEntries : Nat → Draft → List (Node × Node) × Draft
  | 0, d => ([(d.stop.1, .empty)], d.stop.2)
  | fuel + 1, d =>
    match d.kind with
    | .blockEnd => ([], d.drop.count)
    | .key =>
      let (key, d) := readBlockPart fuel d.drop
      if d.stopped then ([(key, .empty)], d)
      else
        let (value, d) :=
          if d.kind = .fault then d.stop
          else if d.kind = .value then readBlockPart fuel d.drop
          else (.empty, d.count)
        if d.stopped then ([(key, value)], d)
        else
          let (entries, d) := readBlockEntries fuel d
          ((key, value) :: entries, d)
    | _ => ([(d.stop.1, .empty)], d.stop.2)

/-- Reads a key or a value of a block, which may be left out. -/
def readBlockPart : Nat → Draft → Node × Draft
  | 0, d => d.stop
  | fuel + 1, d =>
    if d.kind = .key || d.kind = .value || d.kind = .blockEnd then (.empty, d.count)
    else readNode true true fuel d

/-- Reads the items of a list in brackets. -/
def readFlowItems (first : Bool) : Nat → Draft → List Node × Draft
  | 0, d => ([d.stop.1], d.stop.2)
  | fuel + 1, d =>
    if d.kind = .flowSequenceEnd then ([], d.drop.count)
    else if !first && d.kind ≠ .flowEntry then ([d.stop.1], d.stop.2)
    else
      let d := if first then d else d.drop
      if d.kind = .flowSequenceEnd then ([], d.drop.count)
      else
        let (item, d) :=
          if d.kind = .key then readPair fuel d else readNode false false fuel d
        if d.stopped then ([item], d)
        else
          let (items, d) := readFlowItems false fuel d
          (item :: items, d)

/-- Reads a mapping of one key in a list in brackets. Where the key is left out, the token after
its mark is passed over. -/
def readPair : Nat → Draft → Node × Draft
  | 0, d => d.stop
  | fuel + 1, d =>
    let line := d.next.line
    let pair (entries : List (Node × Node)) : Node := .mapping line none entries
    let d := d.drop.count
    let bare := d.kind = .value || d.kind = .flowEntry || d.kind = .flowSequenceEnd
    let (key, d) := if bare then (.empty, d.drop.count) else readNode false false fuel d
    if d.stopped then (pair [(key, .empty)], d)
    else
      let (value, d) :=
        if d.kind = .value then
          let d := d.drop
          if d.kind = .flowEntry || d.kind = .flowSequenceEnd then (.empty, d.count)
          else readNode false false fuel d
        else if d.kind = .fault then d.stop
        else (.empty, d.count)
      if d.stopped then (pair [(key, value)], d)
      else if d.kind = .fault then (pair [(key, value), (d.stop.1, .empty)], d.stop.2)
      else (pair [(key, value)], d.count)

/-- Reads the keys and values of a mapping in braces. -/
def readFlowEntries (first : Bool) : Nat → Draft → List (Node × Node) × Draft
  | 0, d => ([(d.stop.1, .empty)], d.stop.2)
  | fuel + 1, d =>
    if d.kind = .flowMappingEnd then ([], d.drop.count)
    else if !first && d.kind ≠ .flowEntry then ([(d.stop.1, .empty)], d.stop.2)
    else
      let d := if first then d else d.drop
      if d.kind = .flowMappingEnd then ([], d.drop.count)
      else
        let marked := d.kind = .key
        let d := if marked then d.drop else d
        let bare := marked &&
          (d.kind = .value || d.kind = .flowEntry || d.kind = .flowMappingEnd)
        let (key, d) := if bare then (.empty, d.count) else readNode false false fuel d
        if d.stopped then ([(key, .empty)], d)
        else
          let (value, d) := readFlowValue marked fuel d
          if d.stopped then ([(key, value)], d)
          else
            let (entries, d) := readFlowEntries false fuel d
            ((key, value) :: entries, d)

/-- Reads a value of a mapping in braces, which may be left out. -/
def readFlowValue (marked : Bool) : Nat → Draft → Node × Draft
  | 0, d => d.stop
  | fuel + 1, d =>
    if d.kind = .fault then d.stop
    else if marked && d.kind = .value then
      let d := d.drop
      if d.kind = .flowEntry || d.kind = .flowMappingEnd then (.empty, d.count)
      else readNode false false fuel d
    else (.empty, d.count)

end

/-! ### Documents -/

/-- The first document of a text: its root, if it has one, the nodes of its anchors, the number of
its parts, whether a node of it is missing, the line of a fault that is found right after it, and
whether anything else follows. -/
structure Page where
  root : Option Node
  targets : List (Nat × Node) := []
  parts : Nat := 0
  isStopped : Bool := false
  fault : Option Nat := none
  hasMore : Bool := false

/-- The handles of tags that are known without a directive. -/
def commonHandles : List (String × String) := [("!", "!"), ("!!", "tag:yaml.org,2002:")]

/-- Reads the directives before a document. A version may be given once and has to be a known one,
and a handle may be given once. -/
def readDirectives : List Token → Bool → List (String × String) →
    Except Nat (List (String × String) × List Token)
  | [], _, handles => .ok (handles, [])
  | t :: rest, versioned, handles =>
    match t.kind with
    | .version major minor =>
      if versioned || major ≠ 1 || (minor ≠ 1 && minor ≠ 2) then .error t.line
      else readDirectives rest true handles
    | .tagHandle handle stem =>
      if (handles.lookup handle).isSome then .error t.line
      else readDirectives rest versioned (handles ++ [(handle, stem)])
    | _ => .ok (handles, t :: rest)

/-- What follows the root of a document: the end of the text, or more than that. -/
def finish (root : Node) (d : Draft) : Page :=
  let page : Page :=
    { root := some root, targets := d.targets, parts := d.parts, isStopped := d.stopped }
  if d.stopped then page
  else if d.kind = .fault then { page with fault := some d.next.line }
  else
    let rest := d.tokens.dropWhile fun t => t.kind = .documentEnd
    { page with hasMore := (rest.head?.map (·.kind)) ≠ some .streamEnd }

/-- Reads the first document. -/
def readPage (ts : List Token) : Page :=
  let fuel := 4 * ts.length + 4
  match ts with
  | [] => { root := none }
  | t :: _ =>
    match t.kind with
    | .streamEnd => { root := none }
    | .version .. | .tagHandle .. | .documentStart =>
      match readDirectives ts false [] with
      | .error line => { root := some (.missing line), isStopped := true }
      | .ok (handles, ts) =>
        let d : Draft := { tokens := ts, handles := handles ++ commonHandles }
        if d.kind ≠ .documentStart then
          { root := some (.missing d.next.line), isStopped := true }
        else
          let d := d.drop
          match d.kind with
          | .version .. | .tagHandle .. | .documentStart | .documentEnd | .streamEnd =>
            finish .empty d.count
          | _ =>
            let (root, d) := readNode true false fuel d
            finish root d
    | _ =>
      let (root, d) := readNode true false fuel { tokens := ts, handles := commonHandles }
      finish root d

end Strata.Yaml
