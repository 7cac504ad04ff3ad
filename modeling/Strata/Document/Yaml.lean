import Strata.Config.Record
import Strata.Document.Yaml.Schema

/-!
Reading YAML text into a document. The text holds one document; its keys are scalars and stand for
their texts. An alias stands for the node of its anchor. Nodes nest at most 128 deep, and a
document whose aliases are followed more often than a hundred times per part is refused.
-/

namespace Strata.Yaml

open Number Config

/-- Where a node is read: the nodes of the anchors, how often aliases may be followed, and how
deep nodes may still nest. -/
structure Scope where
  targets : List (Nat × Node)
  jumps : Nat
  depth : Nat

/-- The greatest depth of nesting. -/
def greatestDepth : Nat := 128

/-- The scope of the root of a document. -/
def Page.scope (p : Page) : Scope := ⟨p.targets, 100 * p.parts, greatestDepth⟩

/-- The line that is given for a fault without a place. -/
def noLine : Nat := 0

/-- The line in which a node starts. -/
def Node.line : Node → Nat
  | .scalar line .. | .sequence line .. | .mapping line .. | .alias line _ | .missing line => line

/-- The node that a node stands for, which is no alias, and how often aliases may still be
followed. -/
def follow (targets : List (Nat × Node)) (jumps : Nat) (n : Node) : Except Nat (Node × Nat) :=
  match n with
  | .alias line number =>
    if jumps = 0 then .error noLine
    else .ok ((targets.lookup number).getD (.missing line), jumps - 1)
  | n => .ok (n, jumps)

/-- Whether the tag of a collection names a type of the reader's own. -/
def isForeign (tag : Option String) : Bool := tag.any fun t => t.toList.head? = some '!'

/-- The text of a key. -/
def keyText (targets : List (Nat × Node)) (jumps : Nat) (n : Node) :
    Except Nat (String × Nat) := do
  let (n, jumps) ← follow targets jumps n
  match n with
  | .scalar _ _ _ text => .ok (text, jumps)
  | n => .error n.line

/-- The results of a reader for the items of a list, one after the other. -/
def eachFor {α β : Type} (f : Nat → α → Except Nat (β × Nat)) :
    Nat → List α → Except Nat (List β × Nat)
  | jumps, [] => .ok ([], jumps)
  | jumps, a :: rest => do
    let (b, jumps) ← f jumps a
    let (bs, jumps) ← eachFor f jumps rest
    .ok (b :: bs, jumps)

/-- The document that a node stands for, at most the given number of levels deep, or the line of
the first fault in the order of the text. -/
def nodeDocument (targets : List (Nat × Node)) : Nat → Nat → Node → Except Nat (Document × Nat)
  | depth, jumps, n => do
    let (n, jumps) ← follow targets jumps n
    match n, depth with
    | .scalar line tag style text, _ =>
      match scalarDocument? tag style text with
      | some d => .ok (d, jumps)
      | none => .error line
    | .sequence line tag items, depth + 1 =>
      if isForeign tag then .error line
      else
        let (ds, jumps) ← eachFor (nodeDocument targets depth) jumps items
        .ok (.list ds, jumps)
    | .mapping line tag entries, depth + 1 =>
      if isForeign tag then .error line
      else
        let field (jumps : Nat) (e : Node × Node) : Except Nat ((String × Document) × Nat) := do
          let (key, jumps) ← keyText targets jumps e.1
          let (d, jumps) ← nodeDocument targets depth jumps e.2
          .ok ((key, d), jumps)
        let (fields, jumps) ← eachFor field jumps entries
        .ok (.ofFields fields, jumps)
    | n, _ => .error n.line

/-- The document that a text holds, or the line of the first fault in it. What follows the
document is a fault without a line. -/
def parse (text : String) : Except Nat Document := do
  let page := readPage (tokens text.toList)
  let d ←
    match page.root with
    | none => .ok .null
    | some root => (nodeDocument page.targets greatestDepth page.scope.jumps root).map (·.1)
  match page.fault with
  | some line => .error line
  | none => if page.hasMore then .error noLine else .ok d

/-! ### Records -/

/-- A node and the scope in which it is read; no node at all stands for an empty document. -/
structure Part where
  node : Option Node
  scope : Scope

/-- What YAML is when it does not fit; no more is said about it. -/
def unfit : Misfit := .invalidType .null "another value"

/-- The node of a part, which is no alias. -/
def Part.resolved (p : Part) : Except Misfit (Option Node) :=
  match p.node with
  | none => .ok none
  | some n =>
    match follow p.scope.targets p.scope.jumps n with
    | .ok (n, _) => .ok (some n)
    | .error _ => .error unfit

/-- A node within a part. -/
def Part.inside (p : Part) (n : Node) : Part :=
  ⟨some n, { p.scope with depth := p.scope.depth - 1 }⟩

/-- Whether a scalar can stand for an empty collection. -/
def isVoid (tag : Option String) (style : Style) (text : String) : Bool :=
  text.isEmpty && (match tag with
    | some tag => tag = coreTag "null"
    | none => style = .plain)

/-- The text that a part stands for. -/
def Part.text (p : Part) : Except Misfit String := do
  match ← p.resolved with
  | some (.scalar _ _ _ text) => .ok text
  | _ => .error unfit

/-- The integer that a part stands for. -/
def Part.integer (t : IntegerType) (p : Part) : Except Misfit Int := do
  match ← p.resolved with
  | some (.scalar _ tag style text) =>
    if style = .plain || (style = .literal && tag = some (coreTag "int")) then
      match integer? text.toList with
      | some n => if t.holds n then .ok n else .error unfit
      | none => .error unfit
    else .error unfit
  | _ => .error unfit

/-- The items that a part stands for. -/
def Part.items (p : Part) : Except Misfit (List Part) := do
  match ← p.resolved with
  | none => .ok []
  | some (.scalar _ tag style text) => if isVoid tag style text then .ok [] else .error unfit
  | some (.sequence _ _ items) =>
    if p.scope.depth = 0 then .error unfit else .ok (items.map p.inside)
  | _ => .error unfit

/-- The fields of the record that a part stands for. -/
def Part.fields (p : Part) : Except Misfit (Parts Part) := do
  match ← p.resolved with
  | none => .ok (.named [])
  | some (.scalar _ tag style text) =>
    if isVoid tag style text then .ok (.named []) else .error unfit
  | some (.mapping _ _ entries) =>
    if p.scope.depth = 0 then .error unfit
    else
      let fields ← entries.mapM fun e =>
        match keyText p.scope.targets p.scope.jumps e.1 with
        | .ok (key, _) => .ok (key, p.inside e.2)
        | .error _ => .error unfit
      .ok (.named fields)
  | _ => .error unfit

/-- The document that a part stands for. -/
def Part.document (p : Part) : Except Misfit Document :=
  match p.node with
  | none => .ok .null
  | some n =>
    match nodeDocument p.scope.targets p.scope.depth p.scope.jumps n with
    | .ok (d, _) => .ok d
    | .error _ => .error unfit

/-- YAML as a notation. -/
def dialect : Dialect Part :=
  { text := Part.text
    integer := Part.integer
    items := Part.items
    parts := fun _ => Part.fields
    document := Part.document
    skip := fun _ => .ok ()
    surplus := fun _ => .ok ()
    distinct := true }

/-- Reads a record from a text, which has to be one whole document. -/
def readRecord {ρ : Type} (read : Part → Except Misfit ρ) (text : String) : Except Misfit ρ := do
  let page := readPage (tokens text.toList)
  let r ← read ⟨page.root, page.scope⟩
  if page.fault.isSome || page.hasMore || page.isStopped then .error unfit else .ok r

end Strata.Yaml
