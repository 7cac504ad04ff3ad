import Strata.Document.Basic

/-!
Documents as properties. Each scalar becomes one property whose key is the path to it, the keys
and positions on the way joined by points; a list of scalars becomes one property too, its items
joined by commas. Null gives no property, and neither does a scalar that no key leads to.
-/

namespace Strata

/-- The path one key further on. The empty path leaves no trace in it. -/
def extendPath (path key : String) : String :=
  if path.isEmpty then key else path ++ "." ++ key

namespace Document

/-- One property, if the path names it. -/
def leaf (path value : String) : List (String × String) :=
  if path.isEmpty then [] else [(path, value)]

mutual

/-- The properties of a document that stands at a path, in the order of its parts. -/
def leaves (path : String) : Document → List (String × String)
  | .null => []
  | .boolean b => leaf path (if b then "true" else "false")
  | .number n => leaf path n.text
  | .text s => leaf path s
  | .list items =>
    if items.all isScalar then leaf path (",".intercalate (items.filterMap scalarText?))
    else itemLeaves path 0 items
  | .object fields => fieldLeaves path fields
termination_by structural d => d

/-- The properties of list items from a position on. -/
def itemLeaves (path : String) (i : Nat) : List Document → List (String × String)
  | [] => []
  | d :: rest => d.leaves (extendPath path (toString i)) ++ itemLeaves path (i + 1) rest
termination_by structural ds => ds

/-- The properties of object fields. -/
def fieldLeaves (path : String) : List (String × Document) → List (String × String)
  | [] => []
  | (key, d) :: rest => d.leaves (extendPath path key) ++ fieldLeaves path rest
termination_by structural fs => fs

end

/-- The properties of a document. Where two parts have one path the later one counts. -/
def flatten (d : Document) : Table String := .ofList (d.leaves "")

end Document

end Strata
