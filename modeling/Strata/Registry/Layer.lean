import Strata.Table

/-!
Layers of a registry, and what a key resolves to through the recorded snapshots of layers. The
first layer that has a value for a key provides it. Layers stand in the order of their priorities,
those of one priority in the order of their registration.
-/

namespace Strata

/-- All the properties that a source defines at one moment. -/
abbrev Snapshot := Table String

/-- A value and the name of the source that provides it. -/
structure Resolved where
  value : String
  source : String
  deriving DecidableEq, Repr

/-- A registered source: the number by which it is known, its name, whether it takes part in
refreshes, its priority, its number among the registrations, and the last snapshot that was
recorded of it. -/
structure Layer where
  source : Nat
  name : String
  isMutable : Bool
  priority : Int
  seq : Nat
  recorded : Snapshot

/-- What is told of a layer. -/
structure SourceInfo where
  name : String
  priority : Int
  isMutable : Bool
  deriving DecidableEq, Repr

namespace Layer

/-- What is told of the layer. -/
def info (l : Layer) : SourceInfo := ⟨l.name, l.priority, l.isMutable⟩

/-- Puts a layer behind all those whose priority is not greater, in a list that is in order of
priority. -/
def insert (l : Layer) (ls : List Layer) : List Layer :=
  ls.takeWhile (·.priority ≤ l.priority) ++ l :: ls.dropWhile (·.priority ≤ l.priority)

/-- Records a snapshot of the layer with the given number. -/
def record (seq : Nat) (s : Snapshot) (ls : List Layer) : List Layer :=
  ls.map fun l => if l.seq = seq then { l with recorded := s } else l

end Layer

/-! ### Views -/

/-- Named snapshots, the first of which that has a value for a key provides it. -/
abbrev View := List (String × Snapshot)

namespace View

/-- What a key resolves to. -/
def resolve (v : View) (key : String) : Option Resolved :=
  v.findSome? fun s => (s.2.get? key).map fun value => ⟨value, s.1⟩

/-- The recorded snapshots of layers. -/
def recorded (ls : List Layer) : View := ls.map fun l => (l.name, l.recorded)

end View

/-- A set of keys. -/
abbrev Keys := Table Unit

namespace Keys

/-- The set of the keys of a list. -/
def ofList (ks : List String) : Keys := Table.ofList (ks.map fun k => (k, ()))

/-- The keys of either of two sets. -/
def union (a b : Keys) : Keys := a.insertAll b.entries

end Keys

/-- The keys that are new, gone or changed from one snapshot to another. -/
def changedKeys (old new : Snapshot) : Keys :=
  .ofList ((old.keys ++ new.keys).filter fun k => old.get? k ≠ new.get? k)

/-- A key and what it resolves to now. -/
abbrev Change := String × Option Resolved

/-- The keys that resolve differently in two views, with what they resolve to in the second. -/
def changesBetween (keys : Keys) (old new : View) : List Change :=
  keys.keys.filterMap fun k =>
    if old.resolve k = new.resolve k then none else some (k, new.resolve k)

end Strata
