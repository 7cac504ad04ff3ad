import Strata.Config.Sources

/-!
Declarations of layers: a source named by its type with options of its own, a layer that gives it
a priority, and a registry that lists layers. They can be read from any notation.
-/

namespace Strata.Config

open Number

/-- A thing to be made: the name of its type, and options that are for the type to read. -/
structure TypeOptions where
  typeName : String := ""
  options : Document := .object []
  deriving Inhabited

/-- A layer to be made. -/
structure Layer where
  priority : Int := 0
  source : TypeOptions := {}
  deriving Inhabited

/-- A registry to be made. -/
structure Registry where
  sources : List Layer := []
  deriving Inhabited

/-- The type of priorities. -/
def priorityType : IntegerType := ⟨true, .w32⟩

namespace TypeOptions

variable {ν : Type}

/-- Options that are left out are null. -/
def shape (D : Dialect ν) : Shape ν TypeOptions :=
  { title := "struct TypeOptions"
    fields :=
      [⟨"type", true, fun v r => do return { r with typeName := ← D.text v }⟩,
       optionalField "options" fun v r => do return { r with options := ← D.document v }]
    blank := { options := .null } }

/-- Reads the declaration of a thing to be made. -/
def read (D : Dialect ν) : ν → Except Misfit TypeOptions := (shape D).read D

/-- Writes the declaration of a thing to be made. -/
def write (t : TypeOptions) : Document :=
  .ofFields [("type", .text t.typeName), ("options", t.options)]

/-- The faults of the declaration, given the path to it: a type name may not be empty. -/
def faults (path : String) (t : TypeOptions) : List String :=
  if t.typeName.isEmpty then [path ++ "type_name: length is lower than 1"] else []

end TypeOptions

namespace Layer

variable {ν : Type}

/-- The fields of the declaration. A layer has the priority zero unless it says otherwise. -/
def shape (D : Dialect ν) : Shape ν Layer :=
  { title := "struct LayerConfig"
    fields :=
      [optionalField "priority" fun v r => do
         return { r with priority := ← D.integer priorityType v },
       ⟨"source", true, fun v r => do return { r with source := ← TypeOptions.read D v }⟩]
    blank := {} }

/-- Reads the declaration of a layer. -/
def read (D : Dialect ν) : ν → Except Misfit Layer := (shape D).read D

/-- Writes the declaration of a layer. -/
def write (l : Layer) : Document :=
  .ofFields [("priority", .number (.whole l.priority)), ("source", l.source.write)]

end Layer

namespace Registry

variable {ν : Type}

/-- The one field of the declaration. -/
def shape (D : Dialect ν) : Shape ν Registry :=
  { title := "struct RegistryConfig"
    fields :=
      [optionalField "sources" fun v _ => do
         return { sources := ← (← D.items v).mapM (Layer.read D) }]
    blank := {} }

/-- Reads the declaration of a registry. -/
def read (D : Dialect ν) : ν → Except Misfit Registry := (shape D).read D

/-- Writes the declaration of a registry. -/
def write (r : Registry) : Document := .ofFields [("sources", .list (r.sources.map Layer.write))]

/-- The faults of layers, the first of which has the given position. -/
def layerFaults (i : Nat) : List Layer → List String
  | [] => []
  | l :: rest =>
    l.source.faults ("sources[" ++ toString i ++ "].source.") ++ layerFaults (i + 1) rest

/-- The faults of the declaration. -/
def faults (r : Registry) : List String := layerFaults 0 r.sources

end Registry

/-- The report on faults, one line each; none if there is no fault. -/
def report? (faults : List String) : Option String :=
  if faults.isEmpty then none else some (String.join (faults.map (· ++ "\n")))

end Strata.Config
