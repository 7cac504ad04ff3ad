import Strata.Config.Record

/-!
The settings of each kind of source and of the two ways to reload, with their defaults: how they
are read from a document and written as one.
-/

namespace Strata.Config

/-- How the text of a file is to be read. `auto` goes by the file's name. -/
inductive FileFormat where
  | auto
  | properties
  | json
  | yaml
  | toml
  deriving DecidableEq, Repr, Inhabited

namespace FileFormat

/-- All formats. -/
def all : List FileFormat := [.auto, .properties, .json, .yaml, .toml]

/-- The name of a format in settings. -/
def name : FileFormat → String
  | .auto => "auto"
  | .properties => "properties"
  | .json => "json"
  | .yaml => "yaml"
  | .toml => "toml"

/-- The format of a name. -/
def ofName (s : String) : Except Misfit FileFormat :=
  match all.find? (·.name == s) with
  | some f => .ok f
  | none => .error (.unknownVariant s (all.map name))

/-- Reads a format from its name, or from a map whose one key is the name and whose value is
null. -/
def read : Document → Except Misfit FileFormat
  | .text s => ofName s
  | .object [(s, d)] => do
    let f ← ofName s
    match d with
    | .null => .ok f
    | d => .error (.invalidType (.ofDocument d) "unit")
  | .object _ => .error (.invalidValue .map "map with a single key")
  | d => .error (.invalidType (.ofDocument d) "string or map")

end FileFormat

/-- The document of a table of texts. -/
def writeTable (t : Table String) : Document :=
  .object (t.entries.map fun e => (e.1, .text e.2))

/-- The document of an optional text. -/
def writeOptional : Option String → Document
  | some s => .text s
  | none => .null

/-- The document of a span of time. -/
def writeTimespan (d : Timespan) : Document := .text d.format

/-- A field that may be left out. -/
def optionalField {ν ρ : Type} (name : String) (set : ν → ρ → Except Misfit ρ) : Field ν ρ :=
  ⟨name, false, set⟩

/-! ### Values held in memory -/

/-- Settings of a source of values held in memory. -/
structure MapSource where
  name : String := "map"
  values : Table String := .empty
  isMutable : Bool := true
  deriving DecidableEq

namespace MapSource

/-- The fields of these settings. -/
def shape : Shape Document MapSource :=
  { title := "struct MapSourceConfig"
    fields :=
      [optionalField "name" fun d r => do return { r with name := ← readText d },
       optionalField "values" fun d r => do return { r with values := ← readTable d },
       optionalField "mutable" fun d r => do return { r with isMutable := ← readBoolean d }]
    blank := {} }

/-- Reads settings of a map. -/
def read : Document → Except Misfit MapSource := shape.read documents

/-- Writes settings of a map with all their fields. -/
def write (s : MapSource) : Document :=
  .ofFields [("name", .text s.name), ("values", writeTable s.values),
    ("mutable", .boolean s.isMutable)]

end MapSource

/-! ### Files -/

/-- Settings of a source of values read from a file. -/
structure FileSource where
  path : String := ""
  name : Option String := none
  format : FileFormat := .auto
  isMutable : Bool := true
  isOptional : Bool := false
  deriving DecidableEq

namespace FileSource

/-- The fields of these settings. -/
def shape : Shape Document FileSource :=
  { title := "struct FileSourceConfig"
    fields :=
      [optionalField "path" fun d r => do return { r with path := ← readText d },
       optionalField "name" fun d r => do return { r with name := ← readOptional d },
       optionalField "format" fun d r => do return { r with format := ← FileFormat.read d },
       optionalField "mutable" fun d r => do return { r with isMutable := ← readBoolean d },
       optionalField "optional" fun d r => do return { r with isOptional := ← readBoolean d }]
    blank := {} }

/-- Reads settings of a file. -/
def read : Document → Except Misfit FileSource := shape.read documents

/-- Writes settings of a file with all their fields. -/
def write (s : FileSource) : Document :=
  .ofFields [("path", .text s.path), ("name", writeOptional s.name),
    ("format", .text s.format.name), ("mutable", .boolean s.isMutable),
    ("optional", .boolean s.isOptional)]

end FileSource

/-! ### Environment variables -/

/-- Settings of a source of environment variables, those that begin with a stem if one is given
and without it. -/
structure EnvironmentSource where
  name : String := "env"
  stem : Option String := none
  deriving DecidableEq

namespace EnvironmentSource

/-- The fields of these settings. The stem goes by the name `prefix` in them. -/
def shape : Shape Document EnvironmentSource :=
  { title := "struct EnvironmentSourceConfig"
    fields :=
      [optionalField "name" fun d r => do return { r with name := ← readText d },
       optionalField "prefix" fun d r => do return { r with stem := ← readOptional d }]
    blank := {} }

/-- Reads settings for the environment. -/
def read : Document → Except Misfit EnvironmentSource := shape.read documents

/-- Writes settings for the environment with all their fields. -/
def write (s : EnvironmentSource) : Document :=
  .ofFields [("name", .text s.name), ("prefix", writeOptional s.stem)]

end EnvironmentSource

/-! ### System properties -/

/-- Settings of a source of system properties. -/
structure SystemSource where
  name : String := "system"
  deriving DecidableEq

namespace SystemSource

/-- The one field of these settings. -/
def shape : Shape Document SystemSource :=
  { title := "struct SystemPropertySourceConfig"
    fields := [optionalField "name" fun d _ => do return { name := ← readText d }]
    blank := {} }

/-- Reads settings for system properties. -/
def read : Document → Except Misfit SystemSource := shape.read documents

/-- Writes settings for system properties. -/
def write (s : SystemSource) : Document := .ofFields [("name", .text s.name)]

end SystemSource

/-! ### Remote documents -/

/-- Settings of a source of values fetched from a server. -/
structure RemoteSource where
  url : String := ""
  name : String := "remote"
  timeout : Timespan := .ofSecs 5
  pointer : Option String := none
  headers : Table String := .empty
  deriving DecidableEq

namespace RemoteSource

/-- The fields of these settings. -/
def shape : Shape Document RemoteSource :=
  { title := "struct RemoteSourceConfig"
    fields :=
      [optionalField "url" fun d r => do return { r with url := ← readText d },
       optionalField "name" fun d r => do return { r with name := ← readText d },
       optionalField "timeout" fun d r => do return { r with timeout := ← readTimespan d },
       optionalField "pointer" fun d r => do return { r with pointer := ← readOptional d },
       optionalField "headers" fun d r => do return { r with headers := ← readTable d }]
    blank := {} }

/-- Reads settings of a remote document. -/
def read : Document → Except Misfit RemoteSource := shape.read documents

/-- Writes settings of a remote document with all their fields. -/
def write (s : RemoteSource) : Document :=
  .ofFields [("url", .text s.url), ("name", .text s.name), ("timeout", writeTimespan s.timeout),
    ("pointer", writeOptional s.pointer), ("headers", writeTable s.headers)]

end RemoteSource

/-! ### Reloading -/

/-- Settings of a scheduler: the time between two refreshes. -/
structure Scheduler where
  interval : Timespan := .ofSecs 30
  deriving DecidableEq

namespace Scheduler

/-- The one field of these settings. -/
def shape : Shape Document Scheduler :=
  { title := "struct ReloadSchedulerConfig"
    fields := [optionalField "interval" fun d _ => do return { interval := ← readTimespan d }]
    blank := {} }

/-- Reads settings of a scheduler. -/
def read : Document → Except Misfit Scheduler := shape.read documents

/-- Writes settings of a scheduler. -/
def write (s : Scheduler) : Document := .ofFields [("interval", writeTimespan s.interval)]

end Scheduler

/-- Settings of a watch on a file: how long to wait for further changes before a refresh. -/
structure FileWatch where
  path : String := ""
  debounce : Timespan := .ofMillis 100
  deriving DecidableEq

namespace FileWatch

/-- The fields of these settings. -/
def shape : Shape Document FileWatch :=
  { title := "struct FileWatchTriggerConfig"
    fields :=
      [optionalField "path" fun d r => do return { r with path := ← readText d },
       optionalField "debounce" fun d r => do return { r with debounce := ← readTimespan d }]
    blank := {} }

/-- Reads settings of a watch. -/
def read : Document → Except Misfit FileWatch := shape.read documents

/-- Writes settings of a watch with all their fields. -/
def write (s : FileWatch) : Document :=
  .ofFields [("path", .text s.path), ("debounce", writeTimespan s.debounce)]

end FileWatch

end Strata.Config
