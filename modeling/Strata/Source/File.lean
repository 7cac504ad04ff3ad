import Strata.Config.Sources
import Strata.Document.Flatten
import Strata.Document.Json
import Strata.Document.Toml
import Strata.Document.Yaml
import Strata.Host
import Strata.Properties

/-!
Sources of properties that are kept in a file. The file is read when the source is made; a
snapshot of a mutable source reads it again, and keeps the data from before if that fails.
-/

namespace Strata

/-! ### The text of a file -/

/-- How the text of a file is read. -/
inductive FileKind where
  | properties
  | json
  | yaml
  | toml
  deriving DecidableEq, Repr

namespace FileKind

/-- The kind of file that the end of a path stands for. -/
def ofPath (path : String) : FileKind :=
  let extension := (Path.fileName? path).bind Path.extension?
  match extension.map fun e => String.ofList (e.toList.map Char.toLower) with
  | some "json" => .json
  | some "yaml" | some "yml" => .yaml
  | some "toml" => .toml
  | _ => .properties

/-- The kind of file that settings ask for. -/
def ofFormat (path : String) : Config.FileFormat → FileKind
  | .auto => ofPath path
  | .properties => .properties
  | .json => .json
  | .yaml => .yaml
  | .toml => .toml

/-- The properties of a structured document, or the failure in the line where it cannot be
read. -/
def ofDocument (path : String) : Except Nat Document → Except Failure (Table String)
  | .ok d => .ok d.flatten
  | .error line => .error (.parse path line .malformed)

/-- The properties that a text holds. -/
def parse (kind : FileKind) (text path : String) : Except Failure (Table String) :=
  match kind with
  | .properties => Properties.parse text path
  | .json => ofDocument path (Json.parse text)
  | .yaml => ofDocument path (Yaml.parse text)
  | .toml => ofDocument path (Toml.parse text)

end FileKind

/-- A text without the mark that some editors put in front. -/
def withoutMark (text : String) : String :=
  match text.toList with
  | '\uFEFF' :: rest => String.ofList rest
  | _ => text

/-! ### Sources -/

/-- A source of properties in a file. -/
structure FileSource where
  name : String
  path : String
  kind : FileKind
  isMutable : Bool
  isOptional : Bool
  data : Table String

namespace FileSource

/-- The properties in a file. An optional file that does not exist holds none. -/
def load (files : Files) (path : String) (kind : FileKind) (isOptional : Bool) :
    Except Failure (Table String) :=
  match files.read path with
  | .ok text => kind.parse (withoutMark text) path
  | .error cause =>
    if isOptional && cause = .notFound then .ok .empty else .error (.file path cause)

/-- The source that settings describe. -/
def ofSettings (c : Config.FileSource) (files : Files) : Except Failure FileSource :=
  if c.path.isEmpty then .error (.config .emptyFilePath)
  else
    let kind := FileKind.ofFormat c.path c.format
    (load files c.path kind c.isOptional).map fun data =>
      ⟨c.name.getD c.path, c.path, kind, c.isMutable, c.isOptional, data⟩

/-- The source with what the file holds now. -/
def reload (s : FileSource) (files : Files) : Except Failure FileSource :=
  (load files s.path s.kind s.isOptional).map fun data => { s with data := data }

end FileSource

end Strata
