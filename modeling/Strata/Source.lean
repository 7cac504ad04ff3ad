import Strata.Config.Layers
import Strata.Registry.Layer
import Strata.Source.File
import Strata.Source.Memory
import Strata.Source.Remote
import Strata.Source.System

/-!
Sources of properties. A source has a name, says whether its data may change, looks up single
keys, and gives a snapshot of all it has. An immutable source promises to give always the data that
it was made with.
-/

namespace Strata

/-- A source of one of the five kinds. -/
inductive Source where
  | map (s : MapSource)
  | environment (s : EnvironmentSource)
  | system (s : SystemSource)
  | file (s : FileSource)
  | remote (s : RemoteSource)

namespace Source

/-- The name under which a source is registered. -/
def name : Source → String
  | .map s => s.name
  | .environment s => s.name
  | .system s => s.name
  | .file s => s.name
  | .remote s => s.name

/-- Whether the data of a source may change. -/
def isMutable : Source → Bool
  | .map s => s.isMutable
  | .environment _ => false
  | .system _ => true
  | .file s => s.isMutable
  | .remote _ => true

/-- The value of a key. The source and the host may change on the way. -/
def lookup (s : Source) (h : Host) (key : String) :
    Except Failure (Option String) × Source × Host :=
  match s with
  | .map m => (.ok (m.values.get? key), s, h)
  | .environment e => (.ok (e.values.get? key), s, h)
  | .system _ => (.ok (h.properties.get? key), s, h)
  | .file f => (.ok (f.data.get? key), s, h)
  | .remote r =>
    let (result, r, n) := r.known h.network
    (result.map (·.get? key), .remote r, { h with network := n })

/-- All that a source has. The source and the host may change on the way. -/
def snapshot (s : Source) (h : Host) : Except Failure Snapshot × Source × Host :=
  match s with
  | .map m => (.ok m.values, s, h)
  | .environment e => (.ok e.values, s, h)
  | .system _ => (.ok h.properties, s, h)
  | .file f =>
    if f.isMutable then
      match f.reload h.files with
      | .ok f => (.ok f.data, .file f, h)
      | .error e => (.error e, s, h)
    else (.ok f.data, s, h)
  | .remote r =>
    let (result, r, n) := r.refetch h.network
    (result, .remote r, { h with network := n })

/-! ### Making sources by the names of their types -/

/-- Why a thing of a type cannot be made. What has no types at all cannot be made of any. -/
inductive CreationFault where
  | noTypes
  | unknownType (name : String)
  | unfit (typeName : String) (cause : Config.Misfit)
  | refused (typeName : String) (cause : Failure)

/-- The failure that a declaration meets. -/
def CreationFault.failure : CreationFault → Failure
  | .noTypes => .ofChain ["No implementations registered for trait"]
  | .unknownType name => .ofChain ["Type '" ++ name ++ "' not registered for this trait"]
  | .unfit typeName cause => .ofChain ["failed to create '" ++ typeName ++ "'", cause.message]
  | .refused typeName cause => .ofChain ["failed to create '" ++ typeName ++ "'", cause.message]

/-- A type of sources: its name, and how a source is made from options for it. -/
structure Maker where
  typeName : String
  make : Document → Host → Except CreationFault Source

/-- The type of sources whose options are settings of one kind. -/
def Maker.ofSettings {σ : Type} (typeName : String) (read : Document → Except Config.Misfit σ)
    (make : σ → Host → Except Failure Source) : Maker :=
  { typeName := typeName
    make := fun options h =>
      match read options with
      | .error e => .error (.unfit typeName e)
      | .ok settings => (make settings h).mapError (.refused typeName) }

/-- The types of sources in the order of their names. -/
def makers : List Maker :=
  [.ofSettings "EnvironmentSource" Config.EnvironmentSource.read fun c h =>
     .ok (.environment (.ofSettings c h.environment.entries)),
   .ofSettings "FileSource" Config.FileSource.read fun c h =>
     (FileSource.ofSettings c h.files).map .file,
   .ofSettings "MapSource" Config.MapSource.read fun c _ => .ok (.map (.ofSettings c)),
   .ofSettings "RemoteSource" Config.RemoteSource.read fun c _ =>
     (RemoteSource.ofSettings c none).map .remote,
   .ofSettings "SystemPropertySource" Config.SystemSource.read fun c _ =>
     .ok (.system (.ofSettings c))]

/-- The names of the types of sources. -/
def typeNames : List String := makers.map Maker.typeName

/-- Makes the source that a declaration asks for. Null stands for no options. -/
def make (t : Config.TypeOptions) (h : Host) : Except CreationFault Source :=
  match makers.find? (·.typeName == t.typeName) with
  | none => .error (.unknownType t.typeName)
  | some maker =>
    maker.make (match t.options with
      | .null => .object []
      | options => options) h

/-- Makes the source that a declaration asks for, or says why not. -/
def create (t : Config.TypeOptions) (h : Host) : Except Failure Source :=
  (make t h).mapError CreationFault.failure

end Source

end Strata
