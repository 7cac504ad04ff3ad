import Strata.Failure
import Strata.Table

/-!
Files as sources see them: a tree of directories, and in it files that hold text, or bytes that
are none. A path that does not begin with a slash starts at the working directory, the root of the
tree; what is outside of it does not exist.
-/

namespace Strata

/-- What a file holds. -/
inductive Content where
  | text (s : String)
  | notUtf8
  deriving DecidableEq, Repr, Inhabited

namespace Path

/-- Splits a path at its slashes. -/
def split (path : String) : List String := (path.splitToList (· = '/'))

/-- The names on the way along a path, without those that lead nowhere. -/
def names (path : String) : List String := (split path).filter fun n => n ≠ "" && n ≠ "."

/-- Whether a path starts at the root of all files. -/
def isAbsolute (path : String) : Bool := path.toList.head? = some '/'

/-- Whether a path can lead to a directory only. -/
def endsAtDirectory (path : String) : Bool :=
  match (split path).getLast? with
  | some n => n = "" || n = "."
  | none => false

/-- The name of the file that a path leads to, if it ends with a name. -/
def fileName? (path : String) : Option String :=
  (names path).getLast?.filter (· ≠ "..")

/-- The extension of a file name: what follows its last point, unless the point is its first
character. -/
def extension? (name : String) : Option String :=
  let backwards := name.toList.reverse
  match backwards.dropWhile (· ≠ '.') with
  | _ :: _ :: _ => some (String.ofList (backwards.takeWhile (· ≠ '.')).reverse)
  | _ => none

/-- Drops the parts at the end of a path that lead nowhere; the parts are given backwards. -/
def dropIdle (backwards : List String) : List String :=
  backwards.dropWhile fun n => n = "" || n = "."

/-- The directory part of a path that ends with a name. -/
def directory (path : String) : String :=
  match dropIdle (split path).reverse with
  | [] => "."
  | _ :: before =>
    match dropIdle before with
    | [] => if isAbsolute path then "/" else "."
    | kept => "/".intercalate kept.reverse

end Path

/-- What stands at a place in a tree of files. -/
inductive FileEntry where
  | directory
  | file (content : Content)
  deriving DecidableEq, Repr

/-- A tree of files, as a table of what stands at each path below its root. -/
structure Files where
  entries : Table FileEntry := .empty

namespace Files

/-- What stands at a place, given by the names that lead there. -/
def get? (fs : Files) (place : List String) : Option FileEntry :=
  if place.isEmpty then some .directory else fs.entries.get? ("/".intercalate place)

/-- The place where names lead, starting in a place. -/
def walk (fs : Files) : List String → List String → Except FileFault (List String)
  | place, [] => .ok place
  | place, n :: names =>
    match fs.get? place with
    | none => .error .notFound
    | some (.file _) => .error .notDirectory
    | some .directory => walk fs (if n = ".." then place.dropLast else place ++ [n]) names

/-- What stands where a path leads. -/
def find (fs : Files) (path : String) : Except FileFault FileEntry := do
  let names := Path.names path
  if Path.isAbsolute path && !names.isEmpty then .error .notFound
  else
    match fs.get? (← fs.walk [] names) with
    | none => .error .notFound
    | some .directory => .ok .directory
    | some (.file c) => if Path.endsAtDirectory path then .error .notDirectory else .ok (.file c)

/-- The text of a file. -/
def read (fs : Files) (path : String) : Except FileFault String := do
  match ← fs.find path with
  | .directory => .error .isDirectory
  | .file .notUtf8 => .error .notUtf8
  | .file (.text s) => .ok s

/-- The place that a path names, whether anything stands there or not. -/
def place (path : String) : List String :=
  (Path.names path).foldl (fun p n => if n = ".." then p.dropLast else p ++ [n]) []

/-- Makes directories of a place and of all places on the way to it. -/
def makeDirectories (fs : Files) (place : List String) : Files :=
  (List.range place.length).foldl (fun fs i =>
    let key := "/".intercalate (place.take (i + 1))
    if fs.entries.contains key then fs else ⟨fs.entries.insert key .directory⟩) fs

/-- Makes a directory. -/
def makeDirectory (fs : Files) (path : String) : Files := fs.makeDirectories (place path)

/-- Writes a file. -/
def write (fs : Files) (path : String) (content : Content) : Files :=
  let p := place path
  ⟨(fs.makeDirectories p.dropLast).entries.insert ("/".intercalate p) (.file content)⟩

/-- Deletes what stands at a path. -/
def delete (fs : Files) (path : String) : Files :=
  ⟨fs.entries.erase ("/".intercalate (place path))⟩

end Files

end Strata
