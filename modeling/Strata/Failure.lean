import Strata.Template
import Strata.Text.Quoted
import Strata.Timespan

/-!
Everything that can go wrong when properties are read. That a key has no value is no failure. A
failure keeps its cause as data; the wording is in `Failure.message` and the `message` functions
of the causes.
-/

namespace Strata

open Number Text

/-- Why a text is no value of a type. -/
inductive Mismatch where
  | integer (fault : IntegerFault)
  | float (fault : FloatFault)
  | boolean
  | timespan (fault : Timespan.Fault)
  | element (item : String) (cause : Mismatch)
  | stated (text : String)
  deriving DecidableEq, Repr

/-- The explanation of a mismatch; that of an element quotes the element. -/
def Mismatch.message : Mismatch → String
  | .integer fault => fault.message
  | .float fault => fault.message
  | .boolean => "expected true, false, 1 or 0"
  | .timespan fault => fault.message
  | .element item cause => "element " ++ quoted item ++ ": " ++ cause.message
  | .stated text => text

/-- Why a text holds no properties. -/
inductive Malformation where
  | expectedAssignment
  | emptyKey
  | malformed
  | expectedObject
  | pointerNotFound (pointer : String)
  | stated (text : String)
  deriving DecidableEq, Repr

/-- The explanation of a malformation. One word stands for whatever is wrong with the grammar of
a structured text. -/
def Malformation.message : Malformation → String
  | .expectedAssignment => "expected key=value"
  | .emptyKey => "empty key"
  | .malformed => "<parser>"
  | .expectedObject => "expected a JSON object"
  | .pointerNotFound pointer => "pointer " ++ pointer ++ " not found in response"
  | .stated text => text

/-- Why a source does not answer. -/
inductive Outage where
  | unexpectedStatus (status : String)
  | transport
  | stated (text : String)
  deriving DecidableEq, Repr

/-- The explanation of an outage. One word stands for all that can happen on the way to a
server. -/
def Outage.message : Outage → String
  | .unexpectedStatus status => "unexpected status " ++ status
  | .transport => "<transport>"
  | .stated text => text

/-- Why a file cannot be read. -/
inductive FileFault where
  | notFound
  | isDirectory
  | notDirectory
  | notUtf8
  | stated (text : String)
  deriving DecidableEq, Repr

/-- The explanation of a file fault. -/
def FileFault.message : FileFault → String
  | .notFound => "No such file or directory (os error 2)"
  | .isDirectory => "Is a directory (os error 21)"
  | .notDirectory => "Not a directory (os error 20)"
  | .notUtf8 => "stream did not contain valid UTF-8"
  | .stated text => text

/-- Why a configuration cannot be used. -/
inductive ConfigFault where
  | emptyFilePath
  | emptyUrl
  | zeroTimeout
  | zeroInterval
  | emptyWatchPath
  | notAFilePath (path : String)
  | expectedAssignment (argument : String)
  | invalid (report : String)
  | stated (text : String)
  deriving DecidableEq, Repr

/-- The explanation of a configuration fault. -/
def ConfigFault.message : ConfigFault → String
  | .emptyFilePath => "file source path is empty"
  | .emptyUrl => "remote source url is empty"
  | .zeroTimeout => "remote source timeout must be positive"
  | .zeroInterval => "reload interval must be positive"
  | .emptyWatchPath => "watch path is empty"
  | .notAFilePath path => "not a file path: " ++ path
  | .expectedAssignment argument => "expected key=value, got " ++ quoted argument
  | .invalid report => "configuration validation failed: " ++ report
  | .stated text => text

/-- What went wrong. -/
inductive Failure where
  | conversion (raw target : String) (cause : Mismatch)
  | parse (path : String) (line : Nat) (cause : Malformation)
  | missingProperty (key : String)
  | unavailable (source : String) (cause : Outage)
  | duplicateSource (name : String)
  | invalidKey (key : String)
  | file (path : String) (cause : FileFault)
  | template (cause : Template.Fault)
  | config (cause : ConfigFault)
  deriving DecidableEq, Repr

namespace Failure

/-- The text of a failure. -/
def message : Failure → String
  | .conversion raw target cause =>
    "cannot convert " ++ quoted raw ++ " to " ++ target ++ ": " ++ cause.message
  | .parse path line cause =>
    "parse error at " ++ path ++ ":" ++ toString line ++ ": " ++ cause.message
  | .missingProperty key => "missing required property: " ++ key
  | .unavailable source cause => "source " ++ source ++ " unavailable: " ++ cause.message
  | .duplicateSource name => "source already registered: " ++ name
  | .invalidKey key => "invalid key: " ++ quoted key
  | .file path cause => "io error at " ++ path ++ ": " ++ cause.message
  | .template cause => "template error: " ++ cause.message
  | .config cause => "configuration error: " ++ cause.message

/-- Whether a later attempt may succeed without a change of the program or its configuration. -/
def isTransient : Failure → Bool
  | .unavailable .. | .file .. => true
  | _ => false

/-- The configuration failure of a chain of explanations, the outermost first. -/
def ofChain (chain : List String) : Failure := .config (.stated (": ".intercalate chain))

end Failure

/-- What was being done when a failure was met that no caller is told of. -/
inductive Circumstance where
  | lookup (source key : String)
  | refresh (source : String)
  | registration (source : String)
  | conversion (key : String)
  | watch (path : String)
  deriving DecidableEq, Repr

/-- The text of a circumstance. -/
def Circumstance.message : Circumstance → String
  | .lookup source key => "lookup of " ++ quoted key ++ " in source " ++ source
  | .refresh source => "refresh of source " ++ source
  | .registration source => "registration of source " ++ source
  | .conversion key => "conversion of " ++ quoted key
  | .watch path => "watch of " ++ path

end Strata
