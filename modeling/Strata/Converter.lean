import Strata.Failure
import Strata.Number.Spelling
import Strata.Text.Search

/-!
Conversion between the texts of properties and typed values, both ways. There are converters for
texts, integers, floating-point numbers, truth values and spans of time, for lists of any of them,
and for anything that a pair of functions describes.
-/

namespace Strata

open Number Text

/-- A conversion between texts and values of one type, which it names. -/
structure Converter (α : Type) where
  typeName : String
  decode : String → Except Failure α
  encode : α → String

namespace Converter

/-- The converter that decodes with the given function, a mismatch becoming the failure to convert
the text to the named type. -/
def ofMismatch {α : Type} (typeName : String) (decode : String → Except Mismatch α)
    (encode : α → String) : Converter α :=
  { typeName := typeName
    decode := fun raw => (decode raw).mapError (.conversion raw typeName)
    encode := encode }

/-- A converter made of two functions, one of which may refuse a text with an explanation. -/
def custom {α : Type} (typeName : String) (decode : String → Except String α)
    (encode : α → String) : Converter α :=
  ofMismatch typeName (fun raw => (decode raw).mapError .stated) encode

/-- Texts as they are. -/
def string : Converter String := ⟨"String", .ok, id⟩

/-- Integers of a type. -/
def integer (t : IntegerType) : Converter Int :=
  ofMismatch t.name (fun raw => (t.read raw.toList).mapError .integer) IntegerType.write

/-- Floating-point numbers of a format. -/
def float (typeName : String) (f : BinaryFormat) : Converter Binary :=
  ofMismatch typeName (fun raw => (f.read raw.toList).mapError .float) (Spelling.plain.write f)

/-- A text in small ASCII letters. -/
def lowerAscii (s : String) : List Char := s.toList.map Char.toLower

/-- Truth values: `true` and `false` in any case of their letters, `1` and `0`. -/
def boolean : Converter Bool :=
  ofMismatch "bool"
    (fun raw =>
      if lowerAscii raw = "true".toList || raw = "1" then .ok true
      else if lowerAscii raw = "false".toList || raw = "0" then .ok false
      else .error .boolean)
    (fun b => if b then "true" else "false")

/-- Spans of time. -/
def duration : Converter Timespan :=
  ofMismatch "Duration" (fun raw => (Timespan.parse raw).mapError .timespan) Timespan.format

/-! ### Lists -/

/-- Gives the failure of an item as a failure of the whole text. -/
def inList (raw item : String) : Failure → Failure
  | .conversion _ target cause => .conversion raw target (.element item cause)
  | other => other

/-- Lists of values between delimiters. Items are trimmed, a blank text is the empty list, and an
empty delimiter stands for a list of one item. -/
def list {α : Type} (delimiter : String) (element : Converter α) : Converter (List α) :=
  { typeName := "Vec"
    decode := fun raw =>
      let s := raw.toList
      if (trim s).isEmpty then .ok []
      else if delimiter.isEmpty then
        (element.decode (String.ofList (trim s))).map fun v => [v]
      else
        (split delimiter.toList s).mapM fun item =>
          let item := String.ofList (trim item)
          (element.decode item).mapError (inList raw item)
    encode := fun values => delimiter.intercalate (values.map element.encode) }

/-- Texts between commas. -/
def strings : Converter (List String) := list "," string

/-! ### Values of any kind -/

/-- The converter of another type that holds the values of this one. -/
def embed {α β : Type} (c : Converter α) (into : α → β) (back? : β → Option α) : Converter β :=
  { typeName := c.typeName
    decode := fun raw => (c.decode raw).map into
    encode := fun v => ((back? v).map c.encode).getD "" }

end Converter

/-- The widths of floating-point numbers. -/
inductive FloatWidth where
  | single
  | double
  deriving DecidableEq, Repr

/-- The format of a width. -/
def FloatWidth.format : FloatWidth → BinaryFormat
  | .single => .single
  | .double => .double

/-- The name of the type of a width. -/
def FloatWidth.name : FloatWidth → String
  | .single => "f32"
  | .double => "f64"

/-- A typed value. -/
inductive Value where
  | integer (n : Int)
  | float (width : FloatWidth) (x : Binary)
  | boolean (b : Bool)
  | text (s : String)
  | duration (d : Timespan)
  | list (items : List Value)
  deriving Repr, Inhabited

/-- What a property can be read as. A custom kind holds texts and brings its own functions. -/
inductive Kind where
  | string
  | integer (type : IntegerType)
  | float (width : FloatWidth)
  | boolean
  | duration
  | custom (typeName : String) (decode : String → Except String String) (encode : String → String)
  | list (delimiter : String) (element : Kind)

instance : Inhabited Kind := ⟨.string⟩

namespace Kind

/-- The converter of a kind. -/
def converter : Kind → Converter Value
  | .string => Converter.string.embed .text fun | .text s => some s | _ => none
  | .integer t => (Converter.integer t).embed .integer fun | .integer n => some n | _ => none
  | .float w =>
    (Converter.float w.name w.format).embed (.float w) fun | .float _ x => some x | _ => none
  | .boolean => Converter.boolean.embed .boolean fun | .boolean b => some b | _ => none
  | .duration => Converter.duration.embed .duration fun | .duration d => some d | _ => none
  | .custom name decode encode =>
    (Converter.custom name decode encode).embed .text fun | .text s => some s | _ => none
  | .list delimiter element =>
    (Converter.list delimiter element.converter).embed .list fun | .list vs => some vs | _ => none

/-- Texts between commas. -/
def strings : Kind := .list "," .string

/-- The bytes before the first exclamation mark of a text, if it has one. -/
def bangOffset? (s : List Char) : Option Nat :=
  if s.contains '!' then some (byteLength (s.takeWhile (· ≠ '!'))) else none

/-- A kind of text kept in capitals: decoding turns ASCII letters into capitals and encoding into
small ones, and an exclamation mark is refused. -/
def upper : Kind :=
  .custom "Upper"
    (fun raw =>
      match bangOffset? raw.toList with
      | some offset => .error ("bang at " ++ toString offset)
      | none => .ok (String.ofList (raw.toList.map Char.toUpper)))
    (fun value => String.ofList (value.toList.map Char.toLower))

end Kind

end Strata
