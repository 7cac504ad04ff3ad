import Strata.Document.Basic
import Strata.Document.Yaml.Node
import Strata.Number.Integer
import Strata.Number.Literal
import Strata.Text.Search

/-!
What the scalars of YAML stand for. A plain text is null, a truth value or a number if it is one of
their spellings, and otherwise a text; any other text stands for itself. Integers may have a sign
and a base, and a decimal one has no leading zeros.
-/

namespace Strata.Yaml

open Number Text

/-- Whether a text begins with a sign. -/
def hasSign : List Char → Bool
  | c :: _ => c = '+' || c = '-'
  | [] => false

/-- A text without the plus sign at its start. -/
def withoutPlus : List Char → List Char
  | '+' :: rest => rest
  | s => s

/-- Whether a text is a decimal integer but for its leading zeros. -/
def hasLeadingZero (s : List Char) : Bool :=
  match (splitSign s).2 with
  | '0' :: c :: rest => (c :: rest).all isDigit
  | _ => false

/-- The value of digits of a base, at least one. -/
def baseDigits? (base : Nat) (s : List Char) : Option Nat :=
  if s.isEmpty then none
  else s.foldlM (fun n c => ((hexValue? c).filter (· < base)).map (base * n + ·)) 0

/-- The value of an unsigned integer that begins with the letter of its base. -/
def based? (s : List Char) : Option Nat :=
  match s with
  | '0' :: 'x' :: digits => baseDigits? 16 digits
  | '0' :: 'o' :: digits => baseDigits? 8 digits
  | '0' :: 'b' :: digits => baseDigits? 2 digits
  | _ => none

/-- The integer that a text spells, of any size. -/
def integer? (s : List Char) : Option Int :=
  match s with
  | '-' :: rest =>
    match based? rest with
    | some n => some (-n)
    | none => if hasLeadingZero s then none else (baseDigits? 10 rest).map fun n => -n
  | s =>
    match based? (withoutPlus s) with
    | some n => some n
    | none =>
      if hasLeadingZero s then none else (baseDigits? 10 (withoutPlus s)).map fun n => n

/-- The binary number that a text spells. -/
def real? (s : List Char) : Option Binary :=
  let unsigned := withoutPlus s
  if s.head? = some '+' && hasSign unsigned then none
  else if [".inf", ".Inf", ".INF"].any (·.toList = unsigned) then some (.infinite false)
  else if ["-.inf", "-.Inf", "-.INF"].any (·.toList = s) then some (.infinite true)
  else if [".nan", ".NaN", ".NAN"].any (·.toList = s) then some .nan
  else (BinaryFormat.double.read unsigned).toOption.filter Binary.isFinite

/-- Whether a text is a spelling of null. -/
def isNull (s : String) : Bool := ["null", "Null", "NULL", "~"].contains s

/-- The truth value that a text spells. -/
def boolean? (s : String) : Option Bool :=
  if ["true", "True", "TRUE"].contains s then some true
  else if ["false", "False", "FALSE"].contains s then some false
  else none

/-- Whether an integer is in the range of a type. -/
def fits (signed : Bool) (width : IntegerWidth) (n : Int) : Bool :=
  (⟨signed, width⟩ : IntegerType).holds n

/-- What an integer stands for: an integer of 64 bits, and beyond that nothing; one that does not
even fit 128 bits is taken for a binary number. -/
inductive Whole where
  | exact (n : Int)
  | tooGreat
  | none

/-- The integer that a text spells, by its size. -/
def whole (s : List Char) : Whole :=
  match integer? s with
  | some n =>
    if fits false .w64 n || fits true .w64 n then .exact n
    else if fits false .w128 n || fits true .w128 n then .tooGreat
    else .none
  | Option.none => .none

/-- The document that a plain text stands for; an integer that is too great stands for none. -/
def plainDocument? (text : String) : Option Document :=
  let s := text.toList
  if text.isEmpty || isNull text then some .null
  else
    match boolean? text with
    | some b => some (.boolean b)
    | none =>
      match whole s with
      | .exact n => some (.number (.whole n))
      | .tooGreat => none
      | .none =>
        if hasLeadingZero s then some (.text text)
        else
          match real? s with
          | some x => some (.ofReal x)
          | none => some (.text text)

/-- The tag of a type of the language's core. -/
def coreTag (name : String) : String := "tag:yaml.org,2002:" ++ name

/-- The document that a text with a tag stands for. A text has to be of the type that its tag
names, and a tag of the reader's own, which begins with an exclamation mark, names none. -/
def taggedDocument? (tag text : String) : Option Document :=
  if tag.toList.head? = some '!' then none
  else if tag = coreTag "bool" then (boolean? text).map .boolean
  else if tag = coreTag "int" then
    match whole text.toList with
    | .exact n => some (.number (.whole n))
    | _ => none
  else if tag = coreTag "float" then (real? text.toList).map .ofReal
  else if tag = coreTag "null" then (if isNull text then some .null else none)
  else some (.text text)

/-- The document that a scalar stands for. -/
def scalarDocument? (tag : Option String) (style : Style) (text : String) : Option Document :=
  match tag with
  | some tag => taggedDocument? tag text
  | none => if style = .plain then plainDocument? text else some (.text text)

end Strata.Yaml
