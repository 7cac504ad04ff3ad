import Strata.Number.Binary
import Strata.Number.Digits

/-!
Reading binary numbers from decimal text: an optional sign, then digits with at most one point
among them and an optional exponent, or the name of an infinity or of the undefined number in any
case of its letters.
-/

namespace Strata.Number

/-- Why a text is no number. -/
inductive FloatFault where
  | empty
  | invalid
  deriving DecidableEq, Repr

/-- The explanation of the fault. -/
def FloatFault.message : FloatFault → String
  | .empty => "cannot parse float from empty string"
  | .invalid => "invalid float literal"

/-- The exponent that the text after the digits stands for, none at all being zero. -/
def readExponent : List Char → Option Int
  | [] => some 0
  | c :: rest =>
    let (negative, digits) := splitSign rest
    if (c = 'e' || c = 'E') && !digits.isEmpty && digits.all isDigit then
      some (if negative then -(digitsValue digits : Int) else digitsValue digits)
    else none

/-- The digits before and after the point, and what follows them. -/
def splitDecimal (s : List Char) : List Char × List Char × List Char :=
  let whole := s.takeWhile isDigit
  match s.dropWhile isDigit with
  | '.' :: rest => (whole, rest.takeWhile isDigit, rest.dropWhile isDigit)
  | rest => (whole, [], rest)

/-- The number that an unsigned decimal stands for. -/
def BinaryFormat.readUnsigned (f : BinaryFormat) (negative : Bool) (s : List Char) :
    Option Binary :=
  let (whole, fraction, rest) := splitDecimal s
  if whole.isEmpty && fraction.isEmpty then none
  else
    (readExponent rest).map fun e =>
      f.ofDecimal negative (digitsValue (whole ++ fraction)) (e - fraction.length)

/-- The number that a name stands for. -/
def named (negative : Bool) (s : List Char) : Option Binary :=
  let name := s.map Char.toLower
  if name = ['i', 'n', 'f'] || name = ['i', 'n', 'f', 'i', 'n', 'i', 't', 'y'] then
    some (.infinite negative)
  else if name = ['n', 'a', 'n'] then some .nan
  else none

/-- The number nearest to the decimal that a text spells. -/
def BinaryFormat.read (f : BinaryFormat) (s : List Char) : Except FloatFault Binary :=
  if s.isEmpty then .error .empty
  else
    let (negative, rest) := splitSign s
    match f.readUnsigned negative rest <|> named negative rest with
    | some x => .ok x
    | none => .error .invalid

end Strata.Number
