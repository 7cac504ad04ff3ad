import Strata.Number.Literal

/-!
Integers of fixed width, read digit by digit. A text is refused at the first character that is no
digit or whose digit takes the value out of range, whichever comes first.
-/

namespace Strata.Number

/-- The widths of integers; `size` is the width of an address, 64 bits. -/
inductive IntegerWidth where
  | w8 | w16 | w32 | w64 | w128 | size
  deriving DecidableEq, Repr

namespace IntegerWidth

/-- The number of bits. -/
def bits : IntegerWidth → Nat
  | w8 => 8
  | w16 => 16
  | w32 => 32
  | w64 => 64
  | w128 => 128
  | size => 64

/-- How the width is named in the name of a type. -/
def name : IntegerWidth → String
  | w8 => "8"
  | w16 => "16"
  | w32 => "32"
  | w64 => "64"
  | w128 => "128"
  | size => "size"

end IntegerWidth

/-- A type of integers. -/
structure IntegerType where
  signed : Bool
  width : IntegerWidth
  deriving DecidableEq, Repr

namespace IntegerType

/-- The name of the type. -/
def name (t : IntegerType) : String := (if t.signed then "i" else "u") ++ t.width.name

/-- The least integer of the type. -/
def least (t : IntegerType) : Int :=
  if t.signed then -Int.ofNat (Nat.pow 2 (t.width.bits - 1)) else 0

/-- The greatest integer of the type. -/
def greatest (t : IntegerType) : Int :=
  Int.ofNat (Nat.pow 2 (if t.signed then t.width.bits - 1 else t.width.bits)) - 1

/-- Whether an integer belongs to the type. -/
def holds (t : IntegerType) (n : Int) : Bool := t.least ≤ n && n ≤ t.greatest

end IntegerType

/-- Why a text is no integer of a type. -/
inductive IntegerFault where
  | empty
  | invalidDigit
  | tooLarge
  | tooSmall
  deriving DecidableEq, Repr

/-- The explanation of the fault. -/
def IntegerFault.message : IntegerFault → String
  | .empty => "cannot parse integer from empty string"
  | .invalidDigit => "invalid digit found in string"
  | .tooLarge => "number too large to fit in target type"
  | .tooSmall => "number too small to fit in target type"

namespace IntegerType

/-- Reads further digits after a value, away from zero in the direction of the sign. -/
def readDigits (t : IntegerType) (negative : Bool) : Int → List Char → Except IntegerFault Int
  | n, [] => .ok n
  | n, c :: rest =>
    if !isDigit c then .error .invalidDigit
    else
      let next := if negative then 10 * n - digitValue c else 10 * n + digitValue c
      if t.holds next then t.readDigits negative next rest
      else .error (if negative then .tooSmall else .tooLarge)

/-- The integer that a text spells. Only a signed type takes a minus, and a sign alone is no
number. -/
def read (t : IntegerType) : List Char → Except IntegerFault Int
  | [] => .error .empty
  | '+' :: [] => .error .invalidDigit
  | '-' :: [] => .error .invalidDigit
  | '+' :: digits => t.readDigits false 0 digits
  | '-' :: digits => if t.signed then t.readDigits true 0 digits else .error .invalidDigit
  | digits => t.readDigits false 0 digits

/-- The decimal form of an integer. -/
def write (n : Int) : String := toString n

end IntegerType

end Strata.Number
