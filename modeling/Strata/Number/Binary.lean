/-!
Binary floating-point numbers over exact integers. A finite number is a mantissa times a power of
two; the result of every operation is the exact result rounded to the nearest number of the
format, a tie going to the even mantissa, and beyond the greatest number to an infinity.
-/

namespace Strata.Number

/-- A quotient rounded to the nearest integer, a tie to the even one. -/
def roundHalfEven (num den : Nat) : Nat :=
  let q := num / den
  let r := 2 * (num % den)
  if r < den then q
  else if den < r then q + 1
  else q + q % 2

/-- A quotient rounded to the nearest integer, a tie to the greater one. -/
def roundHalfUp (num den : Nat) : Nat := (2 * num + den) / (2 * den)

/-- A format: mantissas have at most `precision` bits, and their unit is two to a power between
`leastExponent` and `greatestExponent`. -/
structure BinaryFormat where
  precision : Nat
  leastExponent : Int
  greatestExponent : Int
  deriving DecidableEq, Repr

/-- Numbers of 32 bits. -/
def BinaryFormat.single : BinaryFormat := ⟨24, -149, 104⟩

/-- Numbers of 64 bits. -/
def BinaryFormat.double : BinaryFormat := ⟨53, -1074, 971⟩

/-- A number: `finite s m e` is `m * 2 ^ e`, negative if `s`; zero keeps its sign. -/
inductive Binary where
  | nan
  | infinite (negative : Bool)
  | finite (negative : Bool) (mantissa : Nat) (exponent : Int)
  deriving DecidableEq, Repr, Inhabited

namespace Binary

/-- Zero with a sign. -/
def zero (negative : Bool) : Binary := .finite negative 0 0

/-- Whether a number is neither infinite nor undefined. -/
def isFinite : Binary → Bool
  | .finite .. => true
  | _ => false

end Binary

/-- The factor of a numerator that the power `2 ^ e` amounts to. -/
def scaleUp (e : Int) : Nat := Nat.pow 2 e.toNat

namespace BinaryFormat

/-- The exponent of the unit in which a positive quotient has exactly `precision` bits, or the
least exponent of the format if that is greater. -/
def unitExponent (f : BinaryFormat) (num den : Nat) : Int :=
  let guess : Int := (Nat.log2 num : Int) - (Nat.log2 den : Int)
  let exact := if num * scaleUp (-guess) < den * scaleUp guess then guess - 1 else guess
  max f.leastExponent (exact + 1 - f.precision)

/-- The nearest number to the quotient `num / den`. -/
def round (f : BinaryFormat) (negative : Bool) (num den : Nat) : Binary :=
  if num = 0 then .zero negative
  else
    let e := f.unitExponent num den
    let m := roundHalfEven (num * scaleUp (-e)) (den * scaleUp e)
    let (m, e) := if m = Nat.pow 2 f.precision then (m / 2, e + 1) else (m, e)
    if f.greatestExponent < e then .infinite negative
    else if m = 0 then .zero negative
    else .finite negative m e

/-- The number nearest to a natural number. -/
def ofNat (f : BinaryFormat) (n : Nat) : Binary := f.round false n 1

/-- The number nearest to `digits * 10 ^ power`. A magnitude at least `10 ^ 400` is infinite and
one below `10 ^ (-400)` is zero in both formats, so the powers computed stay small. -/
def ofDecimal (f : BinaryFormat) (negative : Bool) (digits : Nat) (power : Int) : Binary :=
  if digits = 0 then .zero negative
  else
    let size : Int := (Nat.toDigits 10 digits).length + power
    if 400 < size then .infinite negative
    else if size < -400 then .zero negative
    else f.round negative (digits * Nat.pow 10 power.toNat) (Nat.pow 10 (-power).toNat)

/-- The product of two numbers. -/
def mul (f : BinaryFormat) : Binary → Binary → Binary
  | .nan, _ | _, .nan => .nan
  | .infinite s, .infinite t => .infinite (s != t)
  | .infinite s, .finite t m _ => if m = 0 then .nan else .infinite (s != t)
  | .finite s m _, .infinite t => if m = 0 then .nan else .infinite (s != t)
  | .finite s m d, .finite t n e =>
    f.round (s != t) (m * n * scaleUp (d + e)) (scaleUp (-(d + e)))

/-- The quotient of two numbers. -/
def div (f : BinaryFormat) : Binary → Binary → Binary
  | .nan, _ | _, .nan => .nan
  | .infinite _, .infinite _ => .nan
  | .infinite s, .finite t _ _ => .infinite (s != t)
  | .finite s _ _, .infinite t => .zero (s != t)
  | .finite s m d, .finite t n e =>
    if n = 0 then if m = 0 then .nan else .infinite (s != t)
    else f.round (s != t) (m * scaleUp (d - e)) (n * scaleUp (e - d))

end BinaryFormat

end Strata.Number
