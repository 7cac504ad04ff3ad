import Strata.Number.Shortest

/-!
The written form of a binary number. The digits are those of the shortest decimal; a spelling says
how they are laid out.
-/

namespace Strata.Number

/-- How numbers are written: in plain notation while the decimal point stands between
`leastPoint` and `greatestPoint`, else with an exponent; a whole number may keep `.0`. -/
structure Spelling where
  leastPoint : Option Int
  greatestPoint : Option Int
  wholeTail : String
  notANumber : String
  infinity : String
  deriving Repr

/-- Values in messages and encoded properties: never an exponent, and nothing after a whole
number. -/
def Spelling.plain : Spelling := ⟨none, none, "", "NaN", "inf"⟩

/-- Numbers in documents: plain from `1e-5` to below `1e16`, and a whole number ends in `.0`. A
document has no undefined or infinite number. -/
def Spelling.document : Spelling := ⟨some (-4), some 16, ".0", "null", "null"⟩

namespace Spelling

/-- Digits with the decimal point at a place, zeros filled in on either side. -/
def layOut (sp : Spelling) (digits : List Char) (point : Int) : List Char :=
  if point ≤ 0 then
    '0' :: '.' :: List.replicate (-point).toNat '0' ++ digits
  else if digits.length ≤ point then
    digits ++ List.replicate (point.toNat - digits.length) '0' ++ sp.wholeTail.toList
  else
    digits.take point.toNat ++ '.' :: digits.drop point.toNat

/-- Digits with one of them before the decimal point, and an exponent with its sign. -/
def scientific (digits : List Char) (point : Int) : List Char :=
  let e := point - 1
  let mantissa :=
    match digits with
    | d :: rest => if rest.isEmpty then [d] else d :: '.' :: rest
    | [] => ['0']
  mantissa ++ 'e' :: (if e < 0 then '-' else '+') :: Nat.toDigits 10 e.natAbs

/-- The digits of a text without the zeros at its end. -/
def significant (digits : List Char) : List Char :=
  (digits.reverse.dropWhile (· = '0')).reverse

/-- A positive decimal in the spelling. -/
def decimal (sp : Spelling) (d : Decimal) : List Char :=
  let digits := significant d.text
  let plain := sp.leastPoint.all (· ≤ d.point) && sp.greatestPoint.all (d.point ≤ ·)
  if plain then sp.layOut digits d.point else scientific digits d.point

/-- A number of a format in the spelling. -/
def write (sp : Spelling) (f : BinaryFormat) : Binary → String
  | .nan => sp.notANumber
  | .infinite s => (if s then "-" else "") ++ sp.infinity
  | .finite s m e =>
    (if s then "-" else "") ++
      if m = 0 then "0" ++ sp.wholeTail else String.ofList (sp.decimal (f.shortest m e))

end Spelling

end Strata.Number
