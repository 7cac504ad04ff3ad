import Strata.Number.Binary

/-!
The shortest decimal of a binary number: the fewest digits that read back as the same number, and
of the decimals with so few digits the nearest one.
-/

namespace Strata.Number

/-- A positive decimal, `digits * 10 ^ power`. -/
structure Decimal where
  digits : Nat
  power : Int
  deriving DecidableEq, Repr, Inhabited

namespace Decimal

/-- The digits as text. -/
def text (d : Decimal) : List Char := Nat.toDigits 10 d.digits

/-- Where the decimal point stands, counted from before the first digit. -/
def point (d : Decimal) : Int := d.text.length + d.power

end Decimal

/-- The reals that round to one number, in units of `1 / den`: from `low` to `high` around
`value`, the ends included if `closed`. -/
structure Basin where
  low : Nat
  value : Nat
  high : Nat
  den : Nat
  closed : Bool
  deriving Repr

/-- The reals that round to the positive number `m * 2 ^ e`. The lower half is narrower below a
power of two, where the next number down has a smaller unit. -/
def BinaryFormat.basin (f : BinaryFormat) (m : Nat) (e : Int) : Basin :=
  let up := scaleUp e
  let narrow := m = Nat.pow 2 (f.precision - 1) ∧ f.leastExponent < e
  { low := (4 * m - if narrow then 1 else 2) * up
    value := 4 * m * up
    high := (4 * m + 2) * up
    den := 4 * scaleUp (-e)
    closed := m % 2 == 0 }

namespace Basin

/-- Whether the decimal `d * 10 ^ k` lies among the reals. -/
def contains (b : Basin) (d : Nat) (k : Int) : Bool :=
  let x := d * Nat.pow 10 k.toNat * b.den
  let s := Nat.pow 10 (-k).toNat
  if b.closed then b.low * s ≤ x && x ≤ b.high * s
  else b.low * s < x && x < b.high * s

/-- The decimal on the grid of `10 ^ k` that lies among the reals, the nearer of the two
neighbours of the value if both do and the upper one of a tie. -/
def onGrid (b : Basin) (k : Int) : Option Decimal :=
  let num := b.value * Nat.pow 10 (-k).toNat
  let den := b.den * Nat.pow 10 k.toNat
  let d := num / den
  let below := b.contains d k && d != 0
  let above := b.contains (d + 1) k
  match below, above with
  | true, true => some ⟨if 2 * (num % den) < den then d else d + 1, k⟩
  | true, false => some ⟨d, k⟩
  | false, true => some ⟨d + 1, k⟩
  | false, false => none

/-- The power of ten of the value: the least `p` with the value below `10 ^ p`. From one on it
is the number of digits of the whole part, below one it comes from that of the reciprocal. -/
def magnitude (b : Basin) : Int :=
  if b.den ≤ b.value then (Nat.toDigits 10 (b.value / b.den)).length
  else 1 - ((Nat.toDigits 10 ((b.den - 1) / b.value)).length : Int)

/-- The first decimal found on grids of at least the given number of digits, at most `fuel` more;
the exact grid of the value's own unit is the last resort. -/
def search (b : Basin) (p : Int) : Nat → Nat → Decimal
  | 0, n => ⟨b.value * Nat.pow 10 (n - p).toNat / (b.den * Nat.pow 10 (p - n).toNat), p - n⟩
  | fuel + 1, n =>
    match b.onGrid (p - n) with
    | some d => d
    | none => search b p fuel (n + 1)

end Basin

/-- The shortest decimal of the positive number `m * 2 ^ e`. Seventeen digits tell any two numbers
of either format apart. -/
def BinaryFormat.shortest (f : BinaryFormat) (m : Nat) (e : Int) : Decimal :=
  let b := f.basin m e
  b.search b.magnitude 17 1

end Strata.Number
