import Strata.Number.Literal
import Strata.Text.Blank
import Strata.Text.Length
import Strata.Text.LowerCase

/-!
Spans of time and their text form: numbers with units, one after the other without a blank, such
as `1h30m` or `1.5s`. Reading ignores the case of letters and the blanks around. Each number is a
64-bit binary one, its product with the unit is rounded to whole nanoseconds, a half upwards, and
the products are added exactly. Writing uses whole numbers only and no unit twice.
-/

namespace Strata

open Number Text

/-- A span of time: whole seconds in 64 bits, and nanoseconds below one second. -/
structure Timespan where
  secs : Nat
  nanos : Nat
  secs_lt : secs < 18446744073709551616
  nanos_lt : nanos < 1000000000
  deriving DecidableEq, Repr

namespace Timespan

/-- The span of some whole seconds, the greatest one for more than it holds. -/
def ofSecs (n : Nat) : Timespan :=
  ⟨min n 18446744073709551615, 0, by omega, by decide⟩

/-- The span of some milliseconds below one second. -/
def ofMillis (n : Nat) : Timespan :=
  ⟨0, n % 1000 * 1000000, by decide, by omega⟩

instance : Inhabited Timespan := ⟨ofSecs 0⟩

/-- The span in nanoseconds. -/
def totalNanos (d : Timespan) : Nat := d.secs * 1000000000 + d.nanos

/-- The empty span. -/
def isZero (d : Timespan) : Bool := d.secs == 0 && d.nanos == 0

/-- The span of some nanoseconds, if its seconds fit. -/
def ofNanos? (n : Nat) : Option Timespan :=
  if h : n / 1000000000 < 18446744073709551616 then
    some ⟨n / 1000000000, n % 1000000000, h, Nat.mod_lt _ (by decide)⟩
  else none

/-! ### Reading -/

/-- Why a text is no span of time. -/
inductive Fault where
  | empty
  | expectedNumber (offset : Nat)
  | invalidNumber (text : String)
  | missingUnit (number : String)
  | unknownUnit (unit : String)
  | overflow
  deriving DecidableEq, Repr

/-- The explanation of a fault. -/
def Fault.message : Fault → String
  | .empty => "empty duration"
  | .expectedNumber offset => "expected a number at offset " ++ toString offset
  | .invalidNumber text => "invalid number: " ++ text
  | .missingUnit number => "missing unit after " ++ number
  | .unknownUnit unit => "unknown unit: " ++ unit
  | .overflow => "duration overflow"

/-- The nanoseconds in a unit; micro may be spelt with either of the two micro signs. -/
def unitNanos? (unit : List Char) : Option Nat :=
  match unit with
  | ['n', 's'] => some 1
  | ['u', 's'] | ['µ', 's'] | ['μ', 's'] => some 1000
  | ['m', 's'] => some 1000000
  | ['s'] => some 1000000000
  | ['m'] => some 60000000000
  | ['h'] => some 3600000000000
  | ['d'] => some 86400000000000
  | _ => none

/-- Whether a character belongs to the number of a segment. -/
def isNumeral (c : Char) : Bool := isDigit c || c == '.'

/-- The nanoseconds that a number of units amounts to, if they are at most `2 ^ 64`. -/
def product? (value : Binary) (unit : Nat) : Option Nat :=
  match BinaryFormat.double.mul value (BinaryFormat.double.ofNat unit) with
  | .finite _ m e =>
    if 18446744073709551616 * scaleUp (-e) < m * scaleUp e then none
    else some (roundHalfUp (m * scaleUp e) (scaleUp (-e)))
  | _ => none

/-- The nanoseconds of one segment, given as its number and its unit. -/
def segment (number unit : List Char) : Except Fault Nat :=
  match BinaryFormat.double.read number with
  | .error _ => .error (.invalidNumber (String.ofList number))
  | .ok value =>
    if unit.isEmpty then .error (.missingUnit (String.ofList number))
    else
      match unitNanos? unit with
      | none => .error (.unknownUnit (String.ofList unit))
      | some n =>
        match product? value n with
        | none => .error .overflow
        | some nanos => .ok nanos

theorem length_dropWhile_le {α : Type} (p : α → Bool) (s : List α) :
    (s.dropWhile p).length ≤ s.length :=
  (List.dropWhile_sublist p).length_le

/-- The nanoseconds of the segments of a text, which starts at a byte offset. -/
def segments (offset : Nat) (s : List Char) : Except Fault Nat :=
  if _hs : s = [] then .ok 0
  else
    if _hn : (s.takeWhile isNumeral).isEmpty then .error (.expectedNumber offset)
    else
      let number := s.takeWhile isNumeral
      let afterNumber := s.dropWhile isNumeral
      let unit := afterNumber.takeWhile fun c => !isNumeral c
      let rest := afterNumber.dropWhile fun c => !isNumeral c
      match segment number unit with
      | .error e => .error e
      | .ok nanos =>
        match segments (offset + byteLength number + byteLength unit) rest with
        | .error e => .error e
        | .ok more => .ok (nanos + more)
termination_by s.length
decreasing_by
  have h₁ : (s.takeWhile isNumeral).length + (s.dropWhile isNumeral).length = s.length := by
    rw [← List.length_append, List.takeWhile_append_dropWhile]
  have h₂ : (s.takeWhile isNumeral).length ≠ 0 := by
    intro h
    simp_all [List.length_eq_zero_iff.1 h]
  have h₃ := length_dropWhile_le (fun c => !isNumeral c) (s.dropWhile isNumeral)
  omega

/-- The span of time that a text spells. -/
def parse (text : String) : Except Fault Timespan :=
  let s := lower (trim text.toList)
  if s.isEmpty then .error .empty
  else
    match segments 0 s with
    | .error e => .error e
    | .ok nanos =>
      match ofNanos? nanos with
      | some d => .ok d
      | none => .error .overflow

/-! ### Writing -/

/-- The number of times each unit fits into what the greater units leave, with its name, units
that do not fit left out. -/
def split : Nat → List (String × Nat) → List String
  | _, [] => []
  | n, (unit, size) :: units =>
    if size ≤ n then (toString (n / size) ++ unit) :: split (n % size) units
    else split n units

/-- The text form of a span. -/
def format (d : Timespan) : String :=
  if d.isZero then "0s"
  else
    String.join <|
      split d.secs [("d", 86400), ("h", 3600), ("m", 60), ("s", 1)] ++
      split d.nanos [("ms", 1000000), ("us", 1000), ("ns", 1)]

end Timespan

end Strata
