import Strata.Number.Digits

/-!
Dates and times of day as TOML writes them. A moment has a date, a time of day or both, and with
both it may have an offset from universal time. It is written in one form, whatever the form it
was read from.
-/

namespace Strata.Toml

open Number

/-- A day of the calendar. -/
structure Date where
  year : Nat
  month : Nat
  day : Nat
  deriving DecidableEq, Repr

/-- A time of day. -/
structure Time where
  hour : Nat
  minute : Nat
  second : Nat
  nanos : Nat
  deriving DecidableEq, Repr

/-- A distance from universal time: none, or minutes ahead of it. -/
inductive Offset where
  | universal
  | ahead (minutes : Int)
  deriving DecidableEq, Repr

/-- A date, a time of day, or both. -/
inductive Moment where
  | day (date : Date)
  | clock (time : Time)
  | both (date : Date) (time : Time) (offset : Option Offset)
  deriving DecidableEq, Repr

/-! ### Writing -/

/-- A number with leading zeros up to a width. -/
def padded (width n : Nat) : String :=
  let digits := toString n
  String.ofList (List.replicate (width - digits.length) '0') ++ digits

/-- The written form of a day. -/
def Date.text (d : Date) : String :=
  padded 4 d.year ++ "-" ++ padded 2 d.month ++ "-" ++ padded 2 d.day

/-- A text without the zeros at its end. -/
def withoutTrailingZeros (s : String) : String :=
  String.ofList (s.toList.reverse.dropWhile (· = '0')).reverse

/-- The written form of a time of day. A fraction of a second has no zeros at its end. -/
def Time.text (t : Time) : String :=
  padded 2 t.hour ++ ":" ++ padded 2 t.minute ++ ":" ++ padded 2 t.second ++
    (if t.nanos = 0 then "" else "." ++ withoutTrailingZeros (padded 9 t.nanos))

/-- The written form of an offset. -/
def Offset.text : Offset → String
  | .universal => "Z"
  | .ahead minutes =>
    (if minutes < 0 then "-" else "+") ++ padded 2 (minutes.natAbs / 60) ++ ":" ++
      padded 2 (minutes.natAbs % 60)

/-- The written form of a moment. -/
def Moment.text : Moment → String
  | .day date => date.text
  | .clock time => time.text
  | .both date time offset =>
    date.text ++ "T" ++ time.text ++ (match offset with
      | some o => o.text
      | none => "")

/-! ### Reading -/

/-- The number that a count of digits spells, if it is in a range. -/
def readField (count least greatest : Nat) (s : List Char) : Option (Nat × List Char) :=
  let digits := s.take count
  let n := digitsValue digits
  if digits.length = count && digits.all isDigit && least ≤ n && n ≤ greatest then
    some (n, s.drop count)
  else none

/-- What follows a given character. -/
def expect (c : Char) : List Char → Option (List Char)
  | d :: rest => if d = c then some rest else none
  | [] => none

/-- Whether a year has a leap day. -/
def isLeap (year : Nat) : Bool := year % 4 = 0 && (year % 100 ≠ 0 || year % 400 = 0)

/-- The number of days of a month. -/
def daysIn (year month : Nat) : Nat :=
  if month = 2 then (if isLeap year then 29 else 28)
  else if month ∈ [4, 6, 9, 11] then 30
  else 31

/-- A date at the start of a text. -/
def readDate (s : List Char) : Option (Date × List Char) := do
  let (year, s) ← readField 4 0 9999 s
  let (month, s) ← readField 2 1 12 (← expect '-' s)
  let (day, s) ← readField 2 1 (daysIn year month) (← expect '-' s)
  some (⟨year, month, day⟩, s)

/-- The nanoseconds that the digits of a fraction stand for; those after the ninth are ignored. -/
def nanosOf (digits : List Char) : Nat :=
  let kept := digits.take 9
  digitsValue kept * Nat.pow 10 (9 - kept.length)

/-- A time of day at the start of a text. -/
def readTime (s : List Char) : Option (Time × List Char) := do
  let (hour, s) ← readField 2 0 23 s
  let (minute, s) ← readField 2 0 59 (← expect ':' s)
  let (second, s) ← readField 2 0 60 (← expect ':' s)
  match s with
  | '.' :: c :: rest =>
    if isDigit c then
      let digits := (c :: rest).takeWhile isDigit
      some (⟨hour, minute, second, nanosOf digits⟩, (c :: rest).dropWhile isDigit)
    else some (⟨hour, minute, second, 0⟩, s)
  | s => some (⟨hour, minute, second, 0⟩, s)

/-- The offset at the start of a text, if there is one. -/
def readOffset (s : List Char) : Option (Option Offset × List Char) :=
  match s with
  | 'Z' :: rest | 'z' :: rest => some (some .universal, rest)
  | '+' :: rest => ahead 1 rest
  | '-' :: rest => ahead (-1) rest
  | s => some (none, s)
where
  /-- Hours and minutes in a direction. -/
  ahead (sign : Int) (s : List Char) : Option (Option Offset × List Char) := do
    let (hours, s) ← readField 2 0 23 s
    let (minutes, s) ← readField 2 0 59 (← expect ':' s)
    some (some (.ahead (sign * (60 * hours + minutes))), s)

/-- Whether a text can only be continued as a date. -/
def startsDate (s : List Char) : Bool :=
  ((readField 4 0 9999 s).bind fun r => expect '-' r.2).isSome

/-- Whether a text can only be continued as a time of day. -/
def startsTime (s : List Char) : Bool :=
  ((readField 2 0 23 s).bind fun r => expect ':' r.2).isSome

/-- A moment at the start of a text. -/
def Moment.read (s : List Char) : Option (Moment × List Char) :=
  if startsDate s then do
    let (date, rest) ← readDate s
    match rest with
    | c :: more =>
      if (c = 'T' || c = 't' || c = ' ') && startsTime more then
        let (time, rest) ← readTime more
        let (offset, rest) ← readOffset rest
        some (.both date time offset, rest)
      else some (.day date, rest)
    | [] => some (.day date, [])
  else do
    let (time, rest) ← readTime s
    some (.clock time, rest)

end Strata.Toml
