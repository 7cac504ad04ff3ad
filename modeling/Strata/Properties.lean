import Strata.Failure
import Strata.Table

/-!
Property files: lines of the form `key=value`. Blank lines and lines whose first visible character
is `#` are comments. A key is trimmed, a value is kept as it stands, and the last value of a key
counts. The first faulty line is reported by its number.
-/

namespace Strata.Properties

open Text

/-- A line that is given backwards and ended by a line feed, without a carriage return at its
end. -/
def endLine : List Char → List Char
  | '\r' :: line => line.reverse
  | line => line.reverse

/-- The lines of a text when a line has begun before it, which is given backwards. -/
def linesFrom (line : List Char) : List Char → List (List Char)
  | [] => if line.isEmpty then [] else [line.reverse]
  | c :: rest => if c = '\n' then endLine line :: linesFrom [] rest else linesFrom (c :: line) rest

/-- The lines of a text, each without its line feed and one carriage return before it. A line feed
at the very end starts no further line, and a last line without one keeps its carriage return. -/
def lines (s : List Char) : List (List Char) := linesFrom [] s

/-- Whether a line holds no property. -/
def isComment (line : List Char) : Bool :=
  match trim line with
  | [] => true
  | c :: _ => c = '#'

/-- The property that a line holds. -/
def assignment (line : List Char) : Except Malformation (String × String) :=
  match line.dropWhile (· ≠ '=') with
  | [] => .error .expectedAssignment
  | _ :: value =>
    let key := trim (line.takeWhile (· ≠ '='))
    if key.isEmpty then .error .emptyKey
    else .ok (String.ofList key, String.ofList value)

/-- The properties of lines, the first of which has the given number. -/
def assignments (n : Nat) : List (List Char) → Except (Nat × Malformation) (List (String × String))
  | [] => .ok []
  | line :: rest =>
    if isComment line then assignments (n + 1) rest
    else
      match assignment line with
      | .error cause => .error (n, cause)
      | .ok entry => (assignments (n + 1) rest).map (entry :: ·)

/-- The properties that a text holds. -/
def parse (text path : String) : Except Failure (Table String) :=
  match assignments 1 (lines text.toList) with
  | .error (n, cause) => .error (.parse path n cause)
  | .ok entries => .ok (.ofList entries)

end Strata.Properties
