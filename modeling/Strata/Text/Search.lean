/-!
Finding a text within another one, and cutting a text at each place where it is found.
-/

namespace Strata.Text

/-- What follows a text at the start of another one, if that begins with it. -/
def stripStart : List Char → List Char → Option (List Char)
  | [], s => some s
  | _ :: _, [] => none
  | d :: ds, c :: s => if d = c then stripStart ds s else none

/-- Splits a text at each occurrence of a delimiter, which is not empty, from left to right. The
item read so far is given backwards; the count says how many characters of a delimiter that was
found are still to be passed over. -/
def splitAux (delimiter : List Char) (item : List Char) (passing : Nat) :
    List Char → List (List Char)
  | [] => [item.reverse]
  | c :: s =>
    match passing with
    | n + 1 => splitAux delimiter item n s
    | 0 =>
      match stripStart delimiter (c :: s) with
      | some _ => item.reverse :: splitAux delimiter [] (delimiter.length - 1) s
      | none => splitAux delimiter (c :: item) 0 s

/-- The items of a text between the delimiters. -/
def split (delimiter s : List Char) : List (List Char) := splitAux delimiter [] 0 s

end Strata.Text
