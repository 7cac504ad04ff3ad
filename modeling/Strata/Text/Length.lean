/-!
The length of a text in bytes, which is what offsets in messages count.
-/

namespace Strata.Text

/-- The number of bytes that a text takes in UTF-8. -/
def byteLength : List Char → Nat
  | [] => 0
  | c :: s => c.utf8Size + byteLength s

end Strata.Text
