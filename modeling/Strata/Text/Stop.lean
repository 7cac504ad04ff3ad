/-!
The place where reading a text stops at a fault. It is kept as the text not yet read, from which
the line follows.
-/

namespace Strata.Text

/-- A fault: the text that is unread when it is found. -/
structure Stop where
  unread : List Char
  deriving Repr

namespace Stop

variable {α : Type}

/-- The fault right before the rest. -/
def before (rest : List Char) : Except Stop α := .error ⟨rest⟩

/-- The fault at the next character, which counts as read. -/
def after (rest : List Char) : Except Stop α := .error ⟨rest.drop 1⟩

/-- The line in which reading a text stopped. -/
def line (stop : Stop) (text : List Char) : Nat :=
  1 + text.count '\n' - stop.unread.count '\n'

end Stop

end Strata.Text
