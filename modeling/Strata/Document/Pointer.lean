import Strata.Document.Basic
import Strata.Text.Search

/-!
Pointers into documents. A pointer is empty and leads to the whole document, or it is a sequence
of steps, each with a slash before it. A step is a key of an object or a position in a list. In a
step `~1` stands for a slash and `~0` for a tilde.
-/

namespace Strata.Document

open Text

/-- The step that a text between slashes stands for. -/
def unescapeStep : List Char → List Char
  | '~' :: '1' :: s => '/' :: unescapeStep s
  | '~' :: '0' :: s => '~' :: unescapeStep s
  | c :: s => c :: unescapeStep s
  | [] => []

/-- The position that a step stands for: digits without a zero in front. -/
def stepIndex? (step : List Char) : Option Nat :=
  if step.isEmpty || !step.all Char.isDigit then none
  else if step.head? = some '0' && step.length ≠ 1 then none
  else some (step.foldl (fun n c => n * 10 + (c.toNat - '0'.toNat)) 0)

/-- The part of a document one step further on. -/
def child? (d : Document) (step : List Char) : Option Document :=
  match d with
  | .object fields => lookupEntry (String.ofList step) fields
  | .list items => (stepIndex? step).bind fun i => items[i]?
  | _ => none

/-- The part of a document that a pointer leads to. -/
def pointer? (d : Document) (pointer : String) : Option Document :=
  match pointer.toList with
  | [] => some d
  | '/' :: s => ((split ['/'] s).map unescapeStep).foldlM child? d
  | _ => none

end Strata.Document
