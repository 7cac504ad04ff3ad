import Strata.Number.Integer
import Strata.Text.Blank
import Strata.Text.Length

/-!
Text templates. `{}` stands for the next argument in order and `{i}` for argument `i`, which does
not advance the order; a brace that is meant as such is doubled. Rendering goes from left to right
and stops at the first fault.
-/

namespace Strata.Template

open Number Text

/-- Why a template cannot be rendered. -/
inductive Fault where
  | unclosed (offset : Nat)
  | unmatched (offset : Nat)
  | invalidPlaceholder (index : String)
  | outOfRange (index count : Nat)
  | stated (text : String)
  deriving DecidableEq, Repr

/-- The explanation of a fault. -/
def Fault.message : Fault → String
  | .unclosed offset => "unclosed '\x7b' at offset " ++ toString offset
  | .unmatched offset => "unmatched '\x7d' at offset " ++ toString offset
  | .invalidPlaceholder index => "invalid placeholder \x7b" ++ index ++ "\x7d"
  | .outOfRange index count =>
    "placeholder " ++ toString index ++ " out of range, " ++ toString count ++ " arguments"
  | .stated text => text

/-- The type of argument positions. -/
def indexType : IntegerType := ⟨false, .size⟩

/-- The position that the inside of a placeholder names; an empty one names the next in order. -/
def position (next : Nat) (index : List Char) : Except Fault Nat :=
  if index.isEmpty then .ok next
  else
    match indexType.read (Text.trim index) with
    | .ok i => .ok i.toNat
    | .error _ => .error (.invalidPlaceholder (String.ofList index))

/-- The argument that the inside of a placeholder selects. -/
def select (args : List String) (next : Nat) (index : List Char) : Except Fault (List Char) :=
  match position next index with
  | .error e => .error e
  | .ok i =>
    match args[i]? with
    | some arg => .ok arg.toList
    | none => .error (.outOfRange i args.length)

/-- Renders the rest of a template, from a byte offset on and with the next argument given. -/
def renderFrom (args : List String) (next offset : Nat) : List Char → Except Fault (List Char)
  | [] => .ok []
  | c :: rest =>
    if c = '{' then
      if rest.head? = some '{' then
        (renderFrom args next (offset + 2) (rest.drop 1)).map ('{' :: ·)
      else
        let index := rest.takeWhile (· ≠ '}')
        match _h : rest.dropWhile (· ≠ '}') with
        | [] => .error (.unclosed offset)
        | _ :: after =>
          match select args next index with
          | .error e => .error e
          | .ok arg =>
            (renderFrom args (if index.isEmpty then next + 1 else next)
              (offset + 2 + byteLength index) after).map (arg ++ ·)
    else if c = '}' then
      if rest.head? = some '}' then
        (renderFrom args next (offset + 2) (rest.drop 1)).map ('}' :: ·)
      else .error (.unmatched offset)
    else (renderFrom args next (offset + c.utf8Size) rest).map (c :: ·)
termination_by s => s.length
decreasing_by
  all_goals simp only [List.length_cons, List.length_drop]
  · omega
  · have := (List.dropWhile_sublist (l := rest) fun c => decide (c ≠ '}')).length_le
    simp_all
    omega
  · omega
  · omega

/-- The template with its placeholders replaced by the arguments. -/
def render (template : String) (args : List String) : Except Fault String :=
  (renderFrom args 0 0 template.toList).map String.ofList

end Strata.Template
