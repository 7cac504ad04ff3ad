import Strata.Failure
import Strata.Proofs.Integers
import Strata.Proofs.Results
import Strata.Proofs.Texts

/-!
The grammar of templates. A template is a list of tokens: texts in which each brace is doubled, `{}`,
and `{i}` with a position `i`. Main statements: rendering what is written of tokens gives the texts
and the arguments that the placeholders stand for, the `n`-th `{}` standing for argument `n - 1`, or
tells the first position at which there is no argument (`renderFrom_of_written`); whatever can be
rendered is written of tokens (`exists_written_of_renderFrom`).
-/

namespace Strata.Template

open Number Text

/-! ### Tokens -/

/-- A part of a template: a text, a placeholder for the next argument, or one for the argument at a
position. -/
inductive Token where
  | text (s : List Char)
  | next
  | nth (i : Nat) (h : indexType.holds i = true)

/-- A text whose braces stand for themselves. -/
def doubled (s : List Char) : List Char :=
  s.flatMap fun c => if c = '{' ∨ c = '}' then [c, c] else [c]

/-- The form in which a token is printed. -/
def Token.printed : Token → List Char
  | .text s => doubled s
  | .next => ['{', '}']
  | .nth i _ => '{' :: (Nat.toDigits 10 i ++ ['}'])

/-- The template that tokens make up. -/
def printed (ts : List Token) : String := String.ofList (ts.flatMap Token.printed)

/-- A text spells a position: it consists of its digits, with any zeros and perhaps a plus before
them, and blanks around. -/
def IsSpelling (i : Nat) (index : List Char) : Prop :=
  ∃ sign zeros, (sign = [] ∨ sign = ['+']) ∧
    trim index = sign ++ (List.replicate zeros '0' ++ Nat.toDigits 10 i)

/-- A text is a form of a token. It is the printed form, but for the spelling of a position. -/
def Token.IsForm (form : List Char) : Token → Prop
  | .nth i _ => ∃ index, IsSpelling i index ∧ form = '{' :: (index ++ ['}'])
  | t => form = t.printed

/-- A text consists of forms of tokens, one after the other. -/
inductive Written : List Token → List Char → Prop
  | nil : Written [] []
  | cons {t : Token} {ts : List Token} {form rest : List Char} :
      t.IsForm form → Written ts rest → Written (t :: ts) (form ++ rest)

/-! ### What tokens stand for -/

/-- A text, or the argument at a position. -/
inductive Piece where
  | text (s : List Char)
  | argument (i : Nat)

/-- The position of a piece that is an argument. -/
def Piece.position? : Piece → Option Nat
  | .text _ => none
  | .argument i => some i

/-- The text of a piece, if there is an argument at its position. -/
def Piece.content (args : List String) : Piece → List Char
  | .text s => s
  | .argument i => (args[i]?.getD "").toList

/-- Whether a token is a placeholder for the next argument. -/
def Token.isNext : Token → Bool
  | .next => true
  | _ => false

/-- What a token stands for that has some placeholders for the next argument before it. -/
def Token.piece (earlier : Nat) : Token → Piece
  | .text s => .text s
  | .next => .argument earlier
  | .nth i _ => .argument i

/-- What tokens stand for if some placeholders for the next argument come before them. -/
def piecesFrom (earlier : Nat) (ts : List Token) : List Piece :=
  ts.mapIdx fun k t => t.piece (earlier + (ts.take k).countP Token.isNext)

/-- What tokens stand for. -/
def pieces (ts : List Token) : List Piece := piecesFrom 0 ts

/-- The texts of pieces put together, or the first position at which there is no argument. -/
def outcome (args : List String) (ps : List Piece) : Except Fault (List Char) :=
  match (ps.filterMap Piece.position?).find? (args.length ≤ ·) with
  | some i => .error (.outOfRange i args.length)
  | none => .ok (ps.flatMap (Piece.content args))

variable {args : List String} {next offset i : Nat} {index s rest form out : List Char}
  {ts : List Token} {ps : List Piece}

theorem piecesFrom_cons (earlier : Nat) (t : Token) (ts : List Token) :
    piecesFrom earlier (t :: ts) =
      t.piece earlier :: piecesFrom (if t.isNext then earlier + 1 else earlier) ts := by
  rw [piecesFrom, List.mapIdx_cons, piecesFrom]
  cases t <;> simp [Token.isNext, List.countP_cons, Nat.add_assoc, Nat.add_comm 1]

theorem outcome_text (args : List String) (s : List Char) (ps : List Piece) :
    outcome args (.text s :: ps) = (outcome args ps).map (s ++ ·) := by
  simp only [outcome, List.filterMap_cons, Piece.position?, List.flatMap_cons, Piece.content]
  cases (ps.filterMap Piece.position?).find? (args.length ≤ ·) <;> rfl

theorem outcome_argument (args : List String) (i : Nat) (ps : List Piece) :
    outcome args (.argument i :: ps) =
      match args[i]? with
      | some arg => (outcome args ps).map (arg.toList ++ ·)
      | none => .error (.outOfRange i args.length) := by
  simp only [outcome, List.filterMap_cons, Piece.position?, List.find?_cons, List.flatMap_cons,
    Piece.content]
  cases harg : args[i]? with
  | none =>
    have hle : args.length ≤ i := List.getElem?_eq_none_iff.1 harg
    simp [hle]
  | some arg =>
    obtain ⟨hlt, -⟩ := List.getElem?_eq_some_iff.1 harg
    have hle : ¬ args.length ≤ i := Nat.not_le.2 hlt
    simp only [hle, decide_false]
    cases (ps.filterMap Piece.position?).find? (args.length ≤ ·) <;> rfl

/-! ### Positions -/

/-- What is inside a placeholder names a position exactly if it spells it. -/
theorem position_eq_ok_iff (hne : index ≠ []) :
    position next index = .ok i ↔ IsSpelling i index ∧ indexType.holds i = true := by
  have hread : position next index = .ok i ↔ indexType.read (trim index) = .ok (i : Int) := by
    rw [position, if_neg (by simpa using hne)]
    cases hread : indexType.read (trim index) with
    | error e => simp
    | ok m =>
      obtain ⟨_, _, _, hsign, -, -, -, hm, -⟩ := IntegerType.read_eq_ok_iff.1 hread
      have hnonneg : 0 ≤ m := by
        cases hsign with
        | none | plus => exact hm ▸ Int.natCast_nonneg _
        | minus hsigned => cases hsigned
      simp only [Except.ok.injEq]
      omega
  rw [hread, IntegerType.read_eq_ok_iff]
  constructor
  · rintro ⟨negative, sign, digits, hsign, htrim, hdigits, hall, hi, hholds⟩
    have hvalue : negative = false ∧ (sign = [] ∨ sign = ['+']) := by
      cases hsign with
      | none => exact ⟨rfl, .inl rfl⟩
      | plus => exact ⟨rfl, .inr rfl⟩
      | minus hsigned => cases hsigned
    obtain ⟨rfl, hplus⟩ := hvalue
    obtain ⟨zeros, hzeros⟩ := exists_replicate_toDigits hdigits hall
    have hi : i = digitsValue digits := Int.ofNat.inj hi
    rw [← hi] at hzeros
    exact ⟨⟨sign, zeros, hplus, by rw [htrim, ← hzeros]⟩, hholds⟩
  · rintro ⟨⟨sign, zeros, hsign, htrim⟩, hholds⟩
    have hsign : indexType.IsSign false sign := by
      rcases hsign with rfl | rfl
      · exact .none
      · exact .plus
    refine ⟨false, sign, _, hsign, htrim, by simp [Nat.toDigits_ne_nil], ?_, ?_, hholds⟩
    · intro c hc
      rcases List.mem_append.1 hc with hc | hc
      · rw [List.eq_of_mem_replicate hc]
        rfl
      · exact isDigit_of_mem_toDigits hc
    · rw [digitsValue_replicate_append, digitsValue_toDigits]
      rfl

/-- What spells a position neither is empty nor has a brace in it. -/
theorem IsSpelling.not_brace (h : IsSpelling i index) :
    index ≠ [] ∧ ∀ c ∈ index, c ≠ '{' ∧ c ≠ '}' := by
  obtain ⟨sign, zeros, hsign, htrim⟩ := h
  obtain ⟨before, after, hindex, hbefore, hafter⟩ := exists_trim index
  have hblank : ∀ c, isBlank c = true → c ≠ '{' ∧ c ≠ '}' := by
    rintro c hc
    constructor <;> rintro rfl <;> exact absurd hc (by decide)
  have hdigit : ∀ c, isDigit c = true → c ≠ '{' ∧ c ≠ '}' := by
    rintro c hc
    constructor <;> rintro rfl <;> exact absurd hc (by decide)
  constructor
  · rintro rfl
    have hnil : trim [] = [] := rfl
    rw [hnil] at htrim
    simp [Nat.toDigits_ne_nil] at htrim
  · intro c hc
    rw [hindex, htrim] at hc
    simp only [List.mem_append, List.mem_replicate] at hc
    rcases hc with (hc | hc | ⟨-, rfl⟩ | hc) | hc
    · exact hblank c (hbefore c hc)
    · rcases hsign with rfl | rfl
      · cases hc
      · rw [List.mem_singleton] at hc
        simp [hc]
    · decide
    · exact hdigit c (isDigit_of_mem_toDigits hc)
    · exact hblank c (hafter c hc)

/-! ### Rendering what is written -/

theorem renderFrom_doubled {r : Except Fault (List Char)}
    (h : ∀ offset, renderFrom args next offset rest = r) (s : List Char) :
    ∀ offset, renderFrom args next offset (doubled s ++ rest) = r.map (s ++ ·) := by
  induction s with
  | nil =>
    intro offset
    cases hr : r <;> simp [doubled, h, hr, Except.map]
  | cons c s ih =>
    intro offset
    have hcons : doubled (c :: s) = (if c = '{' ∨ c = '}' then [c, c] else [c]) ++ doubled s := rfl
    have hmap : (r.map (s ++ ·)).map (c :: ·) = r.map (c :: s ++ ·) := by cases r <;> rfl
    rw [hcons, List.append_assoc]
    by_cases hopen : c = '{'
    · subst hopen
      rw [if_pos (.inl rfl), List.cons_append, List.cons_append, List.nil_append, renderFrom,
        if_pos rfl, if_pos List.head?_cons, List.drop_succ_cons, List.drop_zero, ih, hmap]
    · by_cases hclose : c = '}'
      · subst hclose
        rw [if_pos (.inr rfl), List.cons_append, List.cons_append, List.nil_append, renderFrom,
          if_neg (by decide), if_pos rfl, if_pos List.head?_cons, List.drop_succ_cons,
          List.drop_zero, ih, hmap]
      · rw [if_neg (by simp [hopen, hclose]), List.cons_append, renderFrom, if_neg hopen,
          if_neg hclose, List.nil_append, ih, hmap]

theorem renderFrom_placeholder (hindex : ∀ c ∈ index, c ≠ '{' ∧ c ≠ '}') :
    renderFrom args next offset ('{' :: (index ++ '}' :: rest)) =
      match select args next index with
      | .error e => .error e
      | .ok arg => (renderFrom args (if index.isEmpty then next + 1 else next)
          (offset + 2 + byteLength index) rest).map (arg ++ ·) := by
  have hhead : (index ++ '}' :: rest).head? ≠ some '{' := by
    cases index with
    | nil => simp
    | cons c index => simpa using (hindex c List.mem_cons_self).1
  have hkeep : ∀ c ∈ index, decide (c ≠ '}') = true := fun c hc => by simp [(hindex c hc).2]
  have htake : (index ++ '}' :: rest).takeWhile (· ≠ '}') = index := by
    rw [List.takeWhile_append_of_pos hkeep]
    simp
  have hdrop : (index ++ '}' :: rest).dropWhile (· ≠ '}') = '}' :: rest := by
    rw [List.dropWhile_append_of_pos hkeep]
    simp
  rw [renderFrom, if_pos rfl, if_neg hhead]
  simp only [htake]
  split
  · rename_i hnil
    rw [hdrop] at hnil
    cases hnil
  · rename_i after hafter
    rw [hdrop] at hafter
    cases hafter
    rfl

/-- What is written of tokens is rendered as what they stand for. -/
theorem renderFrom_of_written (h : Written ts s) :
    ∀ next offset, renderFrom args next offset s = outcome args (piecesFrom next ts) := by
  induction h with
  | nil =>
    intro next offset
    rw [renderFrom]
    rfl
  | @cons t ts form rest hform _ ih =>
    intro next offset
    rw [piecesFrom_cons]
    cases t with
    | text s =>
      obtain rfl : form = doubled s := hform
      rw [renderFrom_doubled (ih next)]
      exact (outcome_text args s _).symm
    | next =>
      obtain rfl : form = ['{', '}'] := hform
      have hselect : select args next [] =
          match args[next]? with
          | some arg => .ok arg.toList
          | none => .error (.outOfRange next args.length) := rfl
      have hstep : renderFrom args next offset ('{' :: ([] ++ '}' :: rest)) = _ :=
        renderFrom_placeholder fun _ hc => (by cases hc)
      rw [List.nil_append] at hstep
      rw [List.cons_append, List.cons_append, List.nil_append, hstep, hselect, Token.piece,
        outcome_argument]
      cases args[next]? with
      | none => rfl
      | some arg => simp [ih, Token.isNext]
    | nth i hi =>
      obtain ⟨index, hspelling, rfl⟩ := hform
      obtain ⟨hne, hbrace⟩ := hspelling.not_brace
      have hposition : position next index = .ok i := (position_eq_ok_iff hne).2 ⟨hspelling, hi⟩
      rw [List.cons_append, List.append_assoc, List.singleton_append, renderFrom_placeholder hbrace,
        select, hposition, Token.piece, outcome_argument]
      cases hargs : args[i]? with
      | none => simp [hargs]
      | some arg => simp [hargs, ih, hne, Token.isNext]

/-! ### Reading a template as tokens -/

/-- A character that stands for itself comes before what is written of tokens. -/
theorem exists_written_doubled (c : Char)
    (h : ∃ ts, Written ts rest ∧ outcome args (piecesFrom next ts) = .ok out) :
    ∃ ts, Written ts (doubled [c] ++ rest) ∧ outcome args (piecesFrom next ts) = .ok (c :: out) := by
  obtain ⟨ts, hts, hout⟩ := h
  refine ⟨.text [c] :: ts, .cons rfl hts, ?_⟩
  have hnext : (Token.text [c]).isNext = false := rfl
  rw [piecesFrom_cons, Token.piece, outcome_text, hnext, if_neg Bool.false_ne_true, hout]
  rfl

/-- A placeholder whose argument there is comes before what is written of tokens. -/
theorem exists_written_placeholder {arg : List Char} (hselect : select args next index = .ok arg)
    (h : ∃ ts, Written ts rest ∧
      outcome args (piecesFrom (if index.isEmpty then next + 1 else next) ts) = .ok out) :
    ∃ ts, Written ts ('{' :: (index ++ '}' :: rest)) ∧
      outcome args (piecesFrom next ts) = .ok (arg ++ out) := by
  obtain ⟨ts, hts, hout⟩ := h
  obtain ⟨i, hposition, harg⟩ : ∃ i, position next index = .ok i ∧
      ∃ value, args[i]? = some value ∧ arg = value.toList := by
    rw [select] at hselect
    cases hposition : position next index with
    | error e => simp [hposition] at hselect
    | ok i =>
      cases harg : args[i]? with
      | none => simp [hposition, harg] at hselect
      | some value =>
        simp only [hposition, harg, Except.ok.injEq] at hselect
        exact ⟨i, rfl, value, harg, hselect.symm⟩
  obtain ⟨value, hvalue, rfl⟩ := harg
  have hfilled : ∀ t : Token, t.piece next = .argument i →
      t.isNext = index.isEmpty →
      outcome args (piecesFrom next (t :: ts)) = .ok (value.toList ++ out) := by
    intro t hpiece hnext
    rw [piecesFrom_cons, hpiece, hnext, outcome_argument, hvalue]
    simp only [hout]
    rfl
  by_cases hindex : index = []
  · subst hindex
    obtain rfl : next = i := Except.ok.inj hposition
    have hform : Token.IsForm ['{', '}'] .next := rfl
    exact ⟨.next :: ts, .cons hform hts, hfilled .next rfl rfl⟩
  · obtain ⟨hspelling, hi⟩ := (position_eq_ok_iff hindex).1 hposition
    refine ⟨.nth i hi :: ts, ?_, hfilled (.nth i hi) rfl (by simp [hindex, Token.isNext])⟩
    have hwritten := Written.cons (t := .nth i hi) ⟨index, hspelling, rfl⟩ hts
    simpa using hwritten

/-- What can be rendered is written of tokens. -/
theorem exists_written_of_renderFrom (h : renderFrom args next offset s = .ok out) :
    ∃ ts, Written ts s ∧ outcome args (piecesFrom next ts) = .ok out := by
  fun_induction renderFrom args next offset s generalizing out with
  | case1 =>
    cases h
    exact ⟨[], .nil, rfl⟩
  | case2 next offset rest hopen ih =>
    obtain ⟨tail, htail, rfl⟩ := exists_of_map_eq_ok h
    obtain ⟨rest, rfl⟩ := List.head?_eq_some_iff.1 hopen
    exact exists_written_doubled '{' (ih htail)
  | case3 | case4 | case7 => cases h
  | case5 next offset rest hopen index close after hclose arg hselect =>
    rename_i ih
    obtain ⟨tail, htail, rfl⟩ := exists_of_map_eq_ok h
    have hbrace : close = '}' := by
      have hstop := List.head?_dropWhile_not (fun c => decide (c ≠ '}')) rest
      rw [hclose] at hstop
      simpa using hstop
    have hrest : rest = rest.takeWhile (fun c => decide (c ≠ '}')) ++ '}' :: after := by
      rw [hbrace] at hclose
      rw [← hclose, List.takeWhile_append_dropWhile]
    rw [hrest]
    exact exists_written_placeholder hselect (ih htail)
  | case6 next offset rest hclose hopen ih =>
    obtain ⟨tail, htail, rfl⟩ := exists_of_map_eq_ok h
    obtain ⟨rest, rfl⟩ := List.head?_eq_some_iff.1 hclose
    exact exists_written_doubled '}' (ih htail)
  | case8 next offset c rest hopen hclose ih =>
    obtain ⟨tail, htail, rfl⟩ := exists_of_map_eq_ok h
    have hdoubled : doubled [c] = [c] := by simp [doubled, hopen, hclose]
    have hwritten := exists_written_doubled c (ih htail)
    rwa [hdoubled] at hwritten

/-! ### The grammar -/

theorem Token.isForm_printed (t : Token) : t.IsForm t.printed := by
  cases t with
  | text s => rfl
  | next => rfl
  | nth i hi =>
    refine ⟨Nat.toDigits 10 i, ⟨[], 0, .inl rfl, ?_⟩, rfl⟩
    apply trim_eq_self_of_forall
    intro c hc
    have hdigit := isDigit_iff.1 (isDigit_of_mem_toDigits hc)
    simp [isBlank, inRanges, blankRanges]
    omega

theorem written_printed (ts : List Token) : Written ts (ts.flatMap Token.printed) := by
  induction ts with
  | nil => exact .nil
  | cons t ts ih => exact .cons t.isForm_printed ih

theorem render_of_written {template : String} (h : Written ts template.toList) :
    render template args = (outcome args (pieces ts)).map String.ofList := by
  rw [render, renderFrom_of_written h, pieces]

/-- Templates are what is written of tokens. What tokens are printed as is rendered as the texts and
the arguments that they stand for; or there is a fault that names the first position at which there
is no argument, and how many arguments there are. Nothing is rendered that is not written of tokens,
up to the spelling of positions. A text with all its braces doubled is rendered as that text. -/
theorem render_of_tokens (args : List String) :
    (∀ ts, render (printed ts) args = (outcome args (pieces ts)).map String.ofList) ∧
      (∀ template text, render template args = .ok text ↔ ∃ ts, Written ts template.toList ∧
        outcome args (pieces ts) = .ok text.toList) ∧
      (∀ text : String, render (String.ofList (doubled text.toList)) args = .ok text) ∧
      ∀ i count, (Failure.template (.outOfRange i count)).message =
        "template error: " ++ ("placeholder " ++ toString i ++ " out of range, " ++
          toString count ++ " arguments") := by
  refine ⟨fun ts => ?_, fun template text => ⟨fun h => ?_, ?_⟩, fun text => ?_, fun _ _ => rfl⟩
  · refine render_of_written ?_
    rw [printed, String.toList_ofList]
    exact written_printed ts
  · rw [render] at h
    cases hout : renderFrom args 0 0 template.toList with
    | error e =>
      rw [hout] at h
      cases h
    | ok out =>
      rw [hout] at h
      obtain rfl : String.ofList out = text := Except.ok.inj h
      rw [String.toList_ofList]
      exact exists_written_of_renderFrom hout
  · rintro ⟨ts, hts, hout⟩
    rw [render_of_written hts, hout]
    exact congrArg Except.ok String.ofList_toList
  · have hwritten : Written [.text text.toList] (String.ofList (doubled text.toList)).toList := by
      rw [String.toList_ofList]
      have h : Written [.text text.toList] (doubled text.toList ++ []) := .cons rfl .nil
      rwa [List.append_nil] at h
    have hpieces : outcome args (pieces [.text text.toList]) = .ok text.toList := by
      simp [pieces, piecesFrom, Token.piece, outcome, Piece.position?, Piece.content]
    rw [render_of_written hwritten, hpieces]
    exact congrArg Except.ok String.ofList_toList

/-- Braces beside a placeholder. -/
example : renderFrom ["x"] 0 0 (doubled ['{'] ++ ['{', '0', '}'] ++ doubled ['}']) =
    .ok ['{', 'x', '}'] := by
  decide +kernel

end Strata.Template
