import Mathlib.Data.List.TakeWhile
import Strata.Converter
import Strata.Proofs.Integers

/-!
Integers of all widths as texts. A text is decoded as an integer exactly if it spells one that is in
range: it is a sign that the type has, or none, and one or more digits, with any number of zeros in
front. Of all its spellings an integer is encoded as the canonical one, in which no plus, no zero in
front and no minus before zero is left. Main statement: `decode_integer`.
-/

namespace Strata

namespace Number

/-- The canonical form of a number: no plus and no zeros in front, and zero without a minus. -/
def canonical (s : List Char) : List Char :=
  match splitSign s with
  | (negative, digits) =>
    match digits.dropWhile (· = '0') with
    | [] => ['0']
    | d :: rest => if negative then '-' :: d :: rest else d :: rest

variable {negative : Bool} {n : Nat} {s sign digits : List Char}

/-- Without the zeros in front, digits are the decimal form of their value, or nothing for zero. -/
theorem dropWhile_zeros (h : ∀ c ∈ digits, isDigit c = true) :
    digits.dropWhile (· = '0') =
      if digitsValue digits = 0 then [] else Nat.toDigits 10 (digitsValue digits) := by
  have hzeros : digits.takeWhile (· = '0') =
      List.replicate (digits.takeWhile (· = '0')).length '0' :=
    List.eq_replicate_of_mem fun c hc => by simpa using List.mem_takeWhile_imp hc
  have hvalue : digitsValue (digits.dropWhile (· = '0')) = digitsValue digits := by
    conv_rhs => rw [← List.takeWhile_append_dropWhile (p := (· = '0')) (l := digits), hzeros]
    rw [digitsValue_replicate_append]
  have hrest : ∀ c ∈ digits.dropWhile (· = '0'), isDigit c = true :=
    fun c hc => h c ((List.dropWhile_sublist _).mem hc)
  have hhead := List.head?_dropWhile_not (fun c => decide (c = '0')) digits
  rw [← hvalue]
  cases hdrop : digits.dropWhile (· = '0') with
  | nil => rfl
  | cons d rest =>
    rw [hdrop] at hrest hhead
    have hd : d ≠ '0' := by simpa using hhead
    -- What is left does not start with a zero, so no zero stands before the decimal form.
    obtain ⟨k, hk⟩ := exists_replicate_toDigits (List.cons_ne_nil d rest) hrest
    cases k with
    | succ k => exact absurd (List.cons.inj hk).1 hd
    | zero =>
      have hne : digitsValue (d :: rest) ≠ 0 := by
        intro hzero
        rw [hzero] at hk
        exact hd (List.cons.inj hk).1
      rw [if_neg hne]
      exact hk

namespace IntegerType

variable {t : IntegerType} {m : Int}

/-- The decimal form of an integer has a minus if the integer is below zero. -/
theorem toList_write (negative : Bool) (n : Nat) : (write (onSide negative n)).toList =
    if negative = true ∧ n ≠ 0 then '-' :: Nat.toDigits 10 n else Nat.toDigits 10 n := by
  have hnat : ∀ n : Nat, (Nat.repr n).toList = Nat.toDigits 10 n := fun n => String.toList_ofList
  cases negative with
  | false => exact hnat n
  | true =>
    cases n with
    | zero => rfl
    | succ n =>
      have hminus : write (onSide true (n + 1)) = "-" ++ Nat.repr (n + 1) := rfl
      rw [hminus, String.toList_append, hnat, if_pos ⟨rfl, Nat.succ_ne_zero n⟩]
      rfl

/-- A text spells an integer of a type. It consists of a sign that the type has, or of none, and of
one or more digits whose value with the sign is the integer; and the integer is in range. -/
def Spells (t : IntegerType) (n : Int) (s : List Char) : Prop :=
  ∃ negative sign digits, t.IsSign negative sign ∧ s = sign ++ digits ∧ digits ≠ [] ∧
    (∀ c ∈ digits, isDigit c = true) ∧ n = onSide negative (digitsValue digits) ∧
    t.least ≤ n ∧ n ≤ t.greatest

theorem holds_iff : t.holds m = true ↔ t.least ≤ m ∧ m ≤ t.greatest := by simp [holds]

theorem spells_iff : t.Spells m s ↔ t.read s = .ok m := by
  rw [read_eq_ok_iff, Spells]
  simp only [holds_iff]

/-- A digit is no sign. -/
theorem splitSign_append (hsign : t.IsSign negative sign) (hne : digits ≠ [])
    (hdigits : ∀ c ∈ digits, isDigit c = true) :
    splitSign (sign ++ digits) = (negative, digits) := by
  obtain ⟨d, digits, rfl⟩ := List.exists_cons_of_ne_nil hne
  have hd := isDigit_iff.1 (hdigits d List.mem_cons_self)
  cases hsign with
  | none =>
    rw [List.nil_append]
    unfold splitSign
    split <;> simp_all
  | plus | minus => rfl

/-- What spells an integer has the decimal form of the integer as its canonical form. -/
theorem canonical_of_spells (h : t.Spells m s) : canonical s = (write m).toList := by
  obtain ⟨negative, sign, digits, hsign, rfl, hne, hdigits, rfl, -, -⟩ := h
  rw [canonical, splitSign_append hsign hne hdigits, toList_write]
  dsimp only
  rw [dropWhile_zeros hdigits]
  by_cases hzero : digitsValue digits = 0
  · simp [hzero]
  · obtain ⟨d, rest, hdecimal⟩ :=
      List.exists_cons_of_ne_nil (Nat.toDigits_ne_nil (n := digitsValue digits) (b := 10))
    simp [hzero, hdecimal]

/-- The decimal form of an integer in range spells it. -/
theorem spells_write (hleast : t.least ≤ m) (hgreatest : m ≤ t.greatest) :
    t.Spells m (write m).toList := by
  have hdigits : ∀ n, ∀ c ∈ Nat.toDigits 10 n, isDigit c = true :=
    fun n c hc => isDigit_of_mem_toDigits hc
  by_cases hneg : m < 0
  · obtain ⟨n, hn, rfl⟩ : ∃ n : Nat, n ≠ 0 ∧ m = onSide true n :=
      ⟨m.natAbs, by omega, by rw [onSide, if_pos rfl]; omega⟩
    have hsigned : t.signed = true := by
      cases hsigned : t.signed with
      | true => rfl
      | false =>
        rw [least, hsigned, if_neg Bool.false_ne_true] at hleast
        omega
    refine ⟨true, ['-'], Nat.toDigits 10 n, .minus hsigned, ?_, Nat.toDigits_ne_nil, hdigits n, ?_,
      hleast, hgreatest⟩
    · rw [toList_write, if_pos ⟨rfl, hn⟩]
      rfl
    · rw [digitsValue_toDigits]
  · obtain ⟨n, rfl⟩ : ∃ n : Nat, m = onSide false n :=
      ⟨m.toNat, by rw [onSide, if_neg Bool.false_ne_true]; omega⟩
    refine ⟨false, [], Nat.toDigits 10 n, .none, ?_, Nat.toDigits_ne_nil, hdigits n, ?_, hleast,
      hgreatest⟩
    · rw [toList_write, if_neg (by simp)]
      rfl
    · rw [digitsValue_toDigits]

end IntegerType

end Number

namespace Converter

open Number

variable {t : IntegerType} {raw : String} {n : Int}

theorem decode_integer_eq_ok_iff : (integer t).decode raw = .ok n ↔ t.Spells n raw.toList := by
  rw [IntegerType.spells_iff]
  cases hread : t.read raw.toList <;> simp [integer, ofMismatch, hread, Except.mapError]

theorem decode_integer_eq_error_iff : (∃ fault, (integer t).decode raw =
    .error (.conversion raw t.name (.integer fault))) ↔ ∀ n, ¬ t.Spells n raw.toList := by
  simp only [IntegerType.spells_iff]
  cases hread : t.read raw.toList <;> simp [integer, ofMismatch, hread, Except.mapError]

/-- A text is decoded as an integer exactly if it spells the integer, which is in range then; any
other text cannot be converted. All integers in range are decoded as they were encoded, and what is
decoded is encoded in canonical form. -/
theorem decode_integer (t : IntegerType) :
    (∀ raw n, (integer t).decode raw = .ok n ↔ t.Spells n raw.toList) ∧
    (∀ raw, (∃ fault, (integer t).decode raw =
      .error (.conversion raw t.name (.integer fault))) ↔ ∀ n, ¬ t.Spells n raw.toList) ∧
    (∀ n, t.least ≤ n → n ≤ t.greatest →
      (integer t).decode ((integer t).encode n) = .ok n) ∧
    ∀ raw n, (integer t).decode raw = .ok n →
      (integer t).encode n = String.ofList (canonical raw.toList) := by
  refine ⟨fun raw n => decode_integer_eq_ok_iff, fun raw => decode_integer_eq_error_iff,
    fun n hleast hgreatest => ?_, fun raw n h => ?_⟩
  · exact decode_integer_eq_ok_iff.2 (IntegerType.spells_write hleast hgreatest)
  · rw [IntegerType.canonical_of_spells (decode_integer_eq_ok_iff.1 h), String.ofList_toList]
    rfl

/-- The least integer of eight bits, which has no counterpart above zero, with zeros in front. -/
theorem decode_integer_of_least :
    ((integer ⟨true, .w8⟩).decode "-00128" = .ok (-128) ∧
      (⟨true, .w8⟩ : IntegerType).least ≤ -128 ∧ -128 ≤ (⟨true, .w8⟩ : IntegerType).greatest) ∧
    IntegerType.Spells ⟨true, .w8⟩ (-128) "-00128".toList ∧
      (integer ⟨true, .w8⟩).decode ((integer ⟨true, .w8⟩).encode (-128)) = .ok (-128) ∧
      (integer ⟨true, .w8⟩).encode (-128) = String.ofList (canonical "-00128".toList) ∧
      ∀ n, ¬ IntegerType.Spells ⟨true, .w8⟩ n "+128".toList := by
  have hdecode : (integer ⟨true, .w8⟩).decode "-00128" = .ok (-128) := by decide +kernel
  have hleast : (⟨true, .w8⟩ : IntegerType).least ≤ -128 := by decide
  have hgreatest : -128 ≤ (⟨true, .w8⟩ : IntegerType).greatest := by decide
  obtain ⟨hspells, hrefused, hencode, hcanonical⟩ := decode_integer ⟨true, .w8⟩
  have hlarge : (integer ⟨true, .w8⟩).decode "+128" =
      .error (.conversion "+128" "i8" (.integer .tooLarge)) := by decide +kernel
  exact ⟨⟨hdecode, hleast, hgreatest⟩, (hspells _ _).1 hdecode, hencode _ hleast hgreatest,
    hcanonical _ _ hdecode, (hrefused _).1 ⟨.tooLarge, hlarge⟩⟩

end Converter

end Strata
