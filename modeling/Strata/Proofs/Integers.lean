import Mathlib.Data.List.Induction
import Strata.Number.Integer

/-!
Integers that are read digit by digit. A text of digits is the decimal form of its value with zeros
in front (`exists_replicate_toDigits`). Reading checks the range after each digit; as the value moves
away from zero, the range holds all values on the way if it holds the last one. So a text is read
exactly if it consists of a sign that the type has, or of none, and of digits whose value is in range
(`read_eq_ok_iff`).
-/

namespace Strata.Number

variable {k n : Nat} {c : Char} {s digits : List Char}

/-! ### Digits -/

theorem isDigit_iff : isDigit c = true ↔ 48 ≤ c.toNat ∧ c.toNat ≤ 57 := by
  simp only [isDigit, Bool.and_eq_true, decide_eq_true_eq]
  exact Iff.rfl

theorem isDigit_of_mem_toDigits (hc : c ∈ Nat.toDigits 10 n) : isDigit c = true :=
  isDigit_iff.2
    (Char.isDigit_iff_toNat.1 (Nat.isDigit_of_mem_toDigits (by decide) (by decide) hc))

theorem digitValue_eq (c : Char) : digitValue c = c.toNat - 48 := rfl

theorem digitsValue_toDigits (n : Nat) : digitsValue (Nat.toDigits 10 n) = n := by
  have h := Nat.ofDigitChars_ten_toDigits (n := n)
  rwa [Nat.ofDigitChars_eq_foldl] at h

theorem digitsValue_append_singleton (s : List Char) (c : Char) :
    digitsValue (s ++ [c]) = 10 * digitsValue s + digitValue c := by
  simp [digitsValue]

/-- Zeros in front do not count. -/
theorem digitsValue_replicate_append (k : Nat) (s : List Char) :
    digitsValue (List.replicate k '0' ++ s) = digitsValue s := by
  have hzeros : digitsValue (List.replicate k '0') = 0 := by
    induction k with
    | zero => rfl
    | succ k ih =>
      rw [List.replicate_succ', digitsValue_append_singleton, ih]
      rfl
  simp only [digitsValue, List.foldl_append] at hzeros ⊢
  rw [hzeros]

theorem toDigits_digitValue (hc : isDigit c = true) : Nat.toDigits 10 (digitValue c) = [c] := by
  rw [isDigit_iff] at hc
  rw [digitValue_eq, Nat.toDigits_of_lt_base (by omega), List.singleton_inj]
  apply Char.toNat_inj.1
  rw [Nat.toNat_digitChar_of_lt_ten (by omega)]
  omega

/-- A text of digits is the decimal form of its value with zeros in front. -/
theorem exists_replicate_toDigits (hne : digits ≠ []) (h : ∀ c ∈ digits, isDigit c = true) :
    ∃ k, digits = List.replicate k '0' ++ Nat.toDigits 10 (digitsValue digits) := by
  induction digits using List.reverseRecOn with
  | nil => exact absurd rfl hne
  | append_singleton s c ih =>
    have hc : isDigit c = true := h c (by simp)
    have hlast := toDigits_digitValue hc
    by_cases hs : s = []
    · refine ⟨0, ?_⟩
      simp [hs, digitsValue, hlast]
    · obtain ⟨k, hk⟩ := ih hs fun d hd => h d (by simp [hd])
      rw [digitsValue_append_singleton]
      rcases Nat.eq_zero_or_pos (digitsValue s) with hzero | hpos
      · -- Only zeros so far, and the decimal form of zero is one of them.
        refine ⟨k + 1, ?_⟩
        rw [hzero, Nat.toDigits_zero] at hk
        rw [hzero, Nat.mul_zero, Nat.zero_add, hlast, hk, List.replicate_succ']
      · refine ⟨k, ?_⟩
        have hlt : digitValue c < 10 := by
          rw [isDigit_iff] at hc
          rw [digitValue_eq]
          omega
        rw [← Nat.toDigits_append_toDigits (by decide) hpos hlt, hlast, ← List.append_assoc, ← hk]

/-! ### Integers -/

/-- The integer at a distance from zero, on the side that the sign says. -/
def onSide (negative : Bool) (n : Nat) : Int := if negative then -(n : Int) else n

namespace IntegerType

variable {t : IntegerType} {negative : Bool} {m : Int}

/-- Integers nearer to zero on the same side are in range as well. -/
theorem holds_onSide_of_le (hle : k ≤ n) (h : t.holds (onSide negative n) = true) :
    t.holds (onSide negative k) = true := by
  have hleast : t.least ≤ 0 := by
    rw [least]
    split
    · exact Int.neg_nonpos_of_nonneg (Int.natCast_nonneg _)
    · exact Int.le_refl 0
  have hgreatest : 0 ≤ t.greatest := by
    have hpos : 0 < Nat.pow 2 (if t.signed then t.width.bits - 1 else t.width.bits) :=
      Nat.two_pow_pos _
    simp only [greatest, Int.ofNat_eq_natCast]
    omega
  simp only [holds, Bool.and_eq_true, decide_eq_true_eq] at h ⊢
  cases negative <;> simp [onSide] at h ⊢ <;> omega

/-- Further digits are read if the integer that they lead to is in range. -/
theorem readDigits_eq_ok_iff : t.readDigits negative (onSide negative n) s = .ok m ↔
    (∀ c ∈ s, isDigit c = true) ∧
      m = onSide negative (s.foldl (fun n c => 10 * n + digitValue c) n) ∧
      (s ≠ [] → t.holds m = true) := by
  induction s generalizing n with
  | nil =>
    rw [readDigits, Except.ok.injEq]
    constructor
    · rintro rfl
      simp
    · rintro ⟨-, rfl, -⟩
      rfl
  | cons c s ih =>
    have hnext : (if negative then 10 * onSide negative n - digitValue c
        else 10 * onSide negative n + digitValue c) = onSide negative (10 * n + digitValue c) := by
      cases negative
      · simp [onSide]
      · simp [onSide]
        omega
    have hle : ∀ (s : List Char) (n : Nat), n ≤ s.foldl (fun n c => 10 * n + digitValue c) n := by
      intro s
      induction s with
      | nil => exact fun n => Nat.le_refl n
      | cons c s ih => exact fun n => Nat.le_trans (by omega) (ih (10 * n + digitValue c))
    rw [readDigits]
    by_cases hc : isDigit c = true
    · simp only [hc, Bool.not_true, if_neg Bool.false_ne_true, hnext]
      by_cases hholds : t.holds (onSide negative (10 * n + digitValue c)) = true
      · rw [if_pos hholds, ih]
        constructor
        · rintro ⟨hdigits, rfl, hlast⟩
          refine ⟨by simpa [hc] using hdigits, rfl, fun _ => ?_⟩
          cases s with
          | nil => exact hholds
          | cons d s => exact hlast (List.cons_ne_nil d s)
        · rintro ⟨hdigits, rfl, hlast⟩
          exact ⟨fun d hd => hdigits d (List.mem_cons_of_mem c hd), rfl,
            fun _ => hlast (List.cons_ne_nil c s)⟩
      · rw [if_neg hholds]
        constructor
        · intro h
          cases h
        · rintro ⟨-, rfl, hlast⟩
          exact absurd (holds_onSide_of_le (hle s _) (hlast (List.cons_ne_nil c s))) hholds
    · simp [hc]

/-- The signs before the digits of an integer; only a signed type has a minus. -/
inductive IsSign (t : IntegerType) : Bool → List Char → Prop
  | none : IsSign t false []
  | plus : IsSign t false ['+']
  | minus : t.signed = true → IsSign t true ['-']

/-- A text is read as an integer exactly if it is a sign or none, and digits whose value with the
sign is the integer and is in range. -/
theorem read_eq_ok_iff : t.read s = .ok m ↔ ∃ negative sign digits, t.IsSign negative sign ∧
    s = sign ++ digits ∧ digits ≠ [] ∧ (∀ c ∈ digits, isDigit c = true) ∧
      m = onSide negative (digitsValue digits) ∧ t.holds m = true := by
  have hdigits : ∀ {negative : Bool} {digits : List Char}, digits ≠ [] →
      (t.readDigits negative 0 digits = .ok m ↔ (∀ c ∈ digits, isDigit c = true) ∧
        m = onSide negative (digitsValue digits) ∧ t.holds m = true) := by
    intro negative digits hne
    have hzero : (0 : Int) = onSide negative 0 := by cases negative <;> rfl
    rw [hzero, readDigits_eq_ok_iff, digitsValue]
    simp [hne]
  constructor
  · intro h
    unfold read at h
    split at h
    · cases h
    · cases h
    · cases h
    · rename_i digits hne
      have hne : digits ≠ [] := by simpa using hne
      exact ⟨false, ['+'], digits, .plus, rfl, hne, (hdigits hne).1 h⟩
    · rename_i digits hne
      have hne : digits ≠ [] := by simpa using hne
      split at h
      · rename_i hsigned
        exact ⟨true, ['-'], digits, .minus hsigned, rfl, hne, (hdigits hne).1 h⟩
      · cases h
    · rename_i hne _ _ _ _
      exact ⟨false, [], s, .none, rfl, hne, (hdigits hne).1 h⟩
  · rintro ⟨negative, sign, digits, hsign, rfl, hne, hrest⟩
    have hread := (hdigits hne).2 hrest
    obtain ⟨d, digits, rfl⟩ := List.exists_cons_of_ne_nil hne
    cases hsign with
    | none =>
      have hd : isDigit d = true := hrest.1 d List.mem_cons_self
      rw [List.nil_append]
      unfold read
      split <;> simp_all [isDigit_iff]
    | plus => exact hread
    | minus hsigned => simpa [read, hsigned] using hread

end IntegerType

end Strata.Number
