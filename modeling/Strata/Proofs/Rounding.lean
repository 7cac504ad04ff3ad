import Mathlib.Data.Rat.Cast.Order
import Mathlib.Tactic.FieldSimp
import Mathlib.Tactic.Linarith
import Mathlib.Tactic.Positivity
import Mathlib.Tactic.Ring
import Strata.Number.Binary

/-!
Rounding natural numbers to binary ones of 64 bits. A number with at most 53 bits between its first
and its last one is not changed (`round_isNat`), so products of such numbers are exact if they are
such numbers again; a number well above `2 ^ 64` stays above it (`round_exceeds`).
-/

namespace Strata.Number

/-! ### Quotients -/

theorem roundHalfEven_mul {q d : Nat} (hd : 0 < d) : roundHalfEven (q * d) d = q := by
  have hq : q * d / d = q := Nat.mul_div_cancel q hd
  rw [roundHalfEven, hq, Nat.mul_mod_left, Nat.mul_zero, if_pos hd]

theorem le_roundHalfEven (num den : Nat) : num / den ≤ roundHalfEven num den := by
  rw [roundHalfEven]
  split
  · exact Nat.le_refl _
  · split <;> omega

theorem roundHalfUp_mul {q d : Nat} (hd : 0 < d) : roundHalfUp (q * d) d = q := by
  have hsum : 2 * (q * d) + d = d + (2 * d) * q := by ring
  rw [roundHalfUp, hsum, Nat.add_mul_div_left _ _ (by omega), Nat.div_eq_of_lt (by omega),
    Nat.zero_add]

/-! ### Powers of two -/

theorem scaleUp_pos (e : Int) : 0 < scaleUp e := Nat.two_pow_pos _

theorem scaleUp_of_nonpos {e : Int} (h : e ≤ 0) : scaleUp e = 1 := by
  rw [scaleUp, Int.toNat_of_nonpos h, Nat.pow_eq, Nat.pow_zero]

theorem cast_scaleUp (e : Int) : (scaleUp e : ℚ) = 2 ^ e * scaleUp (-e) := by
  rcases Int.le_total 0 e with h | h
  · obtain ⟨n, rfl⟩ := Int.eq_ofNat_of_zero_le h
    rw [scaleUp_of_nonpos (e := -_) (by omega), Nat.cast_one, mul_one]
    simp [scaleUp]
  · obtain ⟨n, hn⟩ := Int.eq_ofNat_of_zero_le (Int.neg_nonneg_of_nonpos h)
    obtain rfl : e = -n := by omega
    rw [scaleUp_of_nonpos h, neg_neg]
    simp [scaleUp]

/-- A number whose bits from the first to the last one are at most 53. -/
def Fits (n : Nat) : Prop := 2 ^ (n.log2 - 52) ∣ n

theorem fits_mul_pow {k : Nat} (hk : k < 2 ^ 53) (s : Nat) : Fits (k * 2 ^ s) := by
  rcases Nat.eq_zero_or_pos k with rfl | hpos
  · rw [Nat.zero_mul]
    exact Nat.dvd_zero _
  · have hlt : k * 2 ^ s < 2 ^ (53 + s) := by
      rw [Nat.pow_add]
      exact Nat.mul_lt_mul_of_pos_right hk (Nat.two_pow_pos s)
    have hlog := (Nat.log2_lt (Nat.mul_pos hpos (Nat.two_pow_pos s)).ne').2 hlt
    exact (Nat.pow_dvd_pow 2 (by omega)).trans (Nat.dvd_mul_left _ _)

theorem fits_of_lt {n : Nat} (h : n < 2 ^ 53) : Fits n := by
  rw [← Nat.mul_one n]
  exact fits_mul_pow h 0

/-- A binary number is a natural number. -/
def Binary.IsNat (x : Binary) (n : Nat) : Prop := ∃ m e, x = .finite false m e ∧ (m : ℚ) * 2 ^ e = n

namespace BinaryFormat

variable {n den : Nat}

/-- The unit of a natural number is the power of two with which it has 53 digits. -/
theorem unitExponent_eq (hn : 0 < n) (hden : 0 < den) :
    double.unitExponent (n * den) den = (n.log2 : Int) - 52 := by
  have hlower : 2 ^ n.log2 ≤ n := Nat.log2_self_le hn.ne'
  have hupper : n < 2 ^ (n.log2 + 1) := Nat.lt_log2_self
  have hproduct := (Nat.mul_pos hn hden).ne'
  have hle : n.log2 + den.log2 ≤ (n * den).log2 := by
    rw [Nat.le_log2 hproduct, Nat.pow_add]
    exact Nat.mul_le_mul hlower (Nat.log2_self_le hden.ne')
  have hlt : (n * den).log2 < n.log2 + 1 + (den.log2 + 1) := by
    rw [Nat.log2_lt hproduct, Nat.pow_add]
    exact Nat.mul_lt_mul'' hupper Nat.lt_log2_self
  have hexact : (if n * den * scaleUp (-(((n * den).log2 : Int) - den.log2)) <
      den * scaleUp (((n * den).log2 : Int) - den.log2) then ((n * den).log2 : Int) - den.log2 - 1
      else ((n * den).log2 : Int) - den.log2) = n.log2 := by
    rw [scaleUp_of_nonpos (e := -_) (by omega), Nat.mul_one, Nat.mul_comm n den]
    have hlog : (n * den).log2 = n.log2 + den.log2 ∨ (n * den).log2 = n.log2 + 1 + den.log2 := by
      omega
    rcases hlog with h | h
    · have hguess : ((n * den).log2 : Int) - den.log2 = n.log2 := by omega
      rw [Nat.mul_comm den n, hguess, scaleUp, Int.toNat_natCast, if_neg]
      rw [Nat.mul_comm n den, Nat.not_lt]
      exact Nat.mul_le_mul_left den hlower
    · have hguess : ((n * den).log2 : Int) - den.log2 = (n.log2 + 1 : Nat) := by omega
      rw [Nat.mul_comm den n, hguess, scaleUp, Int.toNat_natCast, if_pos]
      · omega
      · rw [Nat.mul_comm n den]
        exact Nat.mul_lt_mul_of_pos_left hupper hden
  rw [unitExponent, hexact]
  simp only [double]
  omega

/-- A natural number is rounded to a whole number of its units. If there are `2 ^ 53` of them, they
are half as many of twice the unit. -/
theorem round_eq (hn : 0 < n) (hden : 0 < den) {e : Int} {m : Nat} (he : e = (n.log2 : Int) - 52)
    (hm : m = roundHalfEven (n * den * scaleUp (-e)) (den * scaleUp e)) :
    double.round false (n * den) den =
      if m = 2 ^ 53 then if 971 < e + 1 then .infinite false else .finite false (2 ^ 52) (e + 1)
      else if 971 < e then .infinite false
      else if m = 0 then .zero false else .finite false m e := by
  rw [round, if_neg (Nat.mul_pos hn hden).ne', unitExponent_eq hn hden, ← he]
  dsimp only
  rw [← hm]
  by_cases h : m = 2 ^ 53
  · rw [h]
    rfl
  · have hbits : m ≠ Nat.pow 2 double.precision := h
    rw [if_neg hbits, if_neg h]
    rfl

/-- A number that fits is not changed. -/
theorem round_isNat (hn : 0 < n) (hden : 0 < den) (hfits : Fits n) (hlt : n < 2 ^ 128) :
    (double.round false (n * den) den).IsNat n := by
  obtain ⟨e, he⟩ : ∃ e, e = (n.log2 : Int) - 52 := ⟨_, rfl⟩
  obtain ⟨m, hm⟩ : ∃ m, m = roundHalfEven (n * den * scaleUp (-e)) (den * scaleUp e) := ⟨_, rfl⟩
  have hlog : n.log2 < 128 := (Nat.log2_lt hn.ne').2 hlt
  have hvalue : (m : ℚ) * 2 ^ e = n := by
    rcases Int.le_total e 0 with h | h
    · rw [scaleUp_of_nonpos h, Nat.mul_one, Nat.mul_right_comm, roundHalfEven_mul hden] at hm
      have hone := cast_scaleUp e
      rw [scaleUp_of_nonpos h, Nat.cast_one] at hone
      rw [hm, Nat.cast_mul, mul_assoc, mul_comm (scaleUp (-e) : ℚ), ← hone, mul_one]
    · rw [scaleUp_of_nonpos (e := -e) (by omega), Nat.mul_one] at hm
      obtain ⟨q, hq⟩ : scaleUp e ∣ n := by
        rw [scaleUp, show e.toNat = n.log2 - 52 by omega]
        exact hfits
      have hquotient : n * den = q * (den * scaleUp e) := by
        rw [hq]
        ring
      rw [hquotient, roundHalfEven_mul (Nat.mul_pos hden (scaleUp_pos e))] at hm
      have hcast := cast_scaleUp e
      rw [scaleUp_of_nonpos (e := -e) (by omega), Nat.cast_one, mul_one] at hcast
      rw [hm, hq, Nat.cast_mul, hcast, mul_comm]
  have hpos : 0 < m := by
    rcases Nat.eq_zero_or_pos m with h | h
    · rw [h, Nat.cast_zero, zero_mul] at hvalue
      exact absurd (Nat.cast_eq_zero.1 hvalue.symm) hn.ne'
    · exact h
  have hbits : m < 2 ^ 53 := by
    have hupper : (n : ℚ) < 2 ^ (n.log2 + 1) := by exact_mod_cast Nat.lt_log2_self
    have hsplit : (2 : ℚ) ^ (n.log2 + 1) = 2 ^ 53 * 2 ^ e := by
      rw [← zpow_natCast, ← zpow_natCast, ← zpow_add₀ (by norm_num), he]
      congr 1
      push_cast
      ring
    rw [← hvalue, hsplit] at hupper
    exact_mod_cast lt_of_mul_lt_mul_right hupper (zpow_pos (by norm_num) e).le
  refine ⟨m, e, ?_, hvalue⟩
  rw [round_eq hn hden he hm, if_neg hbits.ne, if_neg (by omega), if_neg hpos.ne']

/-- A number that is well above `2 ^ 64` is so when it is rounded. -/
theorem round_exceeds (hden : 0 < den) (h : 2 ^ 64 + 2 ^ 12 ≤ n) :
    double.round false (n * den) den = .infinite false ∨ ∃ m e,
      double.round false (n * den) den = .finite false m e ∧ 0 ≤ e ∧ 2 ^ 64 < m * scaleUp e := by
  obtain ⟨e, he⟩ : ∃ e, e = (n.log2 : Int) - 52 := ⟨_, rfl⟩
  obtain ⟨m, hm⟩ : ∃ m, m = roundHalfEven (n * den * scaleUp (-e)) (den * scaleUp e) := ⟨_, rfl⟩
  have hn : 0 < n := by omega
  have hlog : 64 ≤ n.log2 := (Nat.le_log2 hn.ne').2 (by omega)
  have hle : n / scaleUp e ≤ m := by
    have hquotient := le_roundHalfEven (n * den * scaleUp (-e)) (den * scaleUp e)
    rw [← hm, scaleUp_of_nonpos (e := -e) (by omega), Nat.mul_one, Nat.mul_comm n,
      Nat.mul_div_mul_left _ _ hden] at hquotient
    exact hquotient
  have hexceeds : 2 ^ 64 < m * scaleUp e := by
    rcases Nat.eq_or_lt_of_le hlog with heq | hlt
    · have hscale : scaleUp e = 2 ^ 12 := by
        rw [scaleUp, show e.toNat = 12 by omega, Nat.pow_eq]
      rw [hscale] at hle ⊢
      omega
    · have hscale : scaleUp e = 2 ^ (n.log2 - 52) := by
        rw [scaleUp, show e.toNat = n.log2 - 52 by omega, Nat.pow_eq]
      have hquotient : 2 ^ 52 ≤ n / scaleUp e := by
        rw [hscale, Nat.le_div_iff_mul_le (Nat.two_pow_pos _), ← Nat.pow_add,
          show 52 + (n.log2 - 52) = n.log2 by omega]
        exact Nat.log2_self_le hn.ne'
      have hfactor : 2 ^ 13 ≤ scaleUp e := by
        rw [hscale]
        exact Nat.pow_le_pow_right (by decide) (by omega)
      calc 2 ^ 64 < 2 ^ 52 * 2 ^ 13 := by norm_num
        _ ≤ m * scaleUp e := Nat.mul_le_mul (hquotient.trans hle) hfactor
  rw [round_eq hn hden he hm]
  by_cases hbits : m = 2 ^ 53
  · rw [if_pos hbits]
    by_cases hgreat : 971 < e + 1
    · exact .inl (if_pos hgreat)
    · refine .inr ⟨2 ^ 52, e + 1, if_neg hgreat, by omega, ?_⟩
      have hscale : scaleUp (e + 1) = 2 * scaleUp e := by
        rw [scaleUp, scaleUp, show (e + 1).toNat = e.toNat + 1 by omega, Nat.pow_eq, Nat.pow_eq,
          Nat.pow_succ, Nat.mul_comm]
      rw [hscale]
      rw [hbits] at hexceeds
      omega
  · rw [if_neg hbits]
    by_cases hgreat : 971 < e
    · exact .inl (if_pos hgreat)
    · have hpos : m ≠ 0 := by
        rintro rfl
        rw [Nat.zero_mul] at hexceeds
        omega
      exact .inr ⟨m, e, by rw [if_neg hgreat, if_neg hpos], by omega, hexceeds⟩

/-! ### Arithmetic -/

theorem ofNat_isNat (hn : 0 < n) (hfits : Fits n) (hlt : n < 2 ^ 128) :
    (double.ofNat n).IsNat n := by
  have h := round_isNat hn Nat.one_pos hfits hlt
  rwa [Nat.mul_one] at h

/-- The product of natural numbers is rounded once. -/
theorem exists_mul_eq {x y : Binary} {a b : Nat} (hx : x.IsNat a) (hy : y.IsNat b) :
    ∃ den, 0 < den ∧ double.mul x y = double.round false (a * b * den) den := by
  obtain ⟨m, d, rfl, hm⟩ := hx
  obtain ⟨k, e, rfl, hk⟩ := hy
  refine ⟨scaleUp (-(d + e)), scaleUp_pos _, ?_⟩
  have hvalue : m * k * scaleUp (d + e) = a * b * scaleUp (-(d + e)) := by
    have hcast : (m * k * scaleUp (d + e) : ℚ) = a * b * scaleUp (-(d + e)) := by
      rw [cast_scaleUp, zpow_add₀ (by norm_num), ← hm, ← hk]
      ring
    exact_mod_cast hcast
  rw [mul, hvalue]
  rfl

end BinaryFormat

end Strata.Number
