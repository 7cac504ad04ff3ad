import Mathlib.Data.List.TakeWhile
import Strata.Proofs.Integers
import Strata.Proofs.Rounding
import Strata.Proofs.Texts
import Strata.Timespan

/-!
Spans of time that are written and read again. Each number that is written of a span is read
exactly, and so are its products with the units, for they fit into binary numbers of 64 bits; only
the product of the days with their unit may be more than reading takes (`product?_ofNat`,
`product?_ofNat_eq_none`). So the text of a span is read as that span if it is shorter than
213504 days, and is refused otherwise (`parse_format`).
-/

namespace Strata

open Number Text

/-! ### Texts -/

namespace Text

/-- A digit or a small letter of ASCII. -/
def IsSimple (c : Char) : Prop :=
  48 ≤ c.toNat ∧ c.toNat ≤ 57 ∨ 97 ≤ c.toNat ∧ c.toNat ≤ 122

instance (c : Char) : Decidable (IsSimple c) := inferInstanceAs (Decidable (_ ∨ _))

theorem IsSimple.isBlank_eq {c : Char} (h : IsSimple c) : isBlank c = false := by
  rw [IsSimple] at h
  simp [isBlank, inRanges, blankRanges]
  omega

theorem IsSimple.lowerChar_eq {c : Char} (h : IsSimple c) : lowerChar c = c := by
  rw [IsSimple] at h
  rw [lowerChar, if_pos (by omega)]
  refine dif_neg ?_
  rintro ⟨h₁, h₂⟩
  have h₁ : 65 ≤ c.toNat := h₁
  have h₂ : c.toNat ≤ 90 := h₂
  omega

theorem trim_eq_self {s : List Char} (h : ∀ c ∈ s, IsSimple c) : trim s = s :=
  trim_eq_self_of_forall fun c hc => (h c hc).isBlank_eq

theorem lower_eq_self {s : List Char} (h : ∀ c ∈ s, IsSimple c) : lower s = s := by
  apply lower_eq_self_of_forall
  intro c hc
  have hcapital : ∀ d, ¬ IsSimple d → c ≠ d := by
    rintro d hd rfl
    exact hd (h c hc)
  exact ⟨hcapital 'Σ' (by decide), hcapital 'İ' (by decide), (h c hc).lowerChar_eq⟩

end Text

/-! ### Numbers -/

namespace Number

/-- The digits of a number are read as the binary number nearest to it. -/
theorem read_toDigits {n : Nat} (hn : 0 < n) (hlt : n < 2 ^ 53) :
    BinaryFormat.double.read (Nat.toDigits 10 n) = .ok (BinaryFormat.double.ofNat n) := by
  have hdigit : ∀ c ∈ Nat.toDigits 10 n, isDigit c = true := fun c => isDigit_of_mem_toDigits
  have hsign : splitSign (Nat.toDigits 10 n) = (false, Nat.toDigits 10 n) := by
    unfold splitSign
    split
    · rename_i heq
      exact absurd (hdigit '-' (heq ▸ List.mem_cons_self)) (by decide)
    · rename_i heq
      exact absurd (hdigit '+' (heq ▸ List.mem_cons_self)) (by decide)
    · rfl
  have hsplit : splitDecimal (Nat.toDigits 10 n) = (Nat.toDigits 10 n, [], []) := by
    rw [splitDecimal, List.takeWhile_eq_self_iff.2 hdigit, List.dropWhile_eq_nil_iff.2 hdigit]
  have hlength : (Nat.toDigits 10 n).length ≤ 16 :=
    (Nat.length_toDigits_le_iff (by decide) (by decide)).2 (by omega)
  have hdecimal : BinaryFormat.double.ofDecimal false n 0 = BinaryFormat.double.ofNat n := by
    rw [BinaryFormat.ofDecimal, if_neg hn.ne']
    dsimp only
    rw [if_neg (by omega), if_neg (by omega)]
    simp [BinaryFormat.ofNat]
  have hread : BinaryFormat.double.readUnsigned false (Nat.toDigits 10 n) =
      some (BinaryFormat.double.ofNat n) := by
    rw [BinaryFormat.readUnsigned, hsplit]
    simp [readExponent, digitsValue_toDigits, hdecimal]
  rw [BinaryFormat.read, hsign]
  simp [hread]

end Number

namespace Timespan

variable {q size base n more offset : Nat} {number unit rest t : List Char}

/-! ### Segments -/

/-- The product of a number with a unit, if it is exact. -/
theorem product?_ofNat (hq : 0 < q) (hlt : q < 2 ^ 53) (hsize : 0 < size) (hfits : Fits size)
    (hproduct : Fits (q * size)) (hle : q * size ≤ 2 ^ 64) :
    product? (BinaryFormat.double.ofNat q) size = some (q * size) := by
  have hbound : size ≤ 2 ^ 64 := (Nat.le_mul_of_pos_left size hq).trans hle
  obtain ⟨den, hden, hmul⟩ := BinaryFormat.exists_mul_eq
    (BinaryFormat.ofNat_isNat hq (fits_of_lt hlt) (by omega))
    (BinaryFormat.ofNat_isNat hsize hfits (by omega))
  obtain ⟨m, e, hround, hvalue⟩ :=
    BinaryFormat.round_isNat (Nat.mul_pos hq hsize) hden hproduct (by omega)
  have hscale : m * scaleUp e = q * size * scaleUp (-e) := by
    have hcast : (m * scaleUp e : ℚ) = (q * size : Nat) * scaleUp (-e) := by
      rw [← hvalue, cast_scaleUp, mul_assoc]
    exact_mod_cast hcast
  rw [product?, hmul, hround]
  dsimp only
  rw [hscale, if_neg, roundHalfUp_mul (scaleUp_pos _)]
  exact Nat.not_lt.2 (Nat.mul_le_mul_right _ hle)

/-- A product well above what a segment may be. -/
theorem product?_ofNat_eq_none (hq : 0 < q) (hlt : q < 2 ^ 53) (hsize : 0 < size)
    (hfits : Fits size) (hbound : size ≤ 2 ^ 64) (hexceeds : 2 ^ 64 + 2 ^ 12 ≤ q * size) :
    product? (BinaryFormat.double.ofNat q) size = none := by
  obtain ⟨den, hden, hmul⟩ := BinaryFormat.exists_mul_eq
    (BinaryFormat.ofNat_isNat hq (fits_of_lt hlt) (by omega))
    (BinaryFormat.ofNat_isNat hsize hfits (by omega))
  rw [product?, hmul]
  rcases BinaryFormat.round_exceeds hden hexceeds with hround | ⟨m, e, hround, he, hlt⟩
  · rw [hround]
  · rw [hround]
    dsimp only
    rw [if_pos]
    rwa [scaleUp_of_nonpos (e := -e) (by omega), Nat.mul_one]

theorem segment_toDigits (hq : 0 < q) (hlt : q < 2 ^ 53) (hunit : unitNanos? unit = some size) :
    segment (Nat.toDigits 10 q) unit =
      match product? (BinaryFormat.double.ofNat q) size with
      | none => .error .overflow
      | some nanos => .ok nanos := by
  have hne : unit.isEmpty = false := by
    cases unit with
    | nil => cases hunit
    | cons c unit => rfl
  cases hproduct : product? (BinaryFormat.double.ofNat q) size <;>
    simp only [segment, read_toDigits hq hlt, hne, if_neg Bool.false_ne_true, hunit, hproduct]

theorem isNumeral_of_mem_toDigits {c : Char} (hc : c ∈ Nat.toDigits 10 q) : isNumeral c = true := by
  rw [isNumeral, isDigit_of_mem_toDigits hc, Bool.true_or]

/-- The first segment of a text. -/
theorem segments_append (hnumber : number ≠ []) (hnumerals : ∀ c ∈ number, isNumeral c = true)
    (hunit : unit ≠ []) (hletters : ∀ c ∈ unit, isNumeral c = false)
    (hrest : ∀ c ∈ rest.head?, isNumeral c = true) :
    segments offset (number ++ (unit ++ rest)) =
      match segment number unit with
      | .error e => .error e
      | .ok nanos =>
        match segments (offset + byteLength number + byteLength unit) rest with
        | .error e => .error e
        | .ok more => .ok (nanos + more) := by
  have hletter : ∀ s : List Char, (unit ++ s).takeWhile isNumeral = [] ∧
      (unit ++ s).dropWhile isNumeral = unit ++ s := by
    intro s
    cases unit with
    | nil => exact absurd rfl hunit
    | cons c unit => simp [hletters c List.mem_cons_self]
  have hend : rest.takeWhile (fun c => !isNumeral c) = [] ∧
      rest.dropWhile (fun c => !isNumeral c) = rest := by
    cases rest with
    | nil => exact ⟨rfl, rfl⟩
    | cons c rest => simp [hrest c rfl]
  have htake : (number ++ (unit ++ rest)).takeWhile isNumeral = number := by
    rw [List.takeWhile_append_of_pos hnumerals, (hletter rest).1, List.append_nil]
  have hdrop : (number ++ (unit ++ rest)).dropWhile isNumeral = unit ++ rest := by
    rw [List.dropWhile_append_of_pos hnumerals, (hletter rest).2]
  have hlower : ∀ c ∈ unit, (!isNumeral c) = true := fun c hc => by rw [hletters c hc]; rfl
  rw [segments, dif_neg (by simp [hnumber])]
  simp only [htake, hdrop]
  have hunit' : (unit ++ rest).takeWhile (fun c => !isNumeral c) = unit := by
    rw [List.takeWhile_append_of_pos hlower, hend.1, List.append_nil]
  have hrest' : (unit ++ rest).dropWhile (fun c => !isNumeral c) = rest := by
    rw [List.dropWhile_append_of_pos hlower, hend.2]
  rcases hfirst : segment number unit with e | nanos <;>
    rcases hmore : segments (offset + byteLength number + byteLength unit) rest with e' | more <;>
      exact (dif_neg (by simpa using hnumber)).trans (by simp only [hunit', hrest', hfirst, hmore])

/-! ### The text of a span -/

/-- What is written of a number of units, the greatest first. -/
def spelled (n : Nat) (units : List (String × Nat)) : List Char :=
  (split n units).flatMap String.toList

/-- A text that does not begin in the midst of a segment is read as a number of nanoseconds. -/
structure Spells (n : Nat) (t : List Char) : Prop where
  segments_eq : ∀ offset, segments offset t = .ok n
  head : ∀ c ∈ t.head?, isNumeral c = true

theorem spells_nil : Spells 0 [] :=
  ⟨fun offset => by rw [segments, dif_pos rfl], fun _ hc => by cases hc⟩

theorem spelled_cons (n : Nat) (unit : String) (size : Nat) (units : List (String × Nat)) :
    spelled n ((unit, size) :: units) =
      if size ≤ n then Nat.toDigits 10 (n / size) ++ (unit.toList ++ spelled (n % size) units)
      else spelled n units := by
  rw [spelled, split]
  split
  · simp [spelled]
  · rfl

/-- The first segment of what is written of a number of units. -/
theorem segments_spelled_cons (unit : String) (base offset : Nat) {units : List (String × Nat)}
    (hsize : 0 < size) (hle : size ≤ n) (hlt : n / size < 2 ^ 53)
    (hunit : unitNanos? unit.toList = some (size * base))
    (hletters : unit.toList.any isNumeral = false)
    (hhead : ∀ c ∈ (spelled (n % size) units ++ t).head?, isNumeral c = true) :
    segments offset (spelled n ((unit, size) :: units) ++ t) =
      match product? (BinaryFormat.double.ofNat (n / size)) (size * base) with
      | none => .error .overflow
      | some nanos =>
        match segments (offset + byteLength (Nat.toDigits 10 (n / size)) + byteLength unit.toList)
          (spelled (n % size) units ++ t) with
        | .error e => .error e
        | .ok more => .ok (nanos + more) := by
  have hne : unit.toList ≠ [] := by
    intro h
    rw [h] at hunit
    cases hunit
  rw [spelled_cons, if_pos hle, List.append_assoc, List.append_assoc,
    segments_append Nat.toDigits_ne_nil (fun c => isNumeral_of_mem_toDigits) hne
      (fun c hc => Bool.eq_false_iff.2 (List.any_eq_false.1 hletters c hc)) hhead,
    segment_toDigits (Nat.div_pos hle hsize) hlt hunit]
  cases product? (BinaryFormat.double.ofNat (n / size)) (size * base) <;> rfl

/-- A number of units is read as it is written if the products with the units are exact. -/
theorem Spells.cons (unit : String) {units : List (String × Nat)}
    (hunit : unitNanos? unit.toList = some (size * base))
    (hletters : unit.toList.any isNumeral = false) (hbase : 0 < size * base)
    (hfits : Fits (size * base)) (hlt : n / size < 2 ^ 53)
    (hproduct : Fits (n / size * (size * base))) (hle : n / size * (size * base) ≤ 2 ^ 64)
    (h : Spells (n % size * base + more) (spelled (n % size) units ++ t)) :
    Spells (n * base + more) (spelled n ((unit, size) :: units) ++ t) := by
  have hsize : 0 < size := Nat.pos_of_mul_pos_right hbase
  by_cases hn : size ≤ n
  · have hpos : 0 < n / size := Nat.div_pos hn hsize
    refine ⟨fun offset => ?_, ?_⟩
    · rw [segments_spelled_cons unit base offset hsize hn hlt hunit hletters h.head,
        product?_ofNat hpos hlt hbase hfits hproduct hle, h.segments_eq]
      have hsum : n / size * (size * base) + (n % size * base + more) = n * base + more := by
        conv_rhs => rw [← Nat.div_add_mod n size]
        ring
      simp only [hsum]
    · rw [spelled_cons, if_pos hn]
      intro c hc
      cases hdigits : Nat.toDigits 10 (n / size) with
      | nil => exact absurd hdigits Nat.toDigits_ne_nil
      | cons d digits =>
        rw [hdigits] at hc
        cases hc
        exact isNumeral_of_mem_toDigits (hdigits ▸ List.mem_cons_self)
  · rw [Nat.mod_eq_of_lt (Nat.lt_of_not_le hn)] at h
    rwa [spelled_cons, if_neg hn]

/-- The units of whole seconds. -/
def secondUnits : List (String × Nat) := [("d", 86400), ("h", 3600), ("m", 60), ("s", 1)]

/-- The units of nanoseconds below one second. -/
def nanoUnits : List (String × Nat) := [("ms", 1000000), ("us", 1000), ("ns", 1)]

theorem toList_format {d : Timespan} (h : d.isZero = false) :
    d.format.toList = spelled d.secs secondUnits ++ spelled d.nanos nanoUnits := by
  rw [format, h, if_neg Bool.false_ne_true, String.toList_join, List.flatMap_append]
  rfl

theorem spells_nanos {nanos : Nat} (h : nanos < 1000000000) :
    Spells nanos (spelled nanos nanoUnits) := by
  have hend : Spells (nanos % 1000000 % 1000 % 1 * 1 + 0)
      (spelled (nanos % 1000000 % 1000 % 1) [] ++ []) := by
    rw [Nat.mod_one]
    exact spells_nil
  have hns := Spells.cons "ns" rfl (by decide) (by decide)
    (fits_of_lt (by omega)) (by omega) (fits_of_lt (by omega)) (by omega) hend
  have hus := Spells.cons "us" rfl (by decide) (by decide)
    (fits_of_lt (by omega)) (by omega) (fits_of_lt (by omega)) (by omega) hns
  have hms := Spells.cons "ms" rfl (by decide) (by decide)
    (fits_of_lt (by omega)) (by omega) (fits_of_lt (by omega)) (by omega) hus
  rwa [Nat.mul_one, Nat.add_zero, List.append_nil] at hms

theorem spells_below_days {secs : Nat} (h : secs < 86400) (ht : Spells more t) :
    Spells (secs * 1000000000 + more) (spelled secs secondUnits.tail ++ t) := by
  have hend : Spells (secs % 3600 % 60 % 1 * 1000000000 + more)
      (spelled (secs % 3600 % 60 % 1) [] ++ t) := by
    rw [Nat.mod_one, Nat.zero_mul, Nat.zero_add]
    exact ht
  have hs := Spells.cons "s" rfl (by decide) (by decide)
    (fits_of_lt (by omega)) (by omega) (fits_of_lt (by omega)) (by omega) hend
  have hm := Spells.cons "m" rfl (by decide) (by decide)
    (fits_of_lt (by omega)) (by omega) (fits_of_lt (by omega)) (by omega) hs
  exact Spells.cons "h" rfl (by decide) (by decide)
    (fits_of_lt (by omega)) (by omega) (fits_of_lt (by omega)) (by omega) hm

/-- The text of a span below 213504 days is read as the nanoseconds of the span. -/
theorem spells_of_lt {secs : Nat} (h : secs < 213504 * 86400) (ht : Spells more t) :
    Spells (secs * 1000000000 + more) (spelled secs secondUnits ++ t) := by
  have hdays : Fits (secs / 86400 * (86400 * 1000000000)) := by
    have hfits := fits_mul_pow (k := secs / 86400 * 1318359375) (by omega) 16
    rwa [Nat.mul_assoc] at hfits
  exact Spells.cons "d" rfl (by decide) (by decide) (fits_of_lt (by omega)) (by omega)
    hdays (by omega) (spells_below_days (Nat.mod_lt _ (by decide)) ht)

/-- The days of a longer span are more than a segment may be. -/
theorem segments_eq_overflow {secs : Nat} (offset : Nat) (h : 213504 * 86400 ≤ secs)
    (hlt : secs < 18446744073709551616) (ht : Spells more t) :
    segments offset (spelled secs secondUnits ++ t) = .error .overflow := by
  have hbelow := spells_below_days (Nat.mod_lt secs (by decide)) ht
  have hexceeds : product? (BinaryFormat.double.ofNat (secs / 86400)) (86400 * 1000000000) = none :=
    product?_ofNat_eq_none (by omega) (by omega) (by decide) (fits_of_lt (by omega)) (by omega)
      (by omega)
  have hdays := segments_spelled_cons "d" 1000000000 offset (by decide) (by omega) (by omega) rfl
    (by decide) hbelow.head
  rwa [hexceeds] at hdays

theorem isSimple_of_mem_spelled {units : List (String × Nat)}
    (hunits : ∀ u ∈ units, u.1.toList.all (IsSimple ·)) :
    ∀ {n : Nat} {c : Char}, c ∈ spelled n units → IsSimple c := by
  induction units with
  | nil => exact fun hc => by cases hc
  | cons u units ih =>
    intro n c hc
    have hrest : ∀ {n : Nat} {c : Char}, c ∈ spelled n units → IsSimple c :=
      ih fun u' hu' => hunits u' (List.mem_cons_of_mem u hu')
    rw [spelled_cons] at hc
    split at hc
    · rcases List.mem_append.1 hc with hc | hc
      · exact .inl (Char.isDigit_iff_toNat.1
          (Nat.isDigit_of_mem_toDigits (by decide) (by decide) hc))
      · rcases List.mem_append.1 hc with hc | hc
        · exact of_decide_eq_true (List.all_eq_true.1 (hunits u List.mem_cons_self) c hc)
        · exact hrest hc
    · exact hrest hc

theorem parse_of_segments {text : String} {d : Timespan}
    (hsimple : ∀ c ∈ text.toList, IsSimple c) (hne : text.toList ≠ [])
    (hsegments : segments 0 text.toList = .ok n) (hspan : ofNanos? n = some d) :
    parse text = .ok d := by
  rw [parse, trim_eq_self hsimple, lower_eq_self hsimple, if_neg (by simpa using hne)]
  simp only [hsegments, hspan]

theorem parse_of_segments_error {text : String} {e : Fault}
    (hsimple : ∀ c ∈ text.toList, IsSimple c) (hne : text.toList ≠ [])
    (hsegments : segments 0 text.toList = .error e) : parse text = .error e := by
  rw [parse, trim_eq_self hsimple, lower_eq_self hsimple, if_neg (by simpa using hne)]
  simp only [hsegments]

theorem ofNanos?_totalNanos (d : Timespan) : ofNanos? d.totalNanos = some d := by
  obtain ⟨secs, nanos, hsecs, hnanos⟩ := d
  have hdiv : (secs * 1000000000 + nanos) / 1000000000 = secs := by omega
  have hmod : (secs * 1000000000 + nanos) % 1000000000 = nanos := by omega
  simp only [totalNanos, ofNanos?, hdiv, hmod]
  exact dif_pos hsecs

/-- The text of a span is read as that span if it is shorter than 213504 days. Otherwise it is
refused. -/
theorem parse_format (d : Timespan) : parse d.format =
    if d.secs < 213504 * 86400 then .ok d else .error .overflow := by
  cases hzero : d.isZero with
  | true =>
    obtain ⟨secs, nanos, hsecs, hnanos⟩ := d
    simp only [isZero, Bool.and_eq_true, beq_iff_eq] at hzero
    obtain ⟨rfl, rfl⟩ := hzero
    have htext : (⟨0, 0, hsecs, hnanos⟩ : Timespan).format = "0s" := if_pos rfl
    have hread : parse "0s" = .ok ⟨0, 0, hsecs, hnanos⟩ := by decide +kernel +revert
    rw [htext, hread, if_pos (Nat.mul_pos (by decide) (by decide))]
  | false =>
    have hnanos := spells_nanos d.nanos_lt
    have htext := toList_format hzero
    have hsimple : ∀ c ∈ d.format.toList, IsSimple c := by
      rw [htext]
      intro c hc
      rcases List.mem_append.1 hc with hc | hc
      · exact isSimple_of_mem_spelled (by decide) hc
      · exact isSimple_of_mem_spelled (by decide) hc
    have hempty : segments 0 [] = .ok 0 := spells_nil.segments_eq 0
    by_cases hlt : d.secs < 213504 * 86400
    · have hsegments : segments 0 d.format.toList = .ok d.totalNanos := by
        rw [htext]
        exact (spells_of_lt hlt hnanos).segments_eq 0
      have hne : d.format.toList ≠ [] := by
        intro h
        rw [h, hempty, Except.ok.injEq, totalNanos] at hsegments
        simp only [isZero, Bool.and_eq_false_iff, beq_eq_false_iff_ne] at hzero
        omega
      rw [parse_of_segments hsimple hne hsegments (ofNanos?_totalNanos d), if_pos hlt]
    · have hsegments : segments 0 d.format.toList = .error .overflow := by
        rw [htext]
        exact segments_eq_overflow 0 (Nat.le_of_not_lt hlt) d.secs_lt hnanos
      have hne : d.format.toList ≠ [] := by
        intro h
        rw [h, hempty] at hsegments
        cases hsegments
      rw [parse_of_segments_error hsimple hne hsegments, if_neg hlt]

/-- The text of a span is read as that span and as no other one exactly if the span is shorter than
213504 days. For a longer one reading says that there is an overflow, and nothing else. -/
theorem parse_format_eq_iff (d : Timespan) :
    (∀ d', parse d.format = .ok d' ↔ d' = d ∧ d.totalNanos < 213504 * 86400 * 1000000000) ∧
      ∀ e, parse d.format = .error e ↔
        e = .overflow ∧ 213504 * 86400 * 1000000000 ≤ d.totalNanos := by
  have hnanos : d.totalNanos < 213504 * 86400 * 1000000000 ↔ d.secs < 213504 * 86400 := by
    have hlt := d.nanos_lt
    rw [totalNanos]
    omega
  rw [← Nat.not_lt, hnanos, parse_format]
  by_cases hlt : d.secs < 213504 * 86400
  · rw [if_pos hlt]
    refine ⟨fun d' => ⟨fun h => ⟨(Except.ok.inj h).symm, hlt⟩, fun h => by rw [h.1]⟩, fun e => ?_⟩
    exact ⟨fun h => (by cases h), fun h => absurd hlt h.2⟩
  · rw [if_neg hlt]
    refine ⟨fun d' => ⟨fun h => (by cases h), fun h => absurd h.2 hlt⟩, fun e => ?_⟩
    exact ⟨fun h => ⟨(Except.error.inj h).symm, hlt⟩, fun h => by rw [h.1]⟩

end Timespan

end Strata
