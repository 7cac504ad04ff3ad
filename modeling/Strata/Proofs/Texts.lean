import Mathlib.Data.List.DropRight
import Strata.Text.Blank
import Strata.Text.LowerCase
import Strata.Text.Search

/-!
Trimming, lower-casing and cutting texts. What is trimmed is the text less the blanks at its ends
(`exists_trim`), and nothing is left to trim of it (`trim_trim`). A text without a capital sigma is
lower-cased character by character (`lower_eq_flatMap`), and lower-casing makes no blank into
anything else (`lowerChar_of_isBlank`). Cutting a text at a character gives the pieces that were
joined by it (`split_intercalate`), none of which holds it (`not_mem_of_mem_split`).
-/

namespace Strata.Text

variable {s t before after : List Char} {c : Char}

/-! ### Trimming -/

theorem trimEnd_eq (s : List Char) : trimEnd s = s.rdropWhile isBlank := rfl

theorem trimStart_eq_self_iff : trimStart s = s ↔ ∀ c ∈ s.head?, isBlank c = false := by
  cases s with
  | nil => simp [trimStart]
  | cons c s => simp [trimStart, List.dropWhile_eq_self_iff]

theorem trimEnd_eq_self_iff : trimEnd s = s ↔ ∀ c ∈ s.getLast?, isBlank c = false := by
  rw [trimEnd_eq, List.rdropWhile_eq_self_iff]
  rcases List.eq_nil_or_concat s with rfl | ⟨s, c, rfl⟩ <;> simp

theorem trim_sublist (s : List Char) : (trim s).Sublist s :=
  (List.rdropWhile_prefix _ _).sublist.trans (List.dropWhile_sublist _)

/-- A text is trimmed if it neither begins nor ends with a blank. -/
theorem trim_eq_self_iff : trim s = s ↔
    (∀ c ∈ s.head?, isBlank c = false) ∧ ∀ c ∈ s.getLast?, isBlank c = false := by
  rw [← trimStart_eq_self_iff, ← trimEnd_eq_self_iff]
  constructor
  · intro h
    have hstart : trimStart s = s := by
      refine (List.dropWhile_sublist _).antisymm ?_
      conv_lhs => rw [← h]
      exact (List.rdropWhile_prefix _ _).sublist
    rw [trim, hstart] at h
    exact ⟨hstart, h⟩
  · rintro ⟨hstart, hend⟩
    rw [trim, hstart, hend]

theorem trim_eq_self_of_forall (h : ∀ c ∈ s, isBlank c = false) : trim s = s :=
  trim_eq_self_iff.2 ⟨fun c hc => h c (List.mem_of_mem_head? hc),
    fun c hc => h c (List.mem_of_mem_getLast? hc)⟩

theorem trim_trim (s : List Char) : trim (trim s) = trim s := by
  have hend : trimEnd (trim s) = trim s := List.rdropWhile_idempotent _ _
  have hstart : trimStart (trim s) = trim s := by
    rw [trimStart_eq_self_iff]
    intro c hc
    obtain ⟨rest, hrest⟩ : trim s <+: trimStart s := List.rdropWhile_prefix _ _
    have hhead : (trimStart s).head? = some c := by
      rw [← hrest, List.head?_append, hc]
      rfl
    have hkeep : trimStart (trimStart s) = trimStart s := List.dropWhile_idempotent _ _
    exact trimStart_eq_self_iff.1 hkeep c hhead
  rw [trim, hstart, hend]

/-- Blanks around a text are trimmed. -/
theorem trim_append_append (hbefore : ∀ c ∈ before, isBlank c = true)
    (hafter : ∀ c ∈ after, isBlank c = true) : trim (before ++ s ++ after) = trim s := by
  have hend : ∀ s : List Char, trimEnd (s ++ after) = trimEnd s := by
    intro s
    rw [trimEnd, List.reverse_append, List.dropWhile_append_of_pos, ← trimEnd]
    simpa using hafter
  rw [trim, trim, List.append_assoc, trimStart, List.dropWhile_append_of_pos hbefore]
  by_cases hs : s.dropWhile isBlank = []
  · have hall : ∀ c ∈ s ++ after, isBlank c = true := by
      intro c hc
      rcases List.mem_append.1 hc with hc | hc
      · exact List.dropWhile_eq_nil_iff.1 hs c hc
      · exact hafter c hc
    rw [List.dropWhile_eq_nil_iff.2 hall, trimStart, hs]
  · have hne : (s.dropWhile isBlank).isEmpty = false := by simpa using hs
    rw [List.dropWhile_append, hne, if_neg Bool.false_ne_true, hend, trimStart]

/-- Every text is what trimming leaves of it, with blanks around. -/
theorem exists_trim (s : List Char) : ∃ before after, s = before ++ trim s ++ after ∧
    (∀ c ∈ before, isBlank c = true) ∧ ∀ c ∈ after, isBlank c = true := by
  refine ⟨s.takeWhile isBlank, (trimStart s).rtakeWhile isBlank, ?_,
    fun c hc => List.mem_takeWhile_imp hc, fun c hc => List.mem_rtakeWhile_imp hc⟩
  rw [List.append_assoc, trim, trimEnd_eq, List.rdropWhile_append_rtakeWhile, trimStart,
    List.takeWhile_append_dropWhile]

theorem trim_eq_nil_iff : trim s = [] ↔ ∀ c ∈ s, isBlank c = true := by
  constructor
  · intro h
    obtain ⟨before, after, hs, hbefore, hafter⟩ := exists_trim s
    intro c hc
    rw [hs, h, List.append_nil] at hc
    rcases List.mem_append.1 hc with hc | hc
    · exact hbefore c hc
    · exact hafter c hc
  · intro h
    have hs : trim (s ++ [] ++ []) = trim [] := trim_append_append h fun _ hc => (by cases hc)
    simpa [trim, trimStart, trimEnd] using hs

/-- A text that begins with a visible character begins with it when it is trimmed. -/
theorem exists_trim_cons (s : List Char) (h : isBlank c = false) :
    ∃ rest, trim (c :: s) = c :: rest := by
  obtain ⟨before, after, hs, hbefore, hafter⟩ := exists_trim (c :: s)
  have hvisible : ∀ blanks : List Char, (∀ d ∈ blanks, isBlank d = true) → c ∉ blanks := by
    intro blanks hblanks hc
    rw [hblanks c hc] at h
    cases h
  cases before with
  | cons d before =>
    obtain rfl : c = d := (List.cons.inj hs).1
    exact absurd List.mem_cons_self (hvisible _ hbefore)
  | nil =>
    cases htrim : trim (c :: s) with
    | nil =>
      rw [htrim, List.append_nil, List.nil_append] at hs
      exact absurd (hs ▸ List.mem_cons_self) (hvisible _ hafter)
    | cons d rest =>
      rw [htrim] at hs
      exact ⟨rest, by rw [(List.cons.inj hs).1]⟩

/-- Trimmed texts that are joined are trimmed. -/
theorem trim_append (hs : trim s = s) (ht : trim t = t) (hsne : s ≠ []) (htne : t ≠ []) :
    trim (s ++ t) = s ++ t := by
  rw [trim_eq_self_iff] at hs ht ⊢
  rw [List.head?_append_of_ne_nil _ hsne, List.getLast?_append_of_ne_nil _ htne]
  exact ⟨hs.1, ht.2⟩

/-! ### Lower-casing -/

/-- What becomes of a character wherever it stands, unless it is a capital sigma. -/
def smallForm (c : Char) : List Char := if c = 'İ' then ['i', Char.ofNat 0x307] else [lowerChar c]

/-- A text without a capital sigma is lower-cased character by character. -/
theorem lower_eq_flatMap (h : 'Σ' ∉ s) : lower s = s.flatMap smallForm := by
  have hafter : ∀ (s before : List Char), 'Σ' ∉ s → lowerAfter before s = s.flatMap smallForm := by
    intro s
    induction s with
    | nil => exact fun _ _ => rfl
    | cons c s ih =>
      intro before h
      rw [List.mem_cons, not_or] at h
      rw [lowerAfter, if_neg (Ne.symm h.1), ih _ h.2, List.flatMap_cons, smallForm]
  exact hafter s [] h

/-- A capital sigma leaves one of the two small ones. -/
theorem exists_sigma_of_mem (h : 'Σ' ∈ s) : 'ς' ∈ lower s ∨ 'σ' ∈ lower s := by
  have hafter : ∀ (s before : List Char), 'Σ' ∈ s →
      'ς' ∈ lowerAfter before s ∨ 'σ' ∈ lowerAfter before s := by
    intro s
    induction s with
    | nil => exact fun _ h => by cases h
    | cons c s ih =>
      intro before h
      rw [lowerAfter]
      rcases List.mem_cons.1 h with rfl | h
      · by_cases hfinal : (meetsCased before && !meetsCased s) = true
        · exact .inl (by simp [hfinal])
        · exact .inr (by simp [hfinal])
      · rcases ih (c :: before) h with h | h
        · exact .inl (List.mem_append_right _ h)
        · exact .inr (List.mem_append_right _ h)
  exact hafter s [] h

theorem lower_append (hs : 'Σ' ∉ s) (ht : 'Σ' ∉ t) : lower (s ++ t) = lower s ++ lower t := by
  have hst : 'Σ' ∉ s ++ t := by simp [hs, ht]
  rw [lower_eq_flatMap hs, lower_eq_flatMap ht, lower_eq_flatMap hst, List.flatMap_append]

/-- A text of characters that are small forms of themselves is not changed. -/
theorem lower_eq_self_of_forall (h : ∀ c ∈ s, c ≠ 'Σ' ∧ c ≠ 'İ' ∧ lowerChar c = c) :
    lower s = s := by
  rw [lower_eq_flatMap fun hmem => (h _ hmem).1 rfl]
  induction s with
  | nil => rfl
  | cons c s ih =>
    obtain ⟨-, hdotted, hsmall⟩ := h c List.mem_cons_self
    rw [List.flatMap_cons, smallForm, if_neg hdotted, hsmall,
      ih fun d hd => h d (List.mem_cons_of_mem c hd), List.singleton_append]

/-- Blanks are no capital letters. -/
theorem lowerChar_of_isBlank (h : isBlank c = true) : lowerChar c = c := by
  have hdisjoint : capitalRuns.all (fun r =>
      blankRanges.all fun b => decide (r.last < b.1) || decide (b.2 < r.first)) = true := by
    decide
  obtain ⟨b, hb, hc⟩ := List.any_eq_true.1 h
  have hrun : capitalRuns.find? (·.covers c.toNat) = none := by
    rw [List.find?_eq_none]
    intro r hr hcovers
    have hapart := List.all_eq_true.1 (List.all_eq_true.1 hdisjoint r hr) b hb
    simp only [CaseRun.covers, Bool.and_eq_true, Bool.or_eq_true, decide_eq_true_eq] at *
    omega
  rw [lowerChar, hrun]
  split
  · refine dif_neg ?_
    rintro ⟨hfirst, hlast⟩
    have hfirst : 65 ≤ c.toNat := hfirst
    have hlast : c.toNat ≤ 90 := hlast
    have hspare : blankRanges.all (fun b => decide (b.2 < 65) || decide (90 < b.1)) = true := by
      decide
    have hapart := List.all_eq_true.1 hspare b hb
    simp only [Bool.and_eq_true, Bool.or_eq_true, decide_eq_true_eq] at hc hapart
    omega
  · rfl

/-! ### Cutting -/

/-- Cutting at a single character is that of the standard library. -/
theorem split_singleton (c : Char) (s : List Char) : split [c] s = s.splitOn c := by
  have haux : ∀ s item : List Char, splitAux [c] item 0 s = List.splitOnPPrepend (· == c) s item := by
    intro s
    induction s with
    | nil => exact fun _ => rfl
    | cons d s ih =>
      intro item
      rw [splitAux, List.splitOnPPrepend_cons_eq_if, stripStart, stripStart]
      by_cases hd : c = d
      · rw [if_pos hd, if_pos (by simpa using hd.symm), ← List.splitOnPPrepend_nil_right, ← ih]
        rfl
      · rw [if_neg hd, if_neg (by simpa using Ne.symm hd), ← ih]
  exact haux s []

/-- Pieces that are joined by a character which none of them holds are what cutting gives. -/
theorem split_intercalate {items : List (List Char)} (h : ∀ t ∈ items, c ∉ t) (hne : items ≠ []) :
    split [c] ([c].intercalate items) = items := by
  rw [split_singleton]
  exact List.splitOn_intercalate c h hne

theorem not_mem_of_mem_split (h : t ∈ split [c] s) : c ∉ t := by
  have haux : ∀ s item : List Char, c ∉ item → t ∈ splitAux [c] item 0 s → c ∉ t := by
    intro s
    induction s with
    | nil =>
      intro item hitem ht
      rw [splitAux, List.mem_singleton] at ht
      simpa [ht] using hitem
    | cons d s ih =>
      intro item hitem ht
      rw [splitAux, stripStart, stripStart] at ht
      by_cases hd : c = d
      · rw [if_pos hd] at ht
        rcases List.mem_cons.1 ht with rfl | ht
        · simpa using hitem
        · exact ih [] (by simp) ht
      · rw [if_neg hd] at ht
        exact ih (d :: item) (by simp [hd, hitem]) ht
  exact haux s [] (by simp) h

end Strata.Text
