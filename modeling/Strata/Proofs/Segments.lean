import Mathlib.Data.Bool.AllAny
import Strata.Proofs.Timespans

/-!
Which texts are spans of time. A text that is trimmed and lower-cased is read segment by segment; a
segment is a number right before the name of a unit, and amounts to what it amounts to on its own
(`parse_text_eq_ok_iff`). So a text is a span exactly if it consists of segments, each of which is a
span, and the spans add up to it (`parse_eq_ok_iff`). As lower-casing does not depend on what stands
around, texts without blanks around them can be read one after the other (`parse_append`).
-/

namespace Strata

open Number Text

/-! ### Numbers -/

namespace Number

/-- A decimal is digits, perhaps a point and further digits, and what follows. -/
theorem exists_point_of_splitDecimal {s whole fraction rest : List Char}
    (h : splitDecimal s = (whole, fraction, rest)) :
    ∃ point, (point = [] ∨ point = ['.']) ∧ s = whole ++ (point ++ (fraction ++ rest)) ∧
      ∀ c ∈ whole ++ fraction, isDigit c = true := by
  have hs := List.takeWhile_append_dropWhile (p := isDigit) (l := s)
  have hdigits : ∀ s : List Char, ∀ c ∈ s.takeWhile isDigit, isDigit c = true :=
    fun s c hc => List.mem_takeWhile_imp hc
  unfold splitDecimal at h
  dsimp only at h
  split at h
  · rename_i tail htail
    obtain ⟨rfl, rfl, rfl⟩ : _ ∧ _ ∧ _ := by simpa using h
    refine ⟨['.'], .inr rfl, ?_, ?_⟩
    · rw [List.takeWhile_append_dropWhile, List.singleton_append, ← htail, hs]
    · intro c hc
      rcases List.mem_append.1 hc with hc | hc
      · exact hdigits s c hc
      · exact hdigits tail c hc
  · obtain ⟨rfl, rfl, rfl⟩ : _ ∧ _ ∧ _ := by simpa using h
    refine ⟨[], .inl rfl, hs.symm, ?_⟩
    rw [List.append_nil]
    exact hdigits s

/-- A text of digits and points is a number only if it has a digit and at most one point. -/
theorem isNumber_of_read {s : List Char} {x : Binary}
    (hs : ∀ c ∈ s, isDigit c = true ∨ c = '.') (h : BinaryFormat.double.read s = .ok x) :
    (∃ c ∈ s, isDigit c = true) ∧ s.count '.' ≤ 1 := by
  have hne : s ≠ [] := by
    rintro rfl
    cases h
  obtain ⟨c, t, rfl⟩ := List.exists_cons_of_ne_nil hne
  have hc := hs c List.mem_cons_self
  have hsign : splitSign (c :: t) = (false, c :: t) := by
    unfold splitSign
    split <;> simp_all [isDigit_iff]
  have hname : named false (c :: t) = none := by
    have hlower : c.toLower = c := by
      have hsmall : lowerChar c = c.toLower := if_pos (by
        rcases hc with hc | rfl
        · rw [isDigit_iff] at hc
          omega
        · decide)
      rw [← hsmall]
      rcases hc with hc | rfl
      · exact IsSimple.lowerChar_eq (.inl (isDigit_iff.1 hc))
      · decide
    have hletter : c ≠ 'i' ∧ c ≠ 'n' := by
      constructor <;> rintro rfl <;> exact absurd hc (by decide)
    simp [named, hlower, hletter]
  -- Neither a sign nor a name, so there are digits, and nothing that could be an exponent.
  obtain ⟨y, hy⟩ : ∃ y, BinaryFormat.double.readUnsigned false (c :: t) = some y := by
    cases hread : BinaryFormat.double.readUnsigned false (c :: t) with
    | none => simp [BinaryFormat.read, hsign, hread, hname] at h
    | some y => exact ⟨y, rfl⟩
  rcases hsplit : splitDecimal (c :: t) with ⟨whole, fraction, rest⟩
  obtain ⟨point, hpoint, htext, hdigits⟩ := exists_point_of_splitDecimal hsplit
  rw [BinaryFormat.readUnsigned, hsplit] at hy
  dsimp only at hy
  split at hy
  · cases hy
  · rename_i hsome
    have hrest : rest = [] := by
      cases rest with
      | nil => rfl
      | cons e rest =>
        have he : e ∈ c :: t := by simp [htext]
        have hexponent : ¬ (e = 'e' ∨ e = 'E') := by
          rintro (rfl | rfl) <;> exact absurd (hs _ he) (by decide)
        simp [readExponent, hexponent] at hy
    have hcount : ∀ d ∈ whole ++ fraction, d ≠ '.' := by
      rintro d hd rfl
      exact absurd (hdigits '.' hd) (by decide)
    rw [htext, hrest, List.append_nil]
    constructor
    · cases whole with
      | cons d whole => exact ⟨d, by simp, hdigits d (by simp)⟩
      | nil =>
        cases fraction with
        | cons d fraction => exact ⟨d, by simp, hdigits d (by simp)⟩
        | nil => simp at hsome
    · have hnone : (whole ++ fraction).count '.' = 0 :=
        List.count_eq_zero.2 fun hmem => hcount '.' hmem rfl
      rw [List.count_append] at hnone
      rcases hpoint with rfl | rfl <;> simp [List.count_append] <;> omega

end Number

namespace Timespan

variable {number unit s : List Char} {n offset : Nat} {d x y : Timespan}

/-! ### Segments -/

/-- The names of units; micro is spelt with either of the two micro signs, or with a letter. -/
def unitNames : List (List Char) :=
  [['n', 's'], ['u', 's'], ['µ', 's'], ['μ', 's'], ['m', 's'], ['s'], ['m'], ['h'], ['d']]

theorem mem_unitNames {size : Nat} (h : unitNanos? unit = some size) : unit ∈ unitNames := by
  unfold unitNanos? at h
  split at h <;> simp_all [unitNames]

/-- A number and the name of a unit right after it. The number consists of digits, at least one, and
of at most one point. -/
structure Segment where
  number : List Char
  unit : List Char
  numerals : ∀ c ∈ number, isDigit c = true ∨ c = '.'
  digit : ∃ c ∈ number, isDigit c = true
  point : number.count '.' ≤ 1
  unit_mem : unit ∈ unitNames

/-- The text of a segment. -/
def Segment.text (g : Segment) : List Char := g.number ++ g.unit

/-- The characters of segments other than digits. -/
def spanMarks : List Char := ['.', 'n', 'u', 'µ', 'μ', 'm', 's', 'h', 'd']

/-- The characters of segments. -/
def IsSpanChar (c : Char) : Prop := isDigit c = true ∨ c ∈ spanMarks

instance (c : Char) : Decidable (IsSpanChar c) := inferInstanceAs (Decidable (_ ∨ _))

theorem IsSpanChar.isBlank_eq {c : Char} (h : IsSpanChar c) : isBlank c = false := by
  rcases h with h | h
  · exact IsSimple.isBlank_eq (.inl (isDigit_iff.1 h))
  · have hmarks : ∀ d ∈ spanMarks, isBlank d = false := List.all_iff_forall_prop.1 (by decide)
    exact hmarks c h

theorem IsSpanChar.lowerChar_eq {c : Char} (h : IsSpanChar c) : lowerChar c = c := by
  rcases h with h | h
  · exact IsSimple.lowerChar_eq (.inl (isDigit_iff.1 h))
  · have hmarks : ∀ d ∈ spanMarks, lowerChar d = d := List.all_iff_forall_prop.1 (by decide)
    exact hmarks c h

theorem isNumeral_iff {c : Char} : isNumeral c = true ↔ isDigit c = true ∨ c = '.' := by
  simp [isNumeral]

namespace Segment

variable (g : Segment)

theorem number_ne_nil : g.number ≠ [] := by
  obtain ⟨c, hc, -⟩ := g.digit
  exact List.ne_nil_of_mem hc

theorem unit_ne_nil : g.unit ≠ [] := by
  have hunits : ∀ unit ∈ unitNames, unit ≠ [] := by decide
  exact hunits g.unit g.unit_mem

theorem isNumeral_of_mem_number : ∀ c ∈ g.number, isNumeral c = true :=
  fun c hc => isNumeral_iff.2 (g.numerals c hc)

theorem isNumeral_of_mem_unit : ∀ c ∈ g.unit, isNumeral c = false := by
  have hunits : ∀ c ∈ unitNames.flatten, isNumeral c = false :=
    List.all_iff_forall_prop.1 (by decide)
  exact fun c hc => hunits c (List.mem_flatten_of_mem g.unit_mem hc)

theorem isSpanChar_of_mem_text {c : Char} (hc : c ∈ g.text) : IsSpanChar c := by
  rcases List.mem_append.1 hc with hc | hc
  · rcases g.numerals c hc with hdigit | rfl
    · exact .inl hdigit
    · exact .inr List.mem_cons_self
  · have hunits : ∀ c ∈ unitNames.flatten, c ∈ spanMarks := List.all_iff_forall_prop.1 (by decide)
    exact .inr (hunits c (List.mem_flatten_of_mem g.unit_mem hc))

end Segment

/-- A segment that can be read consists of a number and the name of a unit. -/
theorem exists_segment (hnumber : ∀ c ∈ number, isNumeral c = true)
    (h : segment number unit = .ok n) : ∃ g : Segment, g.number = number ∧ g.unit = unit := by
  have hnumerals : ∀ c ∈ number, isDigit c = true ∨ c = '.' :=
    fun c hc => isNumeral_iff.1 (hnumber c hc)
  cases hread : BinaryFormat.double.read number with
  | error e => simp [segment, hread] at h
  | ok value =>
    obtain ⟨hdigit, hpoint⟩ := isNumber_of_read hnumerals hread
    cases hsize : unitNanos? unit with
    | none =>
      simp only [segment, hread, hsize] at h
      split at h <;> cases h
    | some size => exact ⟨⟨number, unit, hnumerals, hdigit, hpoint, mem_unitNames hsize⟩, rfl, rfl⟩

/-- A text is read as a number of nanoseconds exactly if it consists of segments that amount to it
together. -/
theorem segments_eq_ok_iff : segments offset s = .ok n ↔ ∃ gs : List (Segment × Nat),
    s = gs.flatMap (·.1.text) ∧ (∀ g ∈ gs, segment g.1.number g.1.unit = .ok g.2) ∧
      n = (gs.map (·.2)).sum := by
  constructor
  · intro h
    fun_induction segments offset s generalizing n with
    | case1 =>
      cases h
      exact ⟨[], rfl, fun _ hg => (by cases hg), rfl⟩
    | case2 | case3 | case4 => cases h
    | case5 =>
      rename_i s _ _ number afterNumber unit rest nanos hfirst more hmore ih
      obtain ⟨gs, hrest, hgs, rfl⟩ := ih hmore
      obtain ⟨g, hnumber, hunit⟩ :=
        exists_segment (fun c hc => List.mem_takeWhile_imp hc) hfirst
      have htext : s = number ++ (unit ++ rest) := by
        rw [List.takeWhile_append_dropWhile, List.takeWhile_append_dropWhile]
      refine ⟨(g, nanos) :: gs, ?_, ?_, (Except.ok.inj h).symm⟩
      · rw [htext, hrest, List.flatMap_cons, Segment.text, hnumber, hunit, List.append_assoc]
      · intro g' hg'
        rcases List.mem_cons.1 hg' with rfl | hg'
        · simpa [hnumber, hunit] using hfirst
        · exact hgs g' hg'
  · rintro ⟨gs, rfl, hgs, rfl⟩
    induction gs generalizing offset with
    | nil =>
      rw [segments]
      rfl
    | cons g gs ih =>
      have hhead : ∀ c ∈ (gs.flatMap (·.1.text)).head?, isNumeral c = true := by
        cases gs with
        | nil => exact fun c hc => by cases hc
        | cons g' gs =>
          intro c hc
          rw [List.flatMap_cons, Segment.text, List.append_assoc,
            List.head?_append_of_ne_nil _ g'.1.number_ne_nil] at hc
          exact g'.1.isNumeral_of_mem_number c (List.mem_of_mem_head? hc)
      rw [List.flatMap_cons, Segment.text, List.append_assoc,
        segments_append g.1.number_ne_nil g.1.isNumeral_of_mem_number g.1.unit_ne_nil
          g.1.isNumeral_of_mem_unit hhead, hgs g List.mem_cons_self]
      simp only [ih fun g' hg' => hgs g' (List.mem_cons_of_mem g hg'), List.map_cons, List.sum_cons]

/-! ### Texts of spans -/

theorem isSpanChar_of_mem {gs : List (Segment × Nat)} {c : Char}
    (hc : c ∈ gs.flatMap (·.1.text)) : IsSpanChar c := by
  obtain ⟨g, -, hc⟩ := List.mem_flatMap.1 hc
  exact g.1.isSpanChar_of_mem_text hc

theorem lower_eq_self_of_isSpanChar (h : ∀ c ∈ s, IsSpanChar c) : lower s = s := by
  apply lower_eq_self_of_forall
  intro c hc
  have hcapital : ∀ d, ¬ IsSpanChar d → c ≠ d := by
    rintro d hd rfl
    exact hd (h c hc)
  exact ⟨hcapital 'Σ' (by decide), hcapital 'İ' (by decide), (h c hc).lowerChar_eq⟩

/-- A text that is lower-cased to characters of segments has no capital sigma. -/
theorem not_mem_sigma (h : ∀ c ∈ lower s, IsSpanChar c) : 'Σ' ∉ s := by
  intro hmem
  rcases exists_sigma_of_mem hmem with hmem | hmem
  · exact absurd (h _ hmem) (by decide)
  · exact absurd (h _ hmem) (by decide)

/-- Such a text is lower-cased character by character, each to one of segments. -/
theorem lower_eq_map (h : ∀ c ∈ lower s, IsSpanChar c) : lower s = s.map lowerChar := by
  have hforms := lower_eq_flatMap (not_mem_sigma h)
  rw [hforms] at h ⊢
  rw [List.map_eq_flatMap]
  apply List.flatMap_congr
  intro c hc
  have hdotted : c ≠ 'İ' := by
    rintro rfl
    exact absurd (h 'i' (List.mem_flatMap.2 ⟨'İ', hc, by decide⟩)) (by decide)
  rw [smallForm, if_neg hdotted]

theorem ofNanos?_eq_some_iff : ofNanos? n = some d ↔ n = d.totalNanos := by
  constructor
  · intro h
    rw [ofNanos?] at h
    split at h
    · obtain rfl := Option.some.inj h
      exact (Nat.div_add_mod' n 1000000000).symm
    · cases h
  · rintro rfl
    exact ofNanos?_totalNanos d

theorem ofNanos?_eq_none_iff : ofNanos? n = none ↔ 18446744073709551615 < n / 1000000000 := by
  rw [ofNanos?]
  split <;> simp <;> omega

/-- What the reading of a text comes to, once its segments have been added up. -/
theorem parse_of_segments_eq_ok {text : String} (hne : lower (trim text.toList) ≠ [])
    (h : segments 0 (lower (trim text.toList)) = .ok n) :
    parse text =
      match ofNanos? n with
      | some d => .ok d
      | none => .error .overflow := by
  cases hspan : ofNanos? n <;> simp [parse, hne, h, hspan]

theorem parse_eq_ok_iff_segments {text : String} : parse text = .ok d ↔
    lower (trim text.toList) ≠ [] ∧
      segments 0 (lower (trim text.toList)) = .ok d.totalNanos := by
  constructor
  · intro h
    rw [parse] at h
    split at h
    · cases h
    · rename_i hne
      cases hsegments : segments 0 (lower (trim text.toList)) with
      | error e => simp [hsegments] at h
      | ok n =>
        cases hspan : ofNanos? n with
        | none => simp [hsegments, hspan] at h
        | some d' =>
          simp only [hsegments, hspan, Except.ok.injEq] at h
          rw [ofNanos?_eq_some_iff.1 hspan, h]
          exact ⟨by simpa using hne, rfl⟩
  · rintro ⟨hne, h⟩
    rw [parse_of_segments_eq_ok hne h, ofNanos?_totalNanos]

/-- A segment amounts to the span that it is on its own. -/
theorem parse_text_eq_ok_iff (g : Segment) :
    parse (String.ofList g.text) = .ok d ↔ segment g.number g.unit = .ok d.totalNanos := by
  have hchars : ∀ c ∈ g.text, IsSpanChar c := fun c => g.isSpanChar_of_mem_text
  have htrim : trim g.text = g.text := trim_eq_self_of_forall fun c hc => (hchars c hc).isBlank_eq
  have hne : g.text ≠ [] := List.append_ne_nil_of_left_ne_nil g.number_ne_nil g.unit
  have hsegments : segments 0 (g.number ++ (g.unit ++ [])) = _ :=
    segments_append g.number_ne_nil g.isNumeral_of_mem_number g.unit_ne_nil
      g.isNumeral_of_mem_unit fun c hc => (by cases hc)
  rw [List.append_nil, spells_nil.segments_eq] at hsegments
  rw [parse_eq_ok_iff_segments, String.toList_ofList, htrim, lower_eq_self_of_isSpanChar hchars,
    Segment.text, hsegments]
  cases segment g.number g.unit <;> exact ⟨fun h => h.2, fun h => ⟨hne, h⟩⟩

/-- A text is a span exactly if it consists of segments that are spans and add up to it. -/
theorem parse_eq_ok_iff {text : String} : parse text = .ok d ↔
    ∃ gs : List (Segment × Timespan), gs ≠ [] ∧
      lower (trim text.toList) = gs.flatMap (·.1.text) ∧
      (∀ g ∈ gs, parse (String.ofList g.1.text) = .ok g.2) ∧
      d.totalNanos = (gs.map (·.2.totalNanos)).sum := by
  rw [parse_eq_ok_iff_segments, segments_eq_ok_iff]
  constructor
  · rintro ⟨hne, gs, htext, hgs, hsum⟩
    -- No segment amounts to more than all of them, so each is a span.
    have hspan : ∀ g ∈ gs, ∃ d' : Timespan, d'.totalNanos = g.2 := by
      intro g hg
      have hle : g.2 ≤ (gs.map (·.2)).sum := List.single_le_sum (by simp) _ (List.mem_map_of_mem hg)
      cases hnanos : ofNanos? g.2 with
      | none =>
        have hlt := ofNanos?_eq_none_iff.1 hnanos
        have hsecs := d.secs_lt
        have hsub := d.nanos_lt
        rw [← hsum, totalNanos] at hle
        omega
      | some d' => exact ⟨d', (ofNanos?_eq_some_iff.1 hnanos).symm⟩
    choose! span hspan using hspan
    refine ⟨gs.map fun g => (g.1, span g), ?_, ?_, ?_, ?_⟩
    · rintro hnil
      rw [List.map_eq_nil_iff.1 hnil] at htext
      exact hne htext
    · rw [htext, List.flatMap_map]
    · intro g' hg'
      obtain ⟨g, hg, rfl⟩ := List.mem_map.1 hg'
      rw [parse_text_eq_ok_iff, hspan g hg]
      exact hgs g hg
    · rw [hsum, List.map_map]
      exact congrArg List.sum (List.map_congr_left fun g hg => (hspan g hg).symm)
  · rintro ⟨gs, hne, htext, hgs, hsum⟩
    refine ⟨?_, gs.map fun g => (g.1, g.2.totalNanos), ?_, ?_, ?_⟩
    · obtain ⟨g, gs, rfl⟩ := List.exists_cons_of_ne_nil hne
      rw [htext, List.flatMap_cons, Segment.text]
      simp [g.1.number_ne_nil]
    · rw [htext, List.flatMap_map]
    · intro g' hg'
      obtain ⟨g, hg, rfl⟩ := List.mem_map.1 hg'
      exact (parse_text_eq_ok_iff g.1).1 (hgs g hg)
    · rw [hsum, List.map_map]
      rfl

/-- The lower-cased text of a span consists of characters of segments. -/
theorem isSpanChar_of_parse {text : String} (h : parse text = .ok d) :
    ∀ c ∈ lower (trim text.toList), IsSpanChar c := by
  obtain ⟨-, htext⟩ := parse_eq_ok_iff_segments.1 h
  obtain ⟨gs, htext, -, -⟩ := segments_eq_ok_iff.1 htext
  rw [htext]
  exact fun c => isSpanChar_of_mem

/-- Spans of time without blanks around them are read one after the other. -/
theorem parse_append {a b : String} (ha : parse a = .ok x) (hb : parse b = .ok y)
    (hatrim : trim a.toList = a.toList) (hbtrim : trim b.toList = b.toList) :
    parse (a ++ b) =
      match ofNanos? (x.totalNanos + y.totalNanos) with
      | some d => .ok d
      | none => .error .overflow := by
  have hasigma := not_mem_sigma (isSpanChar_of_parse ha)
  have hbsigma := not_mem_sigma (isSpanChar_of_parse hb)
  obtain ⟨hane, ha⟩ := parse_eq_ok_iff_segments.1 ha
  obtain ⟨hbne, hb⟩ := parse_eq_ok_iff_segments.1 hb
  rw [hatrim] at hane hasigma ha
  rw [hbtrim] at hbne hbsigma hb
  have hnil : lower [] = [] := rfl
  have htext : lower (trim (a ++ b).toList) = lower a.toList ++ lower b.toList := by
    rw [String.toList_append, trim_append hatrim hbtrim (fun h => hane (by rw [h, hnil]))
      (fun h => hbne (by rw [h, hnil])), lower_append hasigma hbsigma]
  obtain ⟨gs, htextA, hgs, hsumA⟩ := segments_eq_ok_iff.1 ha
  obtain ⟨gs', htextB, hgs', hsumB⟩ := segments_eq_ok_iff.1 hb
  apply parse_of_segments_eq_ok
  · rw [htext]
    exact List.append_ne_nil_of_left_ne_nil hane _
  · rw [htext, segments_eq_ok_iff]
    refine ⟨gs ++ gs', ?_, ?_, ?_⟩
    · rw [htextA, htextB, List.flatMap_append]
    · intro g hg
      rcases List.mem_append.1 hg with hg | hg
      · exact hgs g hg
      · exact hgs' g hg
    · rw [hsumA, hsumB, List.map_append, List.sum_append]

theorem isNumeral_getLast?_eq {β : Type} {gs : List (Segment × β)} {c : Char} (hne : gs ≠ [])
    (hc : (gs.flatMap (·.1.text)).getLast? = some c) : isNumeral c = false := by
  obtain ⟨gs, g, rfl⟩ := (List.eq_nil_or_concat gs).resolve_left hne
  rw [List.concat_eq_append, List.flatMap_append, List.flatMap_singleton, Segment.text,
    ← List.append_assoc, List.getLast?_append_of_ne_nil _ g.1.unit_ne_nil] at hc
  exact g.1.isNumeral_of_mem_unit c (List.mem_of_mem_getLast? hc)

/-- What is a span has no blanks, signs and letters of exponents in it. -/
theorem not_mark_of_parse {text : String} {c : Char} (h : parse text = .ok d)
    (hc : c ∈ trim text.toList) : isBlank c = false ∧ c ∉ ['+', '-', 'e', 'E'] := by
  have hchars := isSpanChar_of_parse h
  have hspan : IsSpanChar (lowerChar c) :=
    hchars _ (by rw [lower_eq_map hchars]; exact List.mem_map_of_mem hc)
  constructor
  · by_contra hblank
    rw [Bool.not_eq_false] at hblank
    rw [lowerChar_of_isBlank hblank] at hspan
    rw [hspan.isBlank_eq] at hblank
    cases hblank
  · intro hmark
    have hnone : ∀ c ∈ ['+', '-', 'e', 'E'], ¬ IsSpanChar (lowerChar c) :=
      List.all_iff_forall_prop.1 (by decide)
    exact hnone c hmark hspan

/-- What is a span ends in a unit. -/
theorem isNumeral_getLast?_of_parse {text : String} {c : Char} (h : parse text = .ok d)
    (hc : (trim text.toList).getLast? = some c) : isNumeral c = false := by
  obtain ⟨gs, hne, htext, -⟩ := parse_eq_ok_iff.1 h
  by_contra hnumeral
  rw [Bool.not_eq_false] at hnumeral
  have hspan : IsSpanChar c := by
    rcases isNumeral_iff.1 hnumeral with hdigit | rfl
    · exact .inl hdigit
    · exact .inr List.mem_cons_self
  have hlast : (gs.flatMap (·.1.text)).getLast? = some c := by
    rw [← htext, lower_eq_map (isSpanChar_of_parse h), List.getLast?_map, hc, Option.map_some,
      hspan.lowerChar_eq]
  rw [isNumeral_getLast?_eq hne hlast] at hnumeral
  cases hnumeral

/-! ### The grammar of spans -/

/-- Spans without blanks around them that stand one after the other, in whichever order, are read as
the span that they add up to, or there is an overflow, if it has more whole seconds than a span can
have. A text is a span exactly if it consists, trimmed and lower-cased, of segments that are spans
on their own and add up to it. So a text is refused that has a blank, a sign or the letter of an
exponent in it, or that ends in a number without a unit. -/
theorem parse_append_and_segments :
    (∀ (a b : String) (x y : Timespan), parse a = .ok x → parse b = .ok y →
      trim a.toList = a.toList → trim b.toList = b.toList →
        (∀ d, parse (a ++ b) = .ok d ↔ d.totalNanos = x.totalNanos + y.totalNanos) ∧
        (∀ e, parse (a ++ b) = .error e ↔ e = .overflow ∧
          18446744073709551615 < (x.totalNanos + y.totalNanos) / 1000000000) ∧
        parse (b ++ a) = parse (a ++ b)) ∧
    (∀ (text : String) (d : Timespan), parse text = .ok d ↔
      ∃ gs : List (Segment × Timespan), gs ≠ [] ∧
        lower (trim text.toList) = gs.flatMap (·.1.text) ∧
        (∀ g ∈ gs, parse (String.ofList g.1.text) = .ok g.2) ∧
        d.totalNanos = (gs.map (·.2.totalNanos)).sum) ∧
    ∀ text : String,
      ((∃ c ∈ trim text.toList, isBlank c = true ∨ c ∈ ['+', '-', 'e', 'E']) ∨
        ∃ c, (trim text.toList).getLast? = some c ∧ isNumeral c = true) →
      ∃ e, parse text = .error e := by
  refine ⟨fun a b x y ha hb hatrim hbtrim => ?_, fun text d => parse_eq_ok_iff, fun text h => ?_⟩
  · have hab := parse_append ha hb hatrim hbtrim
    have hba := parse_append hb ha hbtrim hatrim
    rw [Nat.add_comm] at hba
    refine ⟨fun d => ?_, fun e => ?_, hba.trans hab.symm⟩
    · rw [hab, ← ofNanos?_eq_some_iff.trans eq_comm]
      cases ofNanos? (x.totalNanos + y.totalNanos) <;> simp
    · rw [hab, ← ofNanos?_eq_none_iff]
      cases ofNanos? (x.totalNanos + y.totalNanos) <;> simp [eq_comm]
  · cases hparse : parse text with
    | error e => exact ⟨e, rfl⟩
    | ok d =>
      rcases h with ⟨c, hc, hbad⟩ | ⟨c, hc, hnumeral⟩
      · obtain ⟨hblank, hmark⟩ := not_mark_of_parse hparse hc
        rcases hbad with hbad | hbad
        · rw [hblank] at hbad
          cases hbad
        · exact absurd hbad hmark
      · rw [isNumeral_getLast?_of_parse hparse hc] at hnumeral
        cases hnumeral

/-- An hour and half an hour. -/
theorem parse_append_and_segments_of_hour :
    (parse "1h" = .ok ⟨3600, 0, by decide, by decide⟩ ∧
      parse "30M" = .ok ⟨1800, 0, by decide, by decide⟩ ∧
      trim "1h".toList = "1h".toList ∧ trim "30M".toList = "30M".toList ∧
      (∃ c ∈ trim "1h 30m".toList, isBlank c = true ∨ c ∈ ['+', '-', 'e', 'E'])) ∧
    parse ("1h" ++ "30M") = .ok ⟨5400, 0, by decide, by decide⟩ ∧
      ∃ e, parse "1h 30m" = .error e := by
  have hhour : parse "1h" = .ok ⟨3600, 0, by decide, by decide⟩ := by decide +kernel
  have hhalf : parse "30M" = .ok ⟨1800, 0, by decide, by decide⟩ := by decide +kernel
  have hhourTrim : trim "1h".toList = "1h".toList := by decide +kernel
  have hhalfTrim : trim "30M".toList = "30M".toList := by decide +kernel
  have hblank : ∃ c ∈ trim "1h 30m".toList, isBlank c = true ∨ c ∈ ['+', '-', 'e', 'E'] :=
    ⟨' ', by decide +kernel, .inl (by decide)⟩
  obtain ⟨happend, -, hrefused⟩ := parse_append_and_segments
  exact ⟨⟨hhour, hhalf, hhourTrim, hhalfTrim, hblank⟩,
    ((happend _ _ _ _ hhour hhalf hhourTrim hhalfTrim).1 _).2 rfl, hrefused _ (.inl hblank)⟩

end Timespan

end Strata
