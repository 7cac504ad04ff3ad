import Strata.Proofs.Lists

/-!
Failures to convert. Converters are made of those for single values and of lists of them, nested to
any depth. Each level of lists passes on the name of the innermost type, and puts the text that it was
given itself in place of the item that cannot be converted; so a failure names the text that was to be
converted, as a whole (`exists_conversion_of_decode`). A list with an empty delimiter is the
exception: it passes on the failure of its only item as it is, which names the text without the
blanks around it (`not_forall_named_eq_raw`). Which item a list fails for is told by
`decode_list_eq_error_iff`. Main statement: `failures_of_decode`.
-/

namespace Strata

open Number Text

namespace Converter

/-! ### How converters are made -/

/-- How a converter is made: for single values of a type that is named, or for lists. -/
inductive Shape where
  | single (typeName : String)
  | list (delimiter : String) (element : Shape)

/-- The name of the innermost type. -/
def Shape.target : Shape → String
  | .single typeName => typeName
  | .list _ element => element.target

/-- The text that a failure to convert a text names. -/
def Shape.named (raw : String) : Shape → String
  | .single _ => raw
  | .list delimiter _ => if delimiter.isEmpty then String.ofList (trim raw.toList) else raw

/-- Converters for single values, custom ones among them, and for lists; and those that make
something else of the values. -/
inductive Made : (α : Type) → Converter α → Shape → Prop
  | string : Made String string (.single string.typeName)
  | integer (t : IntegerType) : Made Int (integer t) (.single (integer t).typeName)
  | float (w : FloatWidth) :
      Made Binary (float w.name w.format) (.single (float w.name w.format).typeName)
  | boolean : Made Bool boolean (.single boolean.typeName)
  | duration : Made Timespan duration (.single duration.typeName)
  | custom {α : Type} (typeName : String) (decode : String → Except String α)
      (encode : α → String) : Made α (custom typeName decode encode) (.single typeName)
  | list {α : Type} {element : Converter α} {shape : Shape} (delimiter : String) :
      Made α element shape → Made (List α) (list delimiter element) (.list delimiter shape)
  | embed {α β : Type} {c : Converter α} {shape : Shape} (into : α → β) (back? : β → Option α) :
      Made α c shape → Made β (c.embed into back?) shape

end Converter

/-- How the converter of a kind is made. -/
def Kind.shape : Kind → Converter.Shape
  | .list delimiter element => .list delimiter element.shape
  | k => .single k.converter.typeName

theorem Kind.made (k : Kind) : Converter.Made Value k.converter k.shape := by
  induction k with
  | string => exact .embed _ _ .string
  | integer t => exact .embed _ _ (.integer t)
  | float w => exact .embed _ _ (.float w)
  | boolean => exact .embed _ _ .boolean
  | duration => exact .embed _ _ .duration
  | custom typeName decode encode => exact .embed _ _ (.custom typeName decode encode)
  | list delimiter element ih => exact .embed _ _ (.list delimiter ih)

namespace Converter

variable {α β : Type} {c : Converter α} {element : Converter α} {shape : Shape}
  {raw delimiter : String} {e : Failure}

/-! ### What failures name -/

theorem Shape.named_eq_iff : shape.named raw = raw ↔
    ∀ element, shape = .list "" element → trim raw.toList = raw.toList := by
  cases shape with
  | single typeName => simp [Shape.named]
  | list delimiter element =>
    by_cases hdelimiter : delimiter = "" <;>
      simp [Shape.named, hdelimiter, String.ext_iff]

theorem exists_conversion_of_ofMismatch {typeName : String} {decode : String → Except Mismatch α}
    {encode : α → String} (h : (ofMismatch typeName decode encode).decode raw = .error e) :
    ∃ cause, e = .conversion raw typeName cause := by
  obtain ⟨cause, -, rfl⟩ := exists_of_mapError_eq_error h
  exact ⟨cause, rfl⟩

theorem decode_embed_eq_error_iff {into : α → β} {back? : β → Option α} :
    (c.embed into back?).decode raw = .error e ↔ c.decode raw = .error e := map_eq_error_iff

/-- Lists between delimiters fail as the first item that cannot be decoded, once it is trimmed. -/
theorem decode_list_eq_error_iff (hdelimiter : delimiter ≠ "") :
    (list delimiter element).decode raw = .error e ↔
      trim raw.toList ≠ [] ∧ ∃ before item after failure,
        split delimiter.toList raw.toList = before ++ item :: after ∧
        (∀ b ∈ before, ∃ v, element.decode (String.ofList (trim b)) = .ok v) ∧
        element.decode (String.ofList (trim item)) = .error failure ∧
        e = inList raw (String.ofList (trim item)) failure := by
  by_cases hblank : trim raw.toList = []
  · rw [decode_list_of_blank hblank]
    simp [hblank]
  · rw [decode_list hblank hdelimiter, mapM_eq_error_iff]
    constructor
    · rintro ⟨before, item, after, hsplit, hbefore, hitem⟩
      obtain ⟨failure, hfailure, rfl⟩ := exists_of_mapError_eq_error hitem
      refine ⟨hblank, before, item, after, failure, hsplit, fun b hb => ?_, hfailure, rfl⟩
      obtain ⟨v, hv⟩ := hbefore b hb
      exact ⟨v, exists_of_mapError_eq_ok hv⟩
    · rintro ⟨-, before, item, after, failure, hsplit, hbefore, hitem, rfl⟩
      refine ⟨before, item, after, hsplit, fun b hb => ?_, by rw [hitem]; rfl⟩
      obtain ⟨v, hv⟩ := hbefore b hb
      exact ⟨v, by rw [hv]; rfl⟩

/-- What cannot be converted is a failure that names the text and the innermost type. -/
theorem exists_conversion_of_decode (hmade : Made α c shape) (h : c.decode raw = .error e) :
    ∃ cause, e = .conversion (shape.named raw) shape.target cause := by
  induction hmade generalizing raw e with
  | string => cases h
  | integer | float | boolean | duration | custom => exact exists_conversion_of_ofMismatch h
  | @list α element shape delimiter hmade ih =>
    by_cases hdelimiter : delimiter = ""
    · subst hdelimiter
      by_cases hblank : trim raw.toList = []
      · rw [decode_list_of_blank hblank] at h
        cases h
      · rw [decode_list_bare hblank] at h
        obtain ⟨cause, rfl⟩ := ih (map_eq_error_iff.1 h)
        refine ⟨cause, ?_⟩
        -- What is trimmed already is not changed by a further list with an empty delimiter.
        have hnamed : shape.named (String.ofList (trim raw.toList)) =
            String.ofList (trim raw.toList) := by
          cases shape <;> simp [Shape.named, trim_trim]
        rw [hnamed]
        rfl
    · obtain ⟨-, before, item, after, failure, -, -, hitem, rfl⟩ :=
        (decode_list_eq_error_iff hdelimiter).1 h
      obtain ⟨cause, rfl⟩ := ih hitem
      have hnamed : (Shape.list delimiter shape).named raw = raw := by
        simp [Shape.named, hdelimiter]
      rw [hnamed]
      exact ⟨_, rfl⟩
  | embed into back? hmade ih => exact ih (decode_embed_eq_error_iff.1 h)

/-- A failure to convert names the text that was to be converted, less the blanks around it if it is
that of a list with an empty delimiter, and the innermost type. Lists between delimiters fail for the
first item that is not decoded, which their explanation quotes in trimmed form. The converters of all
kinds are of this sort. -/
theorem failures_of_decode (hmade : Made α c shape) :
    (∀ raw e, c.decode raw = .error e →
      (∃ cause, e = .conversion (shape.named raw) shape.target cause) ∧
      ((∃ cause, e = .conversion raw shape.target cause) ↔
        ∀ element, shape = .list "" element → trim raw.toList = raw.toList)) ∧
    (∀ delimiter, delimiter ≠ "" → ∀ raw e, (list delimiter c).decode raw = .error e ↔
      trim raw.toList ≠ [] ∧ ∃ before item after cause,
        split delimiter.toList raw.toList = before ++ item :: after ∧
        (∀ b ∈ before, ∃ v, c.decode (String.ofList (trim b)) = .ok v) ∧
        (∃ named, c.decode (String.ofList (trim item)) =
          .error (.conversion named shape.target cause)) ∧
        e = .conversion raw shape.target (.element (String.ofList (trim item)) cause)) ∧
    (∀ (item : String) (cause : Mismatch), (Mismatch.element item cause).message =
      "element " ++ quoted item ++ ": " ++ cause.message) ∧
    ∀ k : Kind, Made Value k.converter k.shape := by
  refine ⟨fun raw e h => ?_, fun delimiter hdelimiter raw e => ?_, fun _ _ => rfl, Kind.made⟩
  · obtain ⟨cause, rfl⟩ := exists_conversion_of_decode hmade h
    refine ⟨⟨cause, rfl⟩, ?_⟩
    rw [← Shape.named_eq_iff]
    constructor
    · rintro ⟨_, hcause⟩
      injection hcause
    · intro hnamed
      exact ⟨cause, by rw [hnamed]⟩
  · rw [decode_list_eq_error_iff hdelimiter]
    constructor
    · rintro ⟨hblank, before, item, after, failure, hsplit, hbefore, hitem, rfl⟩
      obtain ⟨cause, rfl⟩ := exists_conversion_of_decode hmade hitem
      exact ⟨hblank, before, item, after, cause, hsplit, hbefore, ⟨_, hitem⟩, rfl⟩
    · rintro ⟨hblank, before, item, after, cause, hsplit, hbefore, ⟨named, hitem⟩, rfl⟩
      exact ⟨hblank, before, item, after, _, hsplit, hbefore, hitem, rfl⟩

/-- A list of lists of ports whose second item is no port, in a text with blanks around it. -/
theorem failures_of_decode_of_ports :
    (Made (List (List Int)) (list "," (list ";" (integer ⟨false, .w16⟩)))
        (.list "," (.list ";" (.single "u16"))) ∧
      (list "," (list ";" (integer ⟨false, .w16⟩))).decode " 1;2, 3;x " =
        .error (.conversion " 1;2, 3;x " "u16"
          (.element "3;x" (.element "x" (.integer .invalidDigit))))) ∧
    (∃ cause, Failure.conversion " 1;2, 3;x " "u16"
        (.element "3;x" (.element "x" (.integer .invalidDigit))) =
      .conversion " 1;2, 3;x " "u16" cause) ∧
    (∃ before item after, split [','] " 1;2, 3;x ".toList = before ++ item :: after ∧
      String.ofList (trim item) = "3;x") := by
  have hmade : Made (List (List Int)) (list "," (list ";" (integer ⟨false, .w16⟩)))
      (.list "," (.list ";" (.single "u16"))) := .list _ (.list _ (.integer _))
  have hdecode : (list "," (list ";" (integer ⟨false, .w16⟩))).decode " 1;2, 3;x " =
      .error (.conversion " 1;2, 3;x " "u16"
        (.element "3;x" (.element "x" (.integer .invalidDigit)))) := by decide +kernel
  refine ⟨⟨hmade, hdecode⟩, ((failures_of_decode hmade).1 _ _ hdecode).1, ?_⟩
  obtain ⟨-, hlists, -, -⟩ := failures_of_decode (.list ";" (.integer ⟨false, .w16⟩))
  obtain ⟨-, before, item, after, cause, hsplit, -, -, hfailure⟩ :=
    (hlists "," (by decide) _ _).1 hdecode
  injection hfailure with _ _ hcause
  injection hcause with hitem
  exact ⟨before, item, after, hsplit, hitem.symm⟩

/-- The failure of a list with an empty delimiter does not name the text as it was given. -/
theorem not_forall_named_eq_raw :
    ¬ ∀ (α : Type) (c : Converter α) (shape : Shape), Made α c shape →
      ∀ raw e, c.decode raw = .error e → ∃ cause, e = .conversion raw shape.target cause := by
  intro h
  have hdecode : (list "" (integer ⟨true, .w32⟩)).decode " x " =
      .error (.conversion "x" "i32" (.integer .invalidDigit)) := by decide +kernel
  obtain ⟨cause, hcause⟩ := h _ _ _ (.list "" (.integer ⟨true, .w32⟩)) _ _ hdecode
  injection hcause with hraw
  exact absurd hraw (by decide)

end Converter

end Strata
