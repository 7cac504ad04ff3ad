import Strata.Converter
import Strata.Proofs.Results
import Strata.Proofs.Texts

/-!
Lists that are encoded and decoded again, with a character between the items that is no blank. What
is encoded is cut at that character and trimmed, and a blank text is no item at all; so a list
survives if its encoded items are trimmed and do not hold the character, unless it has one item only,
which is encoded as nothing. For lists of texts there are no other lists that survive. Main statement:
`decode_encode_iff_separable`.
-/

namespace Strata.Converter

open Text

variable {α : Type} {element : Converter α} {delimiter raw : String} {c : Char}

/-! ### Decoding -/

theorem decode_list_of_blank (h : trim raw.toList = []) :
    (list delimiter element).decode raw = .ok [] := by
  simp [list, h]

theorem decode_list_bare (h : trim raw.toList ≠ []) :
    (list "" element).decode raw =
      (element.decode (String.ofList (trim raw.toList))).map fun v => [v] := by
  simp [list, h]

theorem decode_list (h : trim raw.toList ≠ []) (hdelimiter : delimiter ≠ "") :
    (list delimiter element).decode raw = (split delimiter.toList raw.toList).mapM fun item =>
      (element.decode (String.ofList (trim item))).mapError
        (inList raw (String.ofList (trim item))) := by
  simp [list, h, hdelimiter]

/-- Lists of texts are decoded by cutting and trimming. -/
theorem decode_list_string (h : trim raw.toList ≠ []) (hdelimiter : delimiter ≠ "") :
    (list delimiter string).decode raw =
      .ok ((split delimiter.toList raw.toList).map fun item => String.ofList (trim item)) := by
  rw [decode_list h hdelimiter]
  exact List.mapM_pure

theorem toList_encode_list (element : Converter α) (c : Char) (v : List α) :
    ((list (String.singleton c) element).encode v).toList =
      [c].intercalate ((v.map element.encode).map String.toList) := by
  simp [list, String.toList_intercalate]

/-! ### Lists that survive -/

/-- Encoded items that can be told apart when a character is put between them. They are trimmed and
do not hold it, and they are not a single item that is encoded as nothing. -/
structure Separable (c : Char) (items : List String) : Prop where
  trimmed : ∀ t ∈ items, trim t.toList = t.toList
  apart : ∀ t ∈ items, c ∉ t.toList
  ne_blank : items ≠ [""]

/-- Items that can be told apart are not blank together, unless there is none. -/
theorem Separable.trim_ne_nil {items : List String} (hc : isBlank c = false)
    (h : Separable c items) (hne : items ≠ []) :
    trim ([c].intercalate (items.map String.toList)) ≠ [] := by
  rw [Ne, trim_eq_nil_iff]
  intro hblank
  match items, hne with
  | [t], _ =>
    have ht : trim t.toList = [] := trim_eq_nil_iff.2 (by simpa using hblank)
    rw [h.trimmed t List.mem_cons_self, String.toList_eq_nil_iff] at ht
    exact h.ne_blank (by rw [ht])
  | t :: t' :: items, _ =>
    have hmem : c ∈ [c].intercalate ((t :: t' :: items).map String.toList) := by
      simp [List.intercalate_cons_cons]
    rw [hblank c hmem] at hc
    cases hc

theorem decode_encode_of_separable (hc : isBlank c = false) {v : List α}
    (hv : ∀ x ∈ v, element.decode (element.encode x) = .ok x)
    (h : Separable c (v.map element.encode)) :
    (list (String.singleton c) element).decode ((list (String.singleton c) element).encode v) =
      .ok v := by
  have htext := toList_encode_list element c v
  by_cases hne : v = []
  · subst hne
    exact decode_list_of_blank (by rw [htext]; rfl)
  · have hitems : v.map element.encode ≠ [] := by simpa using hne
    have hsplit : split [c] ([c].intercalate ((v.map element.encode).map String.toList)) =
        (v.map element.encode).map String.toList := by
      refine split_intercalate (fun t ht => ?_) (by simpa using hne)
      obtain ⟨item, hitem, rfl⟩ := List.mem_map.1 ht
      exact h.apart item hitem
    rw [decode_list (by rw [htext]; exact h.trim_ne_nil hc hitems) (by simp), htext,
      String.toList_singleton, hsplit, List.map_map]
    apply mapM_map_ok
    intro x hx
    have htrim : trim (element.encode x).toList = (element.encode x).toList :=
      h.trimmed _ (List.mem_map_of_mem hx)
    rw [Function.comp_apply, htrim, String.ofList_toList, hv x hx]
    rfl

/-- Of lists of texts no others survive: what is decoded is trimmed, and does not hold the character
at which it was cut. -/
theorem separable_of_decode_encode {v : List String}
    (h : (list (String.singleton c) string).decode
      ((list (String.singleton c) string).encode v) = .ok v) : Separable c v := by
  have htext := toList_encode_list string c v
  by_cases hblank : trim ((list (String.singleton c) string).encode v).toList = []
  · rw [decode_list_of_blank hblank] at h
    obtain rfl : [] = v := Except.ok.inj h
    exact ⟨by simp, by simp, by simp⟩
  · rw [decode_list_string hblank (by simp), String.toList_singleton] at h
    have hitems := Except.ok.inj h
    refine ⟨?_, ?_, ?_⟩
    · intro t ht
      rw [← hitems] at ht
      obtain ⟨item, -, rfl⟩ := List.mem_map.1 ht
      rw [String.toList_ofList, trim_trim]
    · intro t ht hmem
      rw [← hitems] at ht
      obtain ⟨item, hitem, rfl⟩ := List.mem_map.1 ht
      rw [String.toList_ofList] at hmem
      exact not_mem_of_mem_split hitem ((trim_sublist item).mem hmem)
    · rintro rfl
      rw [htext] at hblank
      exact hblank rfl

/-- A list is decoded as it was encoded if its items are and their encodings can be told apart. For
lists of texts it is so only then. -/
theorem decode_encode_iff_separable (c : Char) (hc : isBlank c = false) :
    (∀ (α : Type) (element : Converter α) (v : List α),
      (∀ x ∈ v, element.decode (element.encode x) = .ok x) →
      Separable c (v.map element.encode) →
        (list (String.singleton c) element).decode
          ((list (String.singleton c) element).encode v) = .ok v) ∧
    ∀ v : List String, (list (String.singleton c) string).decode
      ((list (String.singleton c) string).encode v) = .ok v ↔ Separable c v := by
  refine ⟨fun α element v hv h => decode_encode_of_separable hc hv h, fun v => ?_⟩
  constructor
  · exact separable_of_decode_encode
  · intro h
    refine decode_encode_of_separable hc (fun _ _ => rfl) ?_
    have hencode : v.map string.encode = v := List.map_id v
    rwa [hencode]

/-- Ports between semicolons, and lists of texts between semicolons. -/
theorem decode_encode_of_ports :
    (isBlank ';' = false ∧
      (∀ x ∈ [80, 443], (integer ⟨false, .w16⟩).decode ((integer ⟨false, .w16⟩).encode x) = .ok x) ∧
      Separable ';' ([80, 443].map (integer ⟨false, .w16⟩).encode)) ∧
    (list (String.singleton ';') (integer ⟨false, .w16⟩)).decode
        ((list (String.singleton ';') (integer ⟨false, .w16⟩)).encode [80, 443]) = .ok [80, 443] ∧
      (list (String.singleton ';') string).decode
        ((list (String.singleton ';') string).encode ["a", " b"]) ≠ .ok ["a", " b"] := by
  have hblank : isBlank ';' = false := by decide
  have hitems : ∀ x ∈ [80, 443],
      (integer ⟨false, .w16⟩).decode ((integer ⟨false, .w16⟩).encode x) = .ok x := by
    decide +kernel
  have hseparable : Separable ';' ([80, 443].map (integer ⟨false, .w16⟩).encode) :=
    ⟨by decide +kernel, by decide +kernel, by decide +kernel⟩
  obtain ⟨hsurvives, honly⟩ := decode_encode_iff_separable ';' hblank
  refine ⟨⟨hblank, hitems, hseparable⟩, hsurvives _ _ _ hitems hseparable, fun h => ?_⟩
  have htrim := ((honly _).1 h).trimmed " b" (by simp)
  exact absurd htrim (by decide +kernel)

end Strata.Converter
