import Mathlib.Data.List.Nodup
import Strata.Document.Flatten
import Strata.Proofs.Integers
import Strata.Proofs.Tables

/-!
Flattened documents. A document is a tree whose leaves are its scalars and its lists of scalars; each
leaf has a way that leads to it, through the fields of objects and the positions of lists
(`HasLeaf`). Flattening visits exactly the leaves (`mem_leaves`). If keys are not empty and have no
point in them, the steps of a way can be read off the key (`name_eq_of_dotted_eq`); and though a
position may be spelt like a key, no document has both at one place, so the steps tell the leaf
(`HasLeaf.eq_of_name_eq`). Main statement: `flatten_object`.
-/

namespace Strata.Document

open Number

/-! ### Leaves -/

/-- A step into a document: to a field of an object, or to a position in a list. -/
inductive Step where
  | field (key : String)
  | item (i : Nat)
  deriving DecidableEq, Repr

/-- How a step is written in a key. -/
def Step.name : Step → String
  | .field key => key
  | .item i => toString i

/-- The key that the way to a leaf is written as. -/
def dotted (way : List Step) : String := ".".intercalate (way.map Step.name)

/-- A document has a leaf with a text at the end of a way. Leaves are scalars other than null, and
lists of nothing but scalars as a whole; no way leads into such a list. -/
inductive HasLeaf : Document → List Step → String → Prop
  | scalar {d : Document} {text : String} : d.scalarText? = some text → HasLeaf d [] text
  | scalars {items : List Document} : (∀ d ∈ items, d.isScalar = true) →
      HasLeaf (.list items) [] (",".intercalate (items.filterMap scalarText?))
  | item {items : List Document} {i : Nat} {d : Document} {way : List Step} {text : String} :
      (∃ d ∈ items, d.isScalar = false) → items[i]? = some d → HasLeaf d way text →
      HasLeaf (.list items) (.item i :: way) text
  | field {fields : List (String × Document)} {key : String} {d : Document} {way : List Step}
      {text : String} : (key, d) ∈ fields → HasLeaf d way text →
      HasLeaf (.object fields) (.field key :: way) text

/-- A document whose objects, at every depth, have no key twice, and have keys that are not empty and
have no point in them. -/
inductive IsPlain : Document → Prop
  | scalar {d : Document} : d.isScalar = true → IsPlain d
  | list {items : List Document} : (∀ d ∈ items, IsPlain d) → IsPlain (.list items)
  | object {fields : List (String × Document)} : (fields.map (·.1)).Nodup →
      (∀ f ∈ fields, f.1 ≠ "" ∧ '.' ∉ f.1.toList) → (∀ f ∈ fields, IsPlain f.2) →
      IsPlain (.object fields)

/-- A path that is extended step by step. -/
def extended (path : String) (way : List Step) : String :=
  way.foldl (fun path step => extendPath path step.name) path

/-- Some way from a path on leads to a leaf, and the whole is written as a key. -/
def Reaches (d : Document) (path key text : String) : Prop :=
  ∃ way, d.HasLeaf way text ∧ key = extended path way ∧ key ≠ ""

variable {d : Document} {items : List Document} {fields : List (String × Document)}
  {path key text text' : String} {way way' : List Step}

/-! ### The parts of a flattened document -/

theorem mem_leaf : (key, text) ∈ leaf path text' ↔ text' = text ∧ key = path ∧ key ≠ "" := by
  rw [leaf]
  by_cases hpath : path = ""
  · subst hpath
    simp
  · simp only [String.isEmpty_iff, hpath, if_false, List.mem_singleton, Prod.mk.injEq]
    constructor
    · rintro ⟨rfl, rfl⟩
      exact ⟨rfl, rfl, hpath⟩
    · rintro ⟨rfl, rfl, -⟩
      exact ⟨rfl, rfl⟩

theorem reaches_of_isScalar (h : d.isScalar = true) :
    d.Reaches path key text ↔ d.scalarText? = some text ∧ key = path ∧ key ≠ "" := by
  constructor
  · rintro ⟨way, hleaf, rfl, hne⟩
    cases hleaf with
    | scalar hd => exact ⟨hd, rfl, hne⟩
    | scalars | item | field => cases h
  · rintro ⟨hd, rfl, hne⟩
    exact ⟨[], .scalar hd, rfl, hne⟩

theorem reaches_scalars (h : ∀ d ∈ items, d.isScalar = true) :
    (list items).Reaches path key text ↔
      ",".intercalate (items.filterMap scalarText?) = text ∧ key = path ∧ key ≠ "" := by
  constructor
  · rintro ⟨way, hleaf, rfl, hne⟩
    cases hleaf with
    | scalar hd => cases hd
    | scalars => exact ⟨rfl, rfl, hne⟩
    | item hitem =>
      obtain ⟨d, hd, hfalse⟩ := hitem
      simp [h d hd] at hfalse
  · rintro ⟨rfl, rfl, hne⟩
    exact ⟨[], .scalars h, rfl, hne⟩

theorem reaches_list (h : ∃ d ∈ items, d.isScalar = false) :
    (list items).Reaches path key text ↔
      ∃ (i : Nat) (d : Document), items[i]? = some d ∧
        d.Reaches (extendPath path (toString i)) key text := by
  constructor
  · rintro ⟨way, hleaf, rfl, hne⟩
    cases hleaf with
    | scalar hd => cases hd
    | scalars hall =>
      obtain ⟨d, hd, hfalse⟩ := h
      simp [hall d hd] at hfalse
    | item _ hi hleaf => exact ⟨_, _, hi, _, hleaf, rfl, hne⟩
  · rintro ⟨i, d, hi, way, hleaf, rfl, hne⟩
    exact ⟨.item i :: way, .item h hi hleaf, rfl, hne⟩

theorem reaches_object : (object fields).Reaches path key text ↔
    ∃ f ∈ fields, Reaches f.2 (extendPath path f.1) key text := by
  constructor
  · rintro ⟨way, hleaf, rfl, hne⟩
    cases hleaf with
    | scalar hd => cases hd
    | field hf hleaf => exact ⟨_, hf, _, hleaf, rfl, hne⟩
  · rintro ⟨f, hf, way, hleaf, rfl, hne⟩
    exact ⟨.field f.1 :: way, .field hf hleaf, rfl, hne⟩

mutual

/-- What a document gives are its leaves, each with its path as the key. -/
theorem mem_leaves : ∀ (d : Document) (path : String),
    (key, text) ∈ d.leaves path ↔ d.Reaches path key text
  | .null, path => by
    rw [leaves, reaches_of_isScalar rfl]
    simp [scalarText?]
  | .boolean b, path => by
    rw [leaves, mem_leaf, reaches_of_isScalar rfl, scalarText?, Option.some.injEq]
  | .number n, path => by
    rw [leaves, mem_leaf, reaches_of_isScalar rfl, scalarText?, Option.some.injEq]
  | .text s, path => by
    rw [leaves, mem_leaf, reaches_of_isScalar rfl, scalarText?, Option.some.injEq]
  | .list items, path => by
    rw [leaves]
    by_cases hall : ∀ d ∈ items, d.isScalar = true
    · rw [if_pos (List.all_eq_true.2 hall), mem_leaf, reaches_scalars hall]
    · rw [if_neg fun h => hall (List.all_eq_true.1 h), mem_itemLeaves items path 0, reaches_list]
      · simp only [Nat.zero_add]
      · simpa using hall
  | .object fields, path => by rw [leaves, mem_fieldLeaves fields path, reaches_object]
termination_by structural d => d

theorem mem_itemLeaves : ∀ (items : List Document) (path : String) (i : Nat),
    (key, text) ∈ itemLeaves path i items ↔ ∃ j d, items[j]? = some d ∧
      Reaches d (extendPath path (toString (i + j))) key text
  | [], path, i => by simp [itemLeaves]
  | d :: items, path, i => by
    rw [itemLeaves, List.mem_append, mem_leaves d, mem_itemLeaves items path (i + 1)]
    constructor
    · rintro (h | ⟨j, d', hj, h⟩)
      · exact ⟨0, d, rfl, h⟩
      · refine ⟨j + 1, d', hj, ?_⟩
        rwa [Nat.add_right_comm] at h
    · rintro ⟨j, d', hj, h⟩
      cases j with
      | zero =>
        obtain rfl := Option.some.inj hj
        exact .inl h
      | succ j =>
        refine .inr ⟨j, d', hj, ?_⟩
        rwa [Nat.add_right_comm]
termination_by structural items => items

theorem mem_fieldLeaves : ∀ (fields : List (String × Document)) (path : String),
    (key, text) ∈ fieldLeaves path fields ↔
      ∃ f ∈ fields, Reaches f.2 (extendPath path f.1) key text
  | [], path => by simp [fieldLeaves]
  | (name, d) :: fields, path => by
    rw [fieldLeaves, List.mem_append, mem_leaves d, mem_fieldLeaves fields path]
    simp only [List.mem_cons, exists_eq_or_imp]
termination_by structural fields => fields

end

/-! ### Keys -/

theorem toList_dotted (way : List Step) :
    (dotted way).toList = ['.'].intercalate (way.map fun step => step.name.toList) := by
  simp [dotted, String.toList_intercalate, List.map_map, Function.comp_def]

theorem extended_of_ne (way : List Step) : ∀ {path : String}, path ≠ "" →
    (extended path way).toList =
      ['.'].intercalate (path.toList :: way.map fun step => step.name.toList) := by
  induction way with
  | nil => simp [extended]
  | cons step way ih =>
    intro path hpath
    have hnext : extendPath path step.name = path ++ "." ++ step.name := by
      simp [extendPath, hpath]
    have hne : path ++ "." ++ step.name ≠ "" := by simp
    have hstep : extended path (step :: way) = extended (path ++ "." ++ step.name) way := by
      rw [← hnext]
      rfl
    rw [hstep, ih hne]
    cases way <;> simp [List.intercalate_cons_cons]

/-- A step whose name can be told apart between points. -/
def Step.IsClean (step : Step) : Prop := step.name ≠ "" ∧ '.' ∉ step.name.toList

theorem Step.toList_name_item (i : Nat) : (Step.item i).name.toList = Nat.toDigits 10 i :=
  String.toList_ofList

theorem Step.isClean_item (i : Nat) : (Step.item i).IsClean := by
  constructor
  · intro hempty
    have hdigits := Step.toList_name_item i
    rw [hempty] at hdigits
    exact Nat.toDigits_ne_nil hdigits.symm
  · rw [Step.toList_name_item]
    exact fun hpoint => absurd (isDigit_of_mem_toDigits hpoint) (by decide)

theorem Step.item_inj {i j : Nat} (h : (Step.item i).name = (Step.item j).name) : i = j := by
  have hvalue := congrArg (digitsValue ∘ String.toList) h
  simpa only [Function.comp_apply, Step.toList_name_item, digitsValue_toDigits] using hvalue

theorem IsPlain.of_mem (h : IsPlain (.list items)) (hd : d ∈ items) : d.IsPlain := by
  cases h with
  | scalar h => cases h
  | list hitems => exact hitems d hd

theorem IsPlain.of_object (h : IsPlain (.object fields)) : (fields.map (·.1)).Nodup ∧
    (∀ f ∈ fields, (Step.field f.1).IsClean) ∧ ∀ f ∈ fields, IsPlain f.2 := by
  cases h with
  | scalar h => cases h
  | object hkeys hclean hfields => exact ⟨hkeys, hclean, hfields⟩

theorem HasLeaf.isClean (h : d.HasLeaf way text) (hplain : d.IsPlain) :
    ∀ step ∈ way, step.IsClean := by
  induction h with
  | scalar | scalars => simp
  | item _ hi _ ih =>
    have hd := hplain.of_mem (List.mem_of_getElem? hi)
    exact List.forall_mem_cons.2 ⟨Step.isClean_item _, ih hd⟩
  | field hf _ ih =>
    obtain ⟨-, hclean, hfields⟩ := hplain.of_object
    exact List.forall_mem_cons.2 ⟨hclean _ hf, ih (hfields _ hf)⟩

/-- The steps of a way can be read off the key. -/
theorem name_eq_of_dotted_eq (hway : ∀ step ∈ way, step.IsClean)
    (hway' : ∀ step ∈ way', step.IsClean) (hne : way ≠ []) (hne' : way' ≠ [])
    (h : dotted way = dotted way') : way.map Step.name = way'.map Step.name := by
  have hsplit : ∀ way : List Step, (∀ step ∈ way, step.IsClean) → way ≠ [] →
      (dotted way).toList.splitOn '.' = (way.map Step.name).map String.toList := by
    intro way hway hne
    rw [toList_dotted, List.splitOn_intercalate, List.map_map]
    · rfl
    · intro s hs
      obtain ⟨step, hstep, rfl⟩ := List.mem_map.1 hs
      exact (hway step hstep).2
    · simpa using hne
  have hnames := hsplit way hway hne
  rw [h, hsplit way' hway' hne'] at hnames
  exact (List.map_injective_iff.2 fun _ _ => String.toList_inj.1) hnames.symm

/-- No two leaves have the same steps written in the same way. -/
theorem HasLeaf.eq_of_name_eq (h : d.HasLeaf way text) (hplain : d.IsPlain)
    (h' : d.HasLeaf way' text') (hname : way.map Step.name = way'.map Step.name) :
    way = way' ∧ text = text' := by
  induction h generalizing way' with
  | scalar hd =>
    cases h' with
    | scalar hd' => exact ⟨rfl, Option.some.inj (hd.symm.trans hd')⟩
    | scalars => cases hd
    | item | field => cases hname
  | scalars hall =>
    cases h' with
    | scalar hd' => cases hd'
    | scalars => exact ⟨rfl, rfl⟩
    | item => cases hname
  | item hsome hi _ ih =>
    cases h' with
    | scalar | scalars => cases hname
    | item _ hi' hleaf' =>
      obtain ⟨hhead, htail⟩ := List.cons.inj hname
      obtain rfl := Step.item_inj hhead
      obtain rfl := Option.some.inj (hi.symm.trans hi')
      obtain ⟨rfl, rfl⟩ := ih (hplain.of_mem (List.mem_of_getElem? hi)) hleaf' htail
      exact ⟨rfl, rfl⟩
  | field hf _ ih =>
    cases h' with
    | scalar => cases hname
    | field hf' hleaf' =>
      obtain ⟨hhead, htail⟩ := List.cons.inj hname
      obtain ⟨hkeys, -, hfields⟩ := hplain.of_object
      obtain ⟨rfl, rfl⟩ := Prod.mk.inj (List.inj_on_of_nodup_map hkeys hf hf' hhead)
      obtain ⟨rfl, rfl⟩ := ih (hfields _ hf) hleaf' htail
      exact ⟨rfl, rfl⟩

/-- An object is no leaf itself. -/
theorem HasLeaf.ne_nil (h : (object fields).HasLeaf way text) : way ≠ [] := by
  cases h with
  | scalar hd => cases hd
  | field => exact List.cons_ne_nil _ _

/-- The key of a leaf, extended step by step from nothing, is its way with points between the
steps. -/
theorem HasLeaf.extended_eq (h : (object fields).HasLeaf way text)
    (hplain : (object fields).IsPlain) : extended "" way = dotted way ∧ dotted way ≠ "" := by
  obtain ⟨step, rest, rfl⟩ := List.exists_cons_of_ne_nil h.ne_nil
  have hname : step.name ≠ "" := (h.isClean hplain step List.mem_cons_self).1
  have hstep : extended "" (step :: rest) = extended step.name rest := rfl
  have htext : (extended step.name rest).toList = (dotted (step :: rest)).toList := by
    rw [extended_of_ne rest hname, toList_dotted, List.map_cons]
  refine ⟨hstep.trans (String.toList_inj.1 htext), fun hempty => hname ?_⟩
  rw [← String.toList_inj, toList_dotted] at hempty
  cases rest with
  | nil => simpa using hempty
  | cons => simp [List.intercalate_cons_cons] at hempty

theorem mem_leaves_object (hplain : (object fields).IsPlain) :
    (key, text) ∈ (object fields).leaves "" ↔
      ∃ way, (object fields).HasLeaf way text ∧ dotted way = key := by
  rw [mem_leaves]
  constructor
  · rintro ⟨way, hleaf, rfl, -⟩
    exact ⟨way, hleaf, (hleaf.extended_eq hplain).1.symm⟩
  · rintro ⟨way, hleaf, rfl⟩
    obtain ⟨hkey, hne⟩ := hleaf.extended_eq hplain
    exact ⟨way, hleaf, hkey.symm, hne⟩

/-- Leaves have keys of their own. -/
theorem HasLeaf.eq_of_dotted_eq (h : (object fields).HasLeaf way text)
    (hplain : (object fields).IsPlain) (h' : (object fields).HasLeaf way' text')
    (hkey : dotted way = dotted way') : way = way' ∧ text = text' :=
  h.eq_of_name_eq hplain h'
    (name_eq_of_dotted_eq (h.isClean hplain) (h'.isClean hplain) h.ne_nil h'.ne_nil hkey)

theorem get?_flatten (hplain : (object fields).IsPlain) :
    (object fields).flatten.get? key = some text ↔
      ∃ way, (object fields).HasLeaf way text ∧ dotted way = key := by
  rw [flatten, Table.get?_ofList_of_unique, mem_leaves_object hplain]
  intro k v w hv hw
  obtain ⟨way, hleaf, rfl⟩ := (mem_leaves_object hplain).1 hv
  obtain ⟨way', hleaf', hkey⟩ := (mem_leaves_object hplain).1 hw
  exact (hleaf.eq_of_dotted_eq hplain hleaf' hkey.symm).2

/-- The entries of a flattened object are its leaves, each of them once. -/
theorem exists_leaves (hplain : (object fields).IsPlain) :
    ∃ ls : List (List Step × String), ls.Nodup ∧
      (∀ l, l ∈ ls ↔ (object fields).HasLeaf l.1 l.2) ∧
      (object fields).flatten.entries = ls.map fun l => (dotted l.1, l.2) := by
  have hentries : ∀ e, e ∈ (object fields).flatten.entries ↔
      ∃ way, (object fields).HasLeaf way e.2 ∧ dotted way = e.1 := fun e => by
    rw [← get?_flatten hplain, Table.get?_eq_some]
  choose way hway using fun e : { e // e ∈ (object fields).flatten.entries } =>
    (hentries e.1).1 e.2
  have hmap : (object fields).flatten.entries =
      ((object fields).flatten.entries.attach.map fun e => (way e, e.1.2)).map
        fun l => (dotted l.1, l.2) := by
    rw [List.map_map]
    conv_lhs => rw [← List.attach_map_subtype_val (object fields).flatten.entries]
    exact List.map_congr_left fun e _ => by rw [Function.comp_apply, (hway e).2]
  have hnodup := (object fields).flatten.nodup_entries
  rw [hmap] at hnodup
  refine ⟨_, hnodup.of_map _, fun l => ⟨fun hl => ?_, fun hl => ?_⟩, hmap⟩
  · obtain ⟨e, -, rfl⟩ := List.mem_map.1 hl
    exact (hway e).1
  · have hmem : (dotted l.1, l.2) ∈ (object fields).flatten.entries :=
      (hentries _).2 ⟨l.1, hl, rfl⟩
    obtain ⟨hleaf, hkey⟩ := hway ⟨_, hmem⟩
    obtain ⟨hsame, -⟩ := hleaf.eq_of_dotted_eq hplain hl hkey
    exact List.mem_map.2 ⟨⟨_, hmem⟩, List.mem_attach _ _, by rw [hsame]⟩

/-- An object is flattened into its leaves. Each key with its text is a leaf with its path, no two
leaves have one key, and so there are as many keys as leaves. -/
theorem flatten_object (fields : List (String × Document)) (hplain : (object fields).IsPlain) :
    (∀ key text, (object fields).flatten.get? key = some text ↔
      ∃ way, (object fields).HasLeaf way text ∧ dotted way = key) ∧
    (∀ way text way' text', (object fields).HasLeaf way text →
      (object fields).HasLeaf way' text' → dotted way = dotted way' → way = way' ∧ text = text') ∧
    ∃ ls : List (List Step × String), ls.Nodup ∧
      (∀ l, l ∈ ls ↔ (object fields).HasLeaf l.1 l.2) ∧
      (object fields).flatten.entries = (ls.map fun l => (dotted l.1, l.2)) ∧
      (object fields).flatten.size = ls.length := by
  obtain ⟨ls, hnodup, hleaves, hentries⟩ := exists_leaves hplain
  refine ⟨fun key text => get?_flatten hplain,
    fun way text way' text' h h' hkey => h.eq_of_dotted_eq hplain h' hkey,
    ls, hnodup, hleaves, hentries, ?_⟩
  rw [Table.size, hentries, List.length_map]

/-- Rows of several kinds: an object, nothing, scalars, and no scalars at all. -/
def mixedRows : List Document :=
  [.object [("0", .number (.whole 1))], .null, .list [.number (.whole 2), .null, .boolean true],
    .list []]

/-- An object with a key and a position that are spelt alike. -/
theorem flatten_object_of_rows :
    (object [("0", .text "x"), ("rows", .list mixedRows), ("unset", .null)]).IsPlain ∧
    (object [("0", .text "x"), ("rows", .list mixedRows), ("unset", .null)]).flatten.get?
        "rows.0.0" = some "1" ∧
      (object [("0", .text "x"), ("rows", .list mixedRows), ("unset", .null)]).flatten.get?
        "rows.2" = some "2,true" := by
  have hplain :
      (object [("0", .text "x"), ("rows", .list mixedRows), ("unset", .null)]).IsPlain := by
    refine .object (by decide) (by decide) ?_
    simp only [List.forall_mem_cons]
    refine ⟨.scalar rfl, .list ?_, .scalar rfl, by simp⟩
    simp only [mixedRows, List.forall_mem_cons]
    refine ⟨.object (by decide) (by decide) ?_, .scalar rfl, .list ?_, .list (by simp), by simp⟩
    · simp only [List.forall_mem_cons]
      exact ⟨.scalar rfl, by simp⟩
    · simp only [List.forall_mem_cons]
      exact ⟨.scalar rfl, .scalar rfl, .scalar rfl, by simp⟩
  have hmixed : ∃ d ∈ mixedRows, d.isScalar = false := ⟨_, List.mem_cons_self, rfl⟩
  obtain ⟨hkeys, -, -⟩ := flatten_object _ hplain
  refine ⟨hplain, (hkeys _ _).2 ⟨[.field "rows", .item 0, .field "0"], ?_, by decide +kernel⟩,
    (hkeys _ _).2 ⟨[.field "rows", .item 2], ?_, by decide +kernel⟩⟩
  · exact .field (by simp) (.item hmixed rfl (.field List.mem_cons_self (.scalar rfl)))
  · exact .field (by simp) (.item hmixed rfl (.scalars (by decide)))

end Strata.Document
