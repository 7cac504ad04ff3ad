import Strata.Proofs.Lines

/-!
Properties that are written out, one in each line, and read again. The first equality sign of a line
is the one after the key, so a key and a value come back as they were if the key is trimmed and holds
no equality sign, does not look like a remark, and neither of them breaks the line
(`assignments_written`). Remarks between the lines and blanks around the keys change nothing. Main
statement: `parse_written`.
-/

namespace Strata.Properties

open Text

/-! ### Writing -/

/-- A line of a property file: a remark, or a property with blanks before and after its key. -/
inductive Line where
  | remark (s : List Char)
  | property (before : List Char) (entry : String × String) (after : List Char)

namespace Line

/-- The text of a line. -/
def text : Line → List Char
  | .remark s => s
  | .property before entry after => before ++ entry.1.toList ++ after ++ '=' :: entry.2.toList

/-- The property in a line. -/
def entry? : Line → Option (String × String)
  | .remark _ => none
  | .property _ entry _ => some entry

/-- Whether what a line has beside a property, or in its place, keeps to the line: it is a remark
without a line feed, or it is blanks other than line feeds. -/
def IsLoose : Line → Prop
  | .remark s => IsRemark s ∧ '\n' ∉ s
  | .property before _ after => ∀ c ∈ before ++ after, isBlank c = true ∧ c ≠ '\n'

instance : (l : Line) → Decidable l.IsLoose
  | .remark s => inferInstanceAs (Decidable (IsRemark s ∧ '\n' ∉ s))
  | .property before _ after => List.decidableBAll _ (before ++ after)

end Line

/-- Lines, each with a line feed at its end. -/
def written (ls : List Line) : String := String.ofList (ls.flatMap fun l => l.text ++ ['\n'])

/-- Properties, one in each line and nothing else. -/
def plain (es : List (String × String)) : String := written (es.map fun e => .property [] e [])

/-- A property that can be written out: its key is trimmed, is not empty, has no equality sign and no
line feed in it and does not begin with a number sign; and its value has no line feed in it and no
carriage return at its end. -/
@[mk_iff] structure IsWritable (entry : String × String) : Prop where
  ne_empty : entry.1.toList ≠ []
  trimmed : trim entry.1.toList = entry.1.toList
  no_sign : '=' ∉ entry.1.toList
  no_feed : '\n' ∉ entry.1.toList
  no_remark : entry.1.toList.head? ≠ some '#'
  value_no_feed : '\n' ∉ entry.2.toList
  value_no_return : entry.2.toList.getLast? ≠ some '\r'

instance (entry : String × String) : Decidable (IsWritable entry) :=
  decidable_of_iff _ (isWritable_iff entry).symm

variable {l : Line} {before after : List Char} {entry : String × String} {n : Nat}

/-! ### Reading what is written -/

theorem not_isComment_of_isWritable (h : IsWritable entry)
    (hbefore : ∀ c ∈ before, isBlank c = true) (rest : List Char) :
    isComment (before ++ (entry.1.toList ++ rest)) = false := by
  obtain ⟨c, key, hkey⟩ := List.exists_cons_of_ne_nil h.ne_empty
  have hvisible : isBlank c = false := (trim_eq_self_iff.1 h.trimmed).1 c (by rw [hkey]; rfl)
  have hc : c ≠ '#' := by
    rintro rfl
    exact h.no_remark (by rw [hkey]; rfl)
  have htrim : trim (before ++ (entry.1.toList ++ rest) ++ []) = trim (entry.1.toList ++ rest) :=
    trim_append_append hbefore (by simp)
  obtain ⟨tail, htail⟩ := exists_trim_cons (key ++ rest) hvisible
  rw [List.append_nil, hkey, List.cons_append, htail] at htrim
  rw [isComment, hkey, List.cons_append, htrim]
  simpa using hc

theorem assignment_of_isWritable (h : IsWritable entry) (hbefore : ∀ c ∈ before, isBlank c = true)
    (hafter : ∀ c ∈ after, isBlank c = true) :
    assignment (before ++ entry.1.toList ++ after ++ '=' :: entry.2.toList) = .ok entry := by
  have hsign : '=' ∉ before ++ entry.1.toList ++ after := by
    simp [not_mem_of_isBlank hbefore, not_mem_of_isBlank hafter, h.no_sign]
  have hkey : trim (before ++ entry.1.toList ++ after) = entry.1.toList := by
    rw [trim_append_append hbefore hafter, h.trimmed]
  rw [assignment_append hsign, hkey, if_neg h.ne_empty, String.ofList_toList, String.ofList_toList]

/-- A line that may be written is read as the property in it, if there is one. -/
theorem assignments_cons_text (hloose : l.IsLoose) (hentry : ∀ e ∈ l.entry?, IsWritable e)
    (ls : List (List Char)) : assignments n (endLine l.text.reverse :: ls) =
      (assignments (n + 1) ls).map (l.entry?.toList ++ ·) := by
  cases l with
  | remark s =>
    have hcomment : isComment (endLine s.reverse) = true := by
      rw [isComment_endLine, List.reverse_reverse, isComment_iff]
      exact hloose.1
    rw [Line.text, assignments_cons_of_isComment hcomment]
    cases assignments (n + 1) ls <;> rfl
  | property before entry after =>
    have hwritable : IsWritable entry := hentry entry rfl
    have hbefore : ∀ c ∈ before, isBlank c = true :=
      fun c hc => (hloose c (List.mem_append_left after hc)).1
    have hafter : ∀ c ∈ after, isBlank c = true :=
      fun c hc => (hloose c (List.mem_append_right before hc)).1
    have hend : endLine (Line.property before entry after).text.reverse =
        before ++ entry.1.toList ++ after ++ '=' :: entry.2.toList := by
      rw [endLine_of_ne, List.reverse_reverse, Line.text]
      rw [List.head?_reverse, Line.text, List.getLast?_append, List.getLast?_cons]
      cases hlast : entry.2.toList.getLast? with
      | none => simp
      | some c => simpa [hlast] using hwritable.value_no_return
    have hcomment : isComment
        (before ++ entry.1.toList ++ after ++ '=' :: entry.2.toList) = false := by
      rw [List.append_assoc, List.append_assoc]
      exact not_isComment_of_isWritable hwritable hbefore _
    rw [hend, assignments_cons_of_ok hcomment (assignment_of_isWritable hwritable hbefore hafter)]
    rfl

/-- A line that may be written has no line feed in it. -/
theorem not_mem_text (hloose : l.IsLoose) (hentry : ∀ e ∈ l.entry?, IsWritable e) :
    '\n' ∉ l.text := by
  cases l with
  | remark s => exact hloose.2
  | property before entry after =>
    have hwritable : IsWritable entry := hentry entry rfl
    have hblanks : '\n' ∉ before ++ after := fun hmem => (hloose '\n' hmem).2 rfl
    rw [List.mem_append, not_or] at hblanks
    simp [Line.text, hblanks, hwritable.no_feed, hwritable.value_no_feed]

/-- What is written of lines is read as the properties in them. -/
theorem assignments_written {ls : List Line} (hloose : ∀ l ∈ ls, l.IsLoose)
    (hentries : ∀ l ∈ ls, ∀ e ∈ l.entry?, IsWritable e) :
    assignments n (lines (written ls).toList) = .ok (ls.filterMap Line.entry?) := by
  rw [written, String.toList_ofList]
  induction ls generalizing n with
  | nil => rfl
  | cons l ls ih =>
    obtain ⟨hl, hloose⟩ := List.forall_mem_cons.1 hloose
    obtain ⟨he, hentries⟩ := List.forall_mem_cons.1 hentries
    rw [List.flatMap_cons, List.append_assoc, List.singleton_append, lines,
      linesFrom_of_not_mem (not_mem_text hl he), List.append_nil, assignments_cons_text hl he,
      ih hloose hentries, List.filterMap_cons]
    cases l.entry? <;> rfl

/-- Properties that can be written out, one in each line, are read as the table in which each key has
the last of its values. It makes no difference if remarks stand between the lines and blanks around
the keys. -/
theorem parse_written (path : String) (es : List (String × String))
    (hes : ∀ e ∈ es, IsWritable e) :
    (∃ t, parse (plain es) path = .ok t ∧ ∀ k v, t.get? k = some v ↔
      ∃ before after, es = before ++ (k, v) :: after ∧ ∀ e ∈ after, e.1 ≠ k) ∧
    ∀ ls : List Line, (∀ l ∈ ls, l.IsLoose) → ls.filterMap Line.entry? = es →
      parse (written ls) path = parse (plain es) path := by
  have hread : ∀ ls : List Line, (∀ l ∈ ls, l.IsLoose) → ls.filterMap Line.entry? = es →
      parse (written ls) path = .ok (.ofList es) := by
    intro ls hloose hentries
    refine parse_eq_ok_iff.2 ⟨es, ?_, rfl⟩
    rw [← hentries]
    refine assignments_written hloose fun l hl e he => hes e ?_
    rw [← hentries]
    exact List.mem_filterMap.2 ⟨l, hl, he⟩
  have hplain : parse (plain es) path = .ok (.ofList es) := by
    refine hread _ ?_ ?_
    · intro l hl
      obtain ⟨e, -, rfl⟩ := List.mem_map.1 hl
      exact fun c hc => by cases hc
    · rw [List.filterMap_map]
      exact List.filterMap_some
  refine ⟨⟨.ofList es, hplain, fun k v => Table.get?_ofList_eq_some⟩, fun ls hloose hentries => ?_⟩
  rw [hread ls hloose hentries, hplain]

/-- A key that is set twice, with a blank in it and an equality sign in its first value, among remarks
and blanks. -/
theorem parse_written_of_repeated :
    ((∀ e ∈ [("a b", " x=1 "), ("é", ""), ("a b", "#2")], IsWritable e) ∧
      ∀ l ∈ [Line.remark " # note".toList, .property ['\t'] ("a b", " x=1 ") ['\r'], .remark ['\r'],
        .property [] ("é", "") [' '], .remark [], .property [' '] ("a b", "#2") []], l.IsLoose) ∧
    (∃ t, parse (plain [("a b", " x=1 "), ("é", ""), ("a b", "#2")]) "p" = .ok t ∧
      t.get? "a b" = some "#2" ∧ t.get? "é" = some "") ∧
      parse (written [.remark " # note".toList, .property ['\t'] ("a b", " x=1 ") ['\r'],
        .remark ['\r'], .property [] ("é", "") [' '], .remark [], .property [' '] ("a b", "#2") []])
        "p" = parse (plain [("a b", " x=1 "), ("é", ""), ("a b", "#2")]) "p" := by
  have hentries : ∀ e ∈ [("a b", " x=1 "), ("é", ""), ("a b", "#2")], IsWritable e := by
    decide +kernel
  have hlines : ∀ l ∈ [Line.remark " # note".toList, .property ['\t'] ("a b", " x=1 ") ['\r'],
      .remark ['\r'], .property [] ("é", "") [' '], .remark [],
      .property [' '] ("a b", "#2") []], l.IsLoose := by
    decide +kernel
  obtain ⟨⟨t, ht, hkeys⟩, hloose⟩ := parse_written "p" _ hentries
  refine ⟨⟨hentries, hlines⟩, ⟨t, ht, ?_, ?_⟩, hloose _ hlines rfl⟩
  · exact (hkeys _ _).2 ⟨[("a b", " x=1 "), ("é", "")], [], rfl, by simp⟩
  · exact (hkeys _ _).2 ⟨[("a b", " x=1 ")], [("a b", "#2")], rfl, by decide⟩

end Strata.Properties
