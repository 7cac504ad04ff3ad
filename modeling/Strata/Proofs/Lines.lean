import Strata.Proofs.Results
import Strata.Proofs.Tables
import Strata.Proofs.Texts
import Strata.Properties

/-!
Property files, line by line. A line is a remark, a property, or faulty; a carriage return at its end
does not matter to that (`isFault_append_return`). So a text is at fault exactly for the first faulty
one of the pieces between its line feeds (`parse_eq_error_iff`), and texts with a line feed between
them are read one after the other, the number of a line in the second one being counted from the
beginning of the first. Main statement: `parse_append_feed`.
-/

namespace Strata.Properties

open Text

/-! ### What a line holds -/

/-- A line without a property: it is blank, or its first visible character is a number sign. -/
def IsRemark (line : List Char) : Prop :=
  ∃ blanks rest, line = blanks ++ rest ∧ (∀ c ∈ blanks, isBlank c = true) ∧
    ∀ c ∈ rest.head?, c = '#'

/-- What is wrong with a line: it is no remark, and either it has no equality sign, or there are but
blanks before its first one. -/
inductive IsFault (line : List Char) : Malformation → Prop
  | expectedAssignment : ¬ IsRemark line → '=' ∉ line → IsFault line .expectedAssignment
  | emptyKey {before value : List Char} : ¬ IsRemark line → line = before ++ '=' :: value →
      (∀ c ∈ before, isBlank c = true) → IsFault line .emptyKey

variable {line key value s t : List Char} {cause : Malformation} {n m : Nat} {ls ls' : List (List Char)}
  {entry : String × String} {text path : String} {e : Failure}

theorem isComment_iff : isComment line = true ↔ IsRemark line := by
  constructor
  · intro h
    obtain ⟨before, after, hline, hbefore, hafter⟩ := exists_trim line
    cases htrim : trim line with
    | nil => exact ⟨line, [], by simp, trim_eq_nil_iff.1 htrim, by simp⟩
    | cons c rest =>
      have hc : c = '#' := by simpa [isComment, htrim] using h
      refine ⟨before, c :: rest ++ after, ?_, hbefore, by simp [hc]⟩
      rw [← List.append_assoc, ← htrim, ← hline]
  · rintro ⟨blanks, rest, rfl, hblanks, hrest⟩
    have htrim : trim (blanks ++ rest ++ []) = trim rest := trim_append_append hblanks (by simp)
    rw [List.append_nil] at htrim
    rw [isComment, htrim]
    cases rest with
    | nil => rfl
    | cons c rest =>
      obtain rfl : c = '#' := hrest c rfl
      obtain ⟨tail, htail⟩ := exists_trim_cons rest (by decide : isBlank '#' = false)
      rw [htail]
      rfl

instance (line : List Char) : Decidable (IsRemark line) := decidable_of_iff _ isComment_iff

theorem assignment_of_not_mem (h : '=' ∉ line) : assignment line = .error .expectedAssignment := by
  have hdrop : line.dropWhile (· ≠ '=') = [] := by
    rw [List.dropWhile_eq_nil_iff]
    rintro c hc
    simpa using ne_of_mem_of_not_mem hc h
  rw [assignment, hdrop]

/-- A line is divided at its first equality sign. -/
theorem assignment_append (h : '=' ∉ key) (value : List Char) :
    assignment (key ++ '=' :: value) =
      if trim key = [] then .error .emptyKey
      else .ok (String.ofList (trim key), String.ofList value) := by
  have hkeep : ∀ c ∈ key, decide (c ≠ '=') = true :=
    fun c hc => by simpa using ne_of_mem_of_not_mem hc h
  rw [assignment, List.takeWhile_append_of_pos hkeep, List.dropWhile_append_of_pos hkeep,
    List.takeWhile_cons_of_neg (by simp), List.dropWhile_cons_of_neg (by simp), List.append_nil]
  simp only [List.isEmpty_iff]

theorem not_mem_of_isBlank (h : ∀ c ∈ s, isBlank c = true) : '=' ∉ s :=
  fun hmem => absurd (h '=' hmem) (by decide)

/-- A line is faulty if it holds neither a remark nor a property. -/
theorem isFault_iff : IsFault line cause ↔
    isComment line = false ∧ assignment line = .error cause := by
  have hremark : isComment line = false ↔ ¬ IsRemark line := by
    rw [← isComment_iff, Bool.not_eq_true]
  rw [hremark]
  constructor
  · rintro (⟨hline, hsign⟩ | ⟨hline, rfl, hblank⟩)
    · exact ⟨hline, assignment_of_not_mem hsign⟩
    · rw [assignment_append (not_mem_of_isBlank hblank), if_pos (trim_eq_nil_iff.2 hblank)]
      exact ⟨hline, rfl⟩
  · rintro ⟨hline, hcause⟩
    by_cases hsign : '=' ∈ line
    · obtain ⟨key, value, rfl, hkey⟩ := List.eq_append_cons_of_mem hsign
      rw [assignment_append hkey] at hcause
      split at hcause
      · rename_i hblank
        obtain rfl := Except.error.inj hcause
        exact .emptyKey hline rfl (trim_eq_nil_iff.1 hblank)
      · cases hcause
    · rw [assignment_of_not_mem hsign] at hcause
      obtain rfl := Except.error.inj hcause
      exact .expectedAssignment hline hsign

/-- A carriage return at its end makes no difference to what a line is. -/
theorem isComment_append_return (line : List Char) :
    isComment (line ++ ['\r']) = isComment line := by
  have htrim : trim ([] ++ line ++ ['\r']) = trim line :=
    trim_append_append (by simp) (List.forall_mem_singleton.2 rfl)
  rw [List.nil_append] at htrim
  rw [isComment, isComment, htrim]

theorem isFault_append_return : IsFault (line ++ ['\r']) cause ↔ IsFault line cause := by
  rw [isFault_iff, isFault_iff, isComment_append_return, and_congr_right_iff]
  intro
  by_cases hsign : '=' ∈ line
  · obtain ⟨key, value, rfl, hkey⟩ := List.eq_append_cons_of_mem hsign
    rw [List.append_assoc, List.cons_append, assignment_append hkey, assignment_append hkey]
    split <;> simp
  · rw [assignment_of_not_mem hsign, assignment_of_not_mem (by simpa using hsign)]

/-- A line that is ended is the line itself, but for a carriage return. -/
theorem endLine_cases (line : List Char) :
    line.reverse = endLine line ++ ['\r'] ∨ line.reverse = endLine line := by
  unfold endLine
  split
  · exact .inl List.reverse_cons
  · exact .inr rfl

theorem endLine_of_ne (h : line.head? ≠ some '\r') : endLine line = line.reverse := by
  unfold endLine
  split
  · simp at h
  · rfl

theorem isComment_endLine (line : List Char) : isComment (endLine line) = isComment line.reverse := by
  rcases endLine_cases line with h | h
  · rw [h, isComment_append_return]
  · rw [h]

theorem isFault_endLine (line : List Char) :
    IsFault (endLine line) cause ↔ IsFault line.reverse cause := by
  rcases endLine_cases line with h | h
  · rw [h, isFault_append_return]
  · rw [h]

/-! ### Lines one after the other -/

/-- A line is a remark, a property, or faulty. -/
theorem line_cases (line : List Char) : isComment line = true ∨
    (∃ entry, isComment line = false ∧ assignment line = .ok entry) ∨
    ∃ cause, IsFault line cause := by
  cases hcomment : isComment line with
  | true => exact .inl rfl
  | false =>
    cases hline : assignment line with
    | ok entry => exact .inr (.inl ⟨entry, rfl, rfl⟩)
    | error cause => exact .inr (.inr ⟨cause, isFault_iff.2 ⟨hcomment, hline⟩⟩)

theorem assignments_cons_of_isComment (h : isComment line = true) :
    assignments n (line :: ls) = assignments (n + 1) ls := by
  rw [assignments, if_pos h]

theorem assignments_cons_of_ok (hcomment : isComment line = false)
    (h : assignment line = .ok entry) :
    assignments n (line :: ls) = (assignments (n + 1) ls).map (entry :: ·) := by
  rw [assignments, hcomment, if_neg Bool.false_ne_true, h]

theorem assignments_cons_of_isFault (h : IsFault line cause) :
    assignments n (line :: ls) = .error (n, cause) := by
  obtain ⟨hcomment, hline⟩ := isFault_iff.1 h
  rw [assignments, hcomment, if_neg Bool.false_ne_true, hline]

/-- A line that is not faulty leaves it to the others to be. -/
theorem assignments_cons_eq_error_iff (h : ∀ cause, ¬ IsFault line cause) :
    assignments n (line :: ls) = .error (m, cause) ↔ assignments (n + 1) ls = .error (m, cause) := by
  rcases line_cases line with hcomment | ⟨entry, hcomment, hline⟩ | ⟨cause', hfault⟩
  · rw [assignments_cons_of_isComment hcomment]
  · rw [assignments_cons_of_ok hcomment hline, map_eq_error_iff]
  · exact absurd hfault (h cause')

/-- Lines are at fault as the first faulty one is. -/
theorem assignments_eq_error_iff : assignments n ls = .error (m, cause) ↔
    ∃ before line after, ls = before ++ line :: after ∧
      (∀ l ∈ before, ∀ cause, ¬ IsFault l cause) ∧ IsFault line cause ∧
      m = n + before.length := by
  constructor
  · intro h
    induction ls generalizing n with
    | nil => cases h
    | cons line ls ih =>
      by_cases hfault : ∃ cause, IsFault line cause
      · obtain ⟨cause', hfault⟩ := hfault
        rw [assignments_cons_of_isFault hfault] at h
        obtain ⟨rfl, rfl⟩ : n = m ∧ cause' = cause := by simpa using h
        exact ⟨[], line, ls, rfl, by simp, hfault, rfl⟩
      · have hline : ∀ cause, ¬ IsFault line cause := not_exists.1 hfault
        obtain ⟨before, l, after, rfl, hbefore, hl, rfl⟩ :=
          ih ((assignments_cons_eq_error_iff hline).1 h)
        refine ⟨line :: before, l, after, rfl, List.forall_mem_cons.2 ⟨hline, hbefore⟩, hl, ?_⟩
        rw [List.length_cons]
        omega
  · rintro ⟨before, line, after, rfl, hbefore, hfault, rfl⟩
    induction before generalizing n with
    | nil => exact assignments_cons_of_isFault hfault
    | cons l before ih =>
      obtain ⟨hl, hbefore⟩ := List.forall_mem_cons.1 hbefore
      rw [List.cons_append, assignments_cons_eq_error_iff hl, List.length_cons, ih hbefore]
      simp only [Except.error.injEq, Prod.mk.injEq, and_true]
      omega

/-- The lines of two texts one after the other. -/
theorem assignments_append : assignments n (ls ++ ls') =
    match assignments n ls with
    | .error e => .error e
    | .ok entries => (assignments (n + ls.length) ls').map (entries ++ ·) := by
  induction ls generalizing n with
  | nil =>
    rw [List.nil_append, assignments]
    cases assignments n ls' <;> rfl
  | cons line ls ih =>
    have hlength : n + (line :: ls).length = n + 1 + ls.length := by rw [List.length_cons]; omega
    rw [List.cons_append, hlength]
    rcases line_cases line with hcomment | ⟨entry, hcomment, hline⟩ | ⟨cause, hfault⟩
    · rw [assignments_cons_of_isComment hcomment, assignments_cons_of_isComment hcomment, ih]
    · rw [assignments_cons_of_ok hcomment hline, assignments_cons_of_ok hcomment hline, ih]
      cases assignments (n + 1) ls with
      | error e => rfl
      | ok entries => cases assignments (n + 1 + ls.length) ls' <;> rfl
    · rw [assignments_cons_of_isFault hfault, assignments_cons_of_isFault hfault]

/-- Lines that begin with a later number are at fault with a later number. -/
theorem assignments_add (n d : Nat) (ls : List (List Char)) : assignments (n + d) ls =
    (assignments n ls).mapError fun e => (e.1 + d, e.2) := by
  induction ls generalizing n with
  | nil => rfl
  | cons line ls ih =>
    have hnext : n + d + 1 = n + 1 + d := by omega
    rcases line_cases line with hcomment | ⟨entry, hcomment, hline⟩ | ⟨cause, hfault⟩
    · rw [assignments_cons_of_isComment hcomment, assignments_cons_of_isComment hcomment, hnext, ih]
    · rw [assignments_cons_of_ok hcomment hline, assignments_cons_of_ok hcomment hline, hnext, ih]
      cases assignments (n + 1) ls <;> rfl
    · rw [assignments_cons_of_isFault hfault, assignments_cons_of_isFault hfault]
      rfl

/-! ### The lines of a text -/

/-- What comes after a line feed is cut into lines of its own. -/
theorem linesFrom_append (line s t : List Char) :
    linesFrom line (s ++ '\n' :: t) = linesFrom line (s ++ ['\n']) ++ lines t := by
  induction s generalizing line with
  | nil => simp [linesFrom, lines]
  | cons c s ih =>
    simp only [List.cons_append, linesFrom]
    split
    · rw [ih, List.cons_append]
    · rw [ih]

theorem linesFrom_of_not_mem (h : '\n' ∉ s) (line t : List Char) :
    linesFrom line (s ++ '\n' :: t) = endLine (s.reverse ++ line) :: lines t := by
  induction s generalizing line with
  | nil => simp [linesFrom, lines]
  | cons c s ih =>
    rw [List.mem_cons, not_or] at h
    rw [List.cons_append, linesFrom, if_neg (Ne.symm h.1), ih h.2, List.reverse_cons,
      List.append_assoc, List.singleton_append]

theorem length_linesFrom (line s : List Char) :
    (linesFrom line (s ++ ['\n'])).length = s.count '\n' + 1 := by
  induction s generalizing line with
  | nil => simp [linesFrom]
  | cons c s ih =>
    simp only [List.cons_append, linesFrom]
    by_cases hc : c = '\n'
    · rw [if_pos hc, List.length_cons, ih, hc, List.count_cons_self]
    · rw [if_neg hc, ih, List.count_cons_of_ne hc]

/-- A line feed at the end of a text that ends without a carriage return adds no property. -/
theorem assignments_linesFrom_concat (h : (line.reverse ++ s).getLast? ≠ some '\r') :
    assignments n (linesFrom line (s ++ ['\n'])) = assignments n (linesFrom line s) := by
  induction s generalizing line n with
  | nil =>
    cases line with
    | nil => rfl
    | cons c line =>
      have hend : endLine (c :: line) = (c :: line).reverse := endLine_of_ne (by simpa using h)
      simp [linesFrom, hend]
  | cons c s ih =>
    simp only [List.cons_append, linesFrom]
    split
    · have hlast : (([] : List Char).reverse ++ s).getLast? ≠ some '\r' := by
        rw [List.reverse_nil, List.nil_append]
        cases s with
        | nil => simp
        | cons d s => simpa using h
      simp only [assignments, ih hlast]
    · exact ih (by simpa using h)

theorem assignments_lines_concat (h : s.getLast? ≠ some '\r') :
    assignments n (lines (s ++ ['\n'])) = assignments n (lines s) :=
  assignments_linesFrom_concat h

/-- A text, and another one after a line feed. -/
theorem assignments_lines_append (h : s.getLast? ≠ some '\r') :
    assignments n (lines (s ++ '\n' :: t)) =
      match assignments n (lines s) with
      | .error e => .error e
      | .ok entries =>
        ((assignments n (lines t)).mapError fun e => (e.1 + (s.count '\n' + 1), e.2)).map
          (entries ++ ·) := by
  have hlines : lines (s ++ '\n' :: t) = lines (s ++ ['\n']) ++ lines t := linesFrom_append [] s t
  have hlength : (lines (s ++ ['\n'])).length = s.count '\n' + 1 := length_linesFrom [] s
  rw [hlines, assignments_append, assignments_lines_concat h, hlength, assignments_add]

/-- The lines of a text are at fault as the pieces between its line feeds are. -/
theorem assignments_linesFrom_eq_error_iff : assignments n (linesFrom line s) = .error (m, cause) ↔
    assignments n (List.splitOnPPrepend (· == '\n') s line) = .error (m, cause) := by
  induction s generalizing line n with
  | nil =>
    rw [linesFrom, List.splitOnPPrepend_nil]
    cases line with
    | nil => exact Iff.rfl
    | cons c line => exact Iff.rfl
  | cons c s ih =>
    rw [linesFrom, List.splitOnPPrepend_cons_eq_if]
    by_cases hc : c = '\n'
    · rw [if_pos hc, if_pos (by simpa using hc), ← List.splitOnPPrepend_nil_right]
      by_cases hfault : ∃ cause, IsFault line.reverse cause
      · obtain ⟨cause', hfault⟩ := hfault
        rw [assignments_cons_of_isFault hfault,
          assignments_cons_of_isFault ((isFault_endLine line).2 hfault)]
      · have hline : ∀ cause, ¬ IsFault line.reverse cause := not_exists.1 hfault
        rw [assignments_cons_eq_error_iff hline, ← ih,
          assignments_cons_eq_error_iff fun cause => mt (isFault_endLine line).1 (hline cause)]
    · rw [if_neg hc, if_neg (by simpa using hc), ih]

/-! ### Texts -/

theorem parse_eq_ok_iff {table : Table String} : parse text path = .ok table ↔
    ∃ entries, assignments 1 (lines text.toList) = .ok entries ∧ table = .ofList entries := by
  rw [parse]
  cases assignments 1 (lines text.toList) with
  | error e => simp
  | ok entries => simp [eq_comm]

/-- A text is at fault for the first faulty piece between its line feeds. -/
theorem parse_eq_error_iff : parse text path = .error e ↔ ∃ before line after cause,
    text.toList.splitOn '\n' = before ++ line :: after ∧
      (∀ l ∈ before, ∀ cause, ¬ IsFault l cause) ∧ IsFault line cause ∧
      e = .parse path (before.length + 1) cause := by
  have herror : parse text path = .error e ↔ ∃ m cause,
      assignments 1 (lines text.toList) = .error (m, cause) ∧ e = .parse path m cause := by
    rw [parse]
    cases assignments 1 (lines text.toList) with
    | error fault => simp [Prod.ext_iff, eq_comm]
    | ok entries => simp
  have hpieces : ∀ m cause, assignments 1 (lines text.toList) = .error (m, cause) ↔
      assignments 1 (text.toList.splitOn '\n') = .error (m, cause) :=
    fun m cause => assignments_linesFrom_eq_error_iff
  simp only [herror, hpieces, assignments_eq_error_iff]
  constructor
  · rintro ⟨m, cause, ⟨before, line, after, hsplit, hbefore, hline, rfl⟩, rfl⟩
    exact ⟨before, line, after, cause, hsplit, hbefore, hline, by rw [Nat.add_comm]⟩
  · rintro ⟨before, line, after, cause, hsplit, hbefore, hline, rfl⟩
    exact ⟨_, cause, ⟨before, line, after, hsplit, hbefore, hline, rfl⟩, by rw [Nat.add_comm]⟩

/-- Two texts with a line feed between them are read one after the other. The first failure counts,
with the number of its line in the whole text, and otherwise the last value of a key. A text cannot
be read exactly if one of the pieces between its line feeds is neither blank nor a comment and has no
equality sign or only blanks before it; the failure tells the number of the first such piece and
which of the two it is. -/
theorem parse_append_feed (path : String) :
    (∀ a b : String, a.toList.getLast? ≠ some '\r' →
      (∀ e, parse a path = .error e → parse (a ++ "\n" ++ b) path = .error e) ∧
      (∀ t line cause, parse a path = .ok t → parse b path = .error (.parse path line cause) →
        parse (a ++ "\n" ++ b) path =
          .error (.parse path (line + (a.toList.count '\n' + 1)) cause)) ∧
      ∀ t u, parse a path = .ok t → parse b path = .ok u →
        ∃ w, parse (a ++ "\n" ++ b) path = .ok w ∧ ∀ k, w.get? k = (u.get? k).or (t.get? k)) ∧
    (∀ text e, parse text path = .error e ↔ ∃ before line after cause,
      text.toList.splitOn '\n' = before ++ line :: after ∧
        (∀ l ∈ before, ∀ cause, ¬ IsFault l cause) ∧ IsFault line cause ∧
        e = .parse path (before.length + 1) cause) ∧
    Malformation.expectedAssignment.message = "expected key=value" ∧
    Malformation.emptyKey.message = "empty key" := by
  refine ⟨fun a b ha => ?_, fun text e => parse_eq_error_iff, rfl, rfl⟩
  have htext : (a ++ "\n" ++ b).toList = a.toList ++ '\n' :: b.toList := by simp
  have hlines : assignments 1 (lines (a ++ "\n" ++ b).toList) = _ :=
    htext ▸ assignments_lines_append ha
  refine ⟨fun e he => ?_, fun t line cause ht hb => ?_, fun t u ht hu => ?_⟩
  · rw [parse] at he ⊢
    rw [hlines]
    cases hfirst : assignments 1 (lines a.toList) with
    | error fault => rwa [hfirst] at he
    | ok entries => simp [hfirst] at he
  · obtain ⟨entries, hfirst, -⟩ := parse_eq_ok_iff.1 ht
    rw [parse] at hb ⊢
    rw [hlines, hfirst]
    cases hsecond : assignments 1 (lines b.toList) with
    | ok entries => simp [hsecond] at hb
    | error fault =>
      obtain ⟨hline, hcause⟩ : fault.1 = line ∧ fault.2 = cause := by simpa [hsecond] using hb
      rw [← hline, ← hcause]
      rfl
  · obtain ⟨entries, hfirst, rfl⟩ := parse_eq_ok_iff.1 ht
    obtain ⟨entries', hsecond, rfl⟩ := parse_eq_ok_iff.1 hu
    rw [hfirst, hsecond] at hlines
    exact ⟨.ofList (entries ++ entries'), parse_eq_ok_iff.2 ⟨_, hlines, rfl⟩,
      fun k => Table.get?_ofList_append⟩

/-- A file with carriage returns, and one whose second line has no key. -/
theorem parse_append_feed_of_returns :
    ("a=1\r\nb=2".toList.getLast? ≠ some '\r' ∧
      parse "a=1\r\nb=2" "app.properties" = .ok (.ofList [("a", "1"), ("b", "2")]) ∧
      parse "# next\n =x" "app.properties" = .error (.parse "app.properties" 2 .emptyKey) ∧
      parse "a=3" "app.properties" = .ok (.ofList [("a", "3")])) ∧
    parse ("a=1\r\nb=2" ++ "\n" ++ "# next\n =x") "app.properties" =
        .error (.parse "app.properties" 4 .emptyKey) ∧
      ∃ w, parse ("a=1\r\nb=2" ++ "\n" ++ "a=3") "app.properties" = .ok w ∧
        w.get? "a" = some "3" ∧ w.get? "b" = some "2" := by
  have hlast : "a=1\r\nb=2".toList.getLast? ≠ some '\r' := by decide
  have hfirst : parse "a=1\r\nb=2" "app.properties" = .ok (.ofList [("a", "1"), ("b", "2")]) := by
    decide +kernel
  have hfault : parse "# next\n =x" "app.properties" =
      .error (.parse "app.properties" 2 .emptyKey) := by decide +kernel
  have hsecond : parse "a=3" "app.properties" = .ok (.ofList [("a", "3")]) := by decide +kernel
  obtain ⟨happend, -⟩ := parse_append_feed "app.properties"
  refine ⟨⟨hlast, hfirst, hfault, hsecond⟩, (happend _ _ hlast).2.1 _ _ _ hfirst hfault, ?_⟩
  obtain ⟨w, hw, hkeys⟩ := (happend _ _ hlast).2.2 _ _ hfirst hsecond
  exact ⟨w, hw, by rw [hkeys]; decide +kernel, by rw [hkeys]; decide +kernel⟩

end Strata.Properties
