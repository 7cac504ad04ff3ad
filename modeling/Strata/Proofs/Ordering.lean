import Mathlib.Data.List.Sort
import Strata.Proofs.Freshness

/-!
The order of layers. A layer is put in behind all those whose priority is not greater, and it has a
greater number than all of them; so the layers of a registry are in order by their priorities and
then by their numbers, in every run of scripts (`arranged_run`). This is what sorting by priority
makes of the layers that were put in, in the order in which that was done
(`Arranged.eq_mergeSort`).
-/

namespace Strata

open Machine RegistryId

/-! ### Layers in order -/

namespace Layer

/-- A layer without what is recorded of it. -/
def bare (l : Layer) : Layer := { l with recorded := .empty }

/-- A layer stands in front of another one, by its priority or else by its number. -/
def Before (a b : Layer) : Prop :=
  a.priority < b.priority ∨ a.priority = b.priority ∧ a.seq < b.seq

variable {l : Layer} {ls ls' : List Layer}

theorem insert_cons (x : Layer) : insert l (x :: ls) =
    if x.priority ≤ l.priority then x :: insert l ls else l :: x :: ls := by
  by_cases hx : x.priority ≤ l.priority <;> simp [insert, hx]

/-- A layer with a greater number than all others is put where it belongs. -/
theorem pairwise_insert (hls : ls.Pairwise Before) (hl : ∀ x ∈ ls, x.seq < l.seq) :
    (insert l ls).Pairwise Before := by
  induction ls with
  | nil => exact List.pairwise_singleton _ _
  | cons x ls ih =>
    obtain ⟨hx, hrest⟩ := List.pairwise_cons.1 hls
    rw [insert_cons]
    split
    · rename_i hle
      refine List.pairwise_cons.2 ⟨fun y hy => ?_,
        ih hrest fun y hy => hl y (List.mem_cons_of_mem x hy)⟩
      rcases mem_insert.1 hy with rfl | hy
      · rcases Int.lt_or_eq_of_le hle with hlt | heq
        · exact .inl hlt
        · exact .inr ⟨heq, hl x List.mem_cons_self⟩
      · exact hx y hy
    · rename_i hlt
      have hlt : l.priority < x.priority := Int.lt_of_not_ge hlt
      refine List.pairwise_cons.2 ⟨fun y hy => .inl ?_, hls⟩
      rcases List.mem_cons.1 hy with rfl | hy
      · exact hlt
      · rcases hx y hy with h | ⟨h, -⟩ <;> omega

theorem Before.asymm {a b : Layer} (h : Before a b) : ¬ Before b a := by
  rw [Before] at *
  omega

/-- Layers are in order in one way only. -/
theorem eq_of_pairwise_before (h : ls.Pairwise Before) (h' : ls'.Pairwise Before)
    (hperm : ls.Perm ls') : ls = ls' :=
  hperm.eq_of_pairwise (fun _ _ _ _ hab hba => absurd hba hab.asymm) h h'

/-- Sorting by priority leaves layers of one priority as they stand. -/
theorem filter_mergeSort (ls : List Layer) (p : Int) :
    (ls.mergeSort fun a b => a.priority ≤ b.priority).filter (·.priority = p) =
      ls.filter (·.priority = p) := by
  have hsub : (ls.filter (·.priority = p)).Sublist
      (ls.mergeSort fun a b => a.priority ≤ b.priority) := by
    refine List.sublist_mergeSort (fun a b c => ?_) (fun a b => ?_) ?_ List.filter_sublist
    · simpa using Int.le_trans
    · simpa using Int.le_total a.priority b.priority
    · refine List.pairwise_of_forall_mem_list fun a ha b hb => ?_
      have ha := (List.mem_filter.1 ha).2
      have hb := (List.mem_filter.1 hb).2
      simp_all
  have hsub' := hsub.filter (·.priority = p)
  rw [List.filter_filter] at hsub'
  simp only [Bool.and_self] at hsub'
  exact (hsub'.eq_of_length ((List.mergeSort_perm ls _).filter _).length_eq.symm).symm

/-- Sorting layers by priority that stand in the order of their numbers brings them in order. -/
theorem pairwise_mergeSort (hls : ls.Pairwise fun a b => a.seq < b.seq) :
    (ls.mergeSort fun a b => a.priority ≤ b.priority).Pairwise Before := by
  have hsorted : (ls.mergeSort fun a b => a.priority ≤ b.priority).Pairwise
      fun a b => decide (a.priority ≤ b.priority) = true :=
    List.pairwise_mergeSort (fun a b c => by simpa using Int.le_trans)
      (fun a b => by simpa using Int.le_total a.priority b.priority) ls
  rw [List.pairwise_iff_forall_sublist] at hsorted hls ⊢
  intro a b hab
  rcases Int.lt_or_eq_of_le (of_decide_eq_true (hsorted hab)) with hlt | heq
  · exact .inl hlt
  · refine .inr ⟨heq, hls ?_⟩
    have hfilter := hab.filter (·.priority = b.priority)
    rw [filter_mergeSort] at hfilter
    simp only [List.filter_cons, heq, decide_true, if_true, List.filter_nil] at hfilter
    exact hfilter.trans List.filter_sublist

end Layer

/-! ### The layers that are put in -/

namespace Machine

/-- The layers that are put into a registry at a moment. -/
def Moment.putIn (r : RegistryId) (e : Moment) : List Layer :=
  match e.step with
  | .act (.registry r' (.setLayers new)) =>
    if r' = r then new.filter fun l => l.seq ∉ (e.session.layersOf r).map (·.seq) else []
  | _ => []

/-- The layers that are put into a registry in a run, in the order in which this is done. -/
def registrations (r : RegistryId) : List Moment → List Layer
  | [] => []
  | e :: ms => registrations r ms ++ e.putIn r

@[simp] theorem registrations_append (r : RegistryId) (ms : List Moment) :
    ∀ part : List Moment, registrations r (part ++ ms) =
      registrations r ms ++ registrations r part
  | [] => (List.append_nil _).symm
  | e :: part => by
    rw [List.cons_append, registrations, registrations_append r ms part, List.append_assoc,
      registrations]

/-- Layers are those that were put in, in order. -/
structure Arranged (accepted ls : List Layer) : Prop where
  perm : (ls.map Layer.bare).Perm (accepted.map Layer.bare)
  before : ls.Pairwise Layer.Before
  seqs : accepted.Pairwise fun a b => a.seq < b.seq

namespace Arranged

variable {accepted ls ls' : List Layer} {l : Layer}

/-- Layers in order are what sorting by priority makes of those that were put in. -/
theorem eq_mergeSort (h : Arranged accepted ls) : ls.map Layer.bare =
    (accepted.map Layer.bare).mergeSort fun a b => a.priority ≤ b.priority := by
  refine Layer.eq_of_pairwise_before ?_ (Layer.pairwise_mergeSort ?_)
    (h.perm.trans (List.mergeSort_perm _ _).symm)
  · exact List.pairwise_map.2 h.before
  · exact List.pairwise_map.2 h.seqs

theorem map_perm (h : Arranged accepted ls) {β : Type} {f : Layer → β}
    (hf : ∀ l, f l.bare = f l) : (ls.map f).Perm (accepted.map f) := by
  have hperm := h.perm.map f
  simp only [List.map_map, Function.comp_def, hf] at hperm
  exact hperm

/-- What is recorded of layers does not count. -/
theorem congr (h : Arranged accepted ls) (hls : ls'.map Layer.bare = ls.map Layer.bare) :
    Arranged accepted ls' := by
  refine ⟨by rw [hls]; exact h.perm, ?_, h.seqs⟩
  have hbare : (ls'.map Layer.bare).Pairwise Layer.Before := by
    rw [hls]
    exact List.pairwise_map.2 h.before
  exact (List.pairwise_map (f := Layer.bare)).1 hbare

theorem insert (h : Arranged accepted ls) (hl : ∀ x ∈ ls, x.seq < l.seq) :
    Arranged (accepted ++ [l]) (Layer.insert l ls) := by
  refine ⟨?_, Layer.pairwise_insert h.before hl, ?_⟩
  · rw [List.map_append]
    exact ((Layer.insert_perm l ls).map _).trans
      ((h.perm.cons _).trans (List.perm_append_singleton _ _).symm)
  · refine List.pairwise_append.2 ⟨h.seqs, List.pairwise_singleton _ _, fun a ha b hb => ?_⟩
    rw [List.mem_singleton.1 hb]
    have hmem : a.seq ∈ ls.map (·.seq) :=
      (h.map_perm fun _ => rfl).mem_iff.2 (List.mem_map_of_mem ha)
    obtain ⟨x, hx, heq⟩ := List.mem_map.1 hmem
    rw [← heq]
    exact hl x hx

end Arranged

/-! ### Layers in runs -/

variable {s s' : Session} {tasks : List (Task Unit)} {i : Nat} {r : RegistryId} {ms : List Moment}
  {m m' : Machine Unit} {l : Layer} {ls new : List Layer}

/-- Only the layer itself is new among the others. -/
theorem filter_insert (hl : ∀ x ∈ ls, x.seq < l.seq) :
    (Layer.insert l ls).filter (fun x => x.seq ∉ ls.map (·.seq)) = [l] := by
  obtain ⟨pre, post, rfl, heq⟩ := Layer.exists_insert l ls
  let isNew (x : Layer) : Bool := x.seq ∉ (pre ++ post).map (·.seq)
  have hold : ∀ x ∈ pre ++ post, ¬ isNew x = true := fun x hx hnew =>
    of_decide_eq_true hnew (List.mem_map_of_mem hx)
  have hnew : isNew l = true := by
    refine decide_eq_true fun hmem => ?_
    obtain ⟨x, hx, hseq⟩ := List.mem_map.1 hmem
    exact Nat.ne_of_lt (hl x hx) hseq
  have hpre := List.filter_eq_nil_iff.2 fun x hx => hold x (List.mem_append_left post hx)
  have hpost := List.filter_eq_nil_iff.2 fun x hx => hold x (List.mem_append_right pre hx)
  rw [heq]
  change (pre ++ l :: post).filter isNew = [l]
  rw [List.filter_append, List.filter_cons_of_pos hnew, hpre, hpost, List.nil_append]

/-- When layers are published there is one more of them, with a name of its own. -/
theorem Sound.exists_putIn (h : Sound ms ⟨s, tasks⟩) {next : Unit → Task Unit}
    (hpend : tasks[i]? = some (.step (.act (.registry r (.setLayers new))) next))
    (htake : s.take (.registry r (.setLayers new)) = some ((), s')) :
    ∃ l, new = Layer.insert l (s.layersOf r) ∧
      (∀ x ∈ s.layersOf r, x.name ≠ l.name ∧ x.seq < l.seq) ∧ s'.layersOf r = new ∧
      hold r (history i ms) = some (some (s.layersOf r)) ∧
      Moment.putIn r ⟨i, .act (.registry r (.setLayers new)), s⟩ = [l] := by
  obtain ⟨⟨l, ls, hhold, rfl, hl, -⟩, -⟩ := h.contract hpend
  obtain ⟨reg, reg', hreg, hask, rfl⟩ := Session.exists_registry_take htake
  cases hask
  obtain rfl := (h.true_of_hold hreg hhold).2 ls rfl
  rw [Session.layersOf_eq hreg, Session.layersOf_eq (Session.registries_setRegistry hreg _)]
  refine ⟨l, rfl, hl, rfl, hhold, ?_⟩
  simp only [Moment.putIn, if_pos]
  rw [Session.layersOf_eq hreg]
  exact filter_insert fun x hx => (hl x hx).2

/-- The layer that is put in is the one that has the number that was drawn last. -/
theorem Sound.putIn_eq (h : Sound ms ⟨s, tasks⟩) {next : Unit → Task Unit} {earlier : History}
    (hpend : tasks[i]? = some (.step (.act (.registry r (.setLayers (Layer.insert l ls)))) next))
    (htake : s.take (.registry r (.setLayers (Layer.insert l ls))) = some ((), s'))
    (hdrawn : history i ms = ⟨.registry r .takeSeq, l.seq⟩ :: earlier)
    (hpossible : Possible earlier ⟨.registry r .takeSeq, l.seq⟩) :
    Moment.putIn r ⟨i, .act (.registry r (.setLayers (Layer.insert l ls))), s⟩ = [l] := by
  obtain ⟨l', hnew, -, -, hhold, hput⟩ := h.exists_putIn hpend htake
  rw [hdrawn, hold_cons, know_self] at hhold
  have hfresh : ∀ x ∈ s.layersOf r, x.seq < l.seq := hpossible _ hhold
  have hmem : l ∈ Layer.insert l' (s.layersOf r) := by
    rw [← hnew]
    exact Layer.mem_insert.2 (.inl rfl)
  rcases Layer.mem_insert.1 hmem with rfl | hmem
  · exact hput
  · exact absurd (hfresh l hmem) (Nat.lt_irrefl _)

/-- No layer is put in at other moments. -/
theorem putIn_eq_nil {e : Moment} (h : ∀ new, e.step ≠ .act (.registry r (.setLayers new))) :
    e.putIn r = [] := by
  rw [Moment.putIn]
  split
  · rename_i r' new hstep
    rw [if_neg]
    rintro rfl
    exact h new hstep
  · rfl

/-- The layers of a registry stay in order. -/
theorem Arranged.step {step : TaskStep} (h : Arranged (registrations r ms) (m.session.layersOf r))
    (hsound : Sound ms m) (hpend : (m.tasks[i]?).bind Task.pending? = some step)
    (hadv : m.advance i = some m') :
    Arranged (registrations r (⟨i, step, m.session⟩ :: ms)) (m'.session.layersOf r) := by
  obtain ⟨s, tasks⟩ := m
  rw [registrations]
  rcases advance_cases hpend hadv with ⟨a, answer, next, s', ht, rfl, htake, rfl⟩ |
    ⟨script, next, -, rfl, rfl⟩
  · by_cases ha : ∀ new, a ≠ .registry r (.setLayers new)
    · rw [putIn_eq_nil fun new heq => ha new (by cases heq; rfl), List.append_nil]
      exact h.congr (Session.map_layersOf_take (fun _ _ => rfl) ha htake)
    · push Not at ha
      obtain ⟨new, rfl⟩ := ha
      obtain ⟨l, rfl, hl, hlayers, -, hput⟩ := hsound.exists_putIn ht htake
      rw [hput, hlayers]
      exact h.insert fun x hx => (hl x hx).2
  · exact (List.append_nil (registrations r ms)).symm ▸ h

theorem isNumbered_of_layers_eq_nil {reg : Registry} (h : reg.layers = []) : reg.IsNumbered := by
  refine ⟨?_, ?_, ?_⟩ <;> simp [h]

/-- The layers of a registry that begins without any are in order. -/
theorem arranged_run {scripts : List Script} (hs : ∀ reg ∈ s.registries, reg.layers = [])
    (h : Machine.Run ⟨s, scripts.map Script.task⟩ ms m) (r : RegistryId) :
    Arranged (registrations r ms) (m.session.layersOf r) := by
  induction h with
  | start =>
    have hnil : s.layersOf r = [] := by
      rw [Session.layersOf]
      split
      · exact hs _ (List.mem_of_getElem? ‹_›)
      · rfl
    rw [hnil]
    exact ⟨.nil, .nil, .nil⟩
  | step hrun hpend hadv ih =>
    exact ih.step (sound_run (fun reg hreg => isNumbered_of_layers_eq_nil (hs reg hreg)) hrun)
      hpend hadv

end Machine

end Strata
