import Strata.Proofs.Detection
import Strata.Proofs.Sections

/-!
Reading several handles while others change the registry. A group is read again as long as the change
sequence is odd before it is read or another one after it. Main statement: in every run of scripts
the sequence is odd exactly while one task makes a change, a group is read at most a hundred times,
and a group that was read before its hundredth attempt was read while nobody was in the midst of a
change and nobody began or ended one (`quiet_of_getGroup`).
-/

namespace Strata

open Machine RegistryId Strata.Task

variable {α : Type} {i : Nat} {r : RegistryId} {read : Task α} {ms part : List Moment}

/-! ### The attempts of a consistent read -/

/-- An attempt to read consistently. There is no result if a change is under way, or if one was
begun or ended in the meantime. -/
def RegistryId.attempt (r : RegistryId) (read : Task α) : Task (Option α) := do
  let before ← ask r .changeSeq
  if before % 2 = 1 then return none
  else do
    let result ← read
    let after ← ask r .changeSeq
    return if after = before then some result else none

theorem readConsistently_succ (n : Nat) : r.readConsistently read (n + 1) =
    (r.attempt read).bind fun
      | some result => .done result
      | none => r.readConsistently read n := by
  simp only [readConsistently, attempt, ask, act, Program.act, Program.bind_eq_bind,
    Program.step_bind, Program.done_bind, Program.pure_eq_done]
  congr 1
  funext before
  split
  · rfl
  · rw [Program.bind_assoc]
    congr 1
    funext result
    simp only [Program.step_bind, Program.done_bind]
    congr 1
    funext after
    split <;> rfl

/-- Turns of a consistent read that come to nothing, how many they are, and how often something was
read in them. In each of them a change was under way, or the sequence was another one after the
read. -/
inductive Fails (i : Nat) (r : RegistryId) (read : Task α) : Nat → Nat → List Moment → Prop where
  | start : Fails i r read 0 0 []
  | busy {turns reads before : Nat} {first later : List Moment} :
    Becomes i (ask r .changeSeq) first (.done before) → before % 2 = 1 →
    Fails i r read turns reads later → Fails i r read (turns + 1) reads (later ++ first)
  | torn {turns reads before after : Nat} {result : α}
      {opening reading closing later : List Moment} :
    Becomes i (ask r .changeSeq) opening (.done before) → before % 2 = 0 →
    Becomes i read reading (.done result) → Becomes i (ask r .changeSeq) closing (.done after) →
    after ≠ before → Fails i r read turns reads later →
    Fails i r read (turns + 1) (reads + 1) (later ++ (closing ++ (reading ++ opening)))

/-- Each turn takes a moment at least. -/
theorem Fails.turns_le {turns reads : Nat} (h : Fails i r read turns reads ms) :
    turns ≤ ms.length := by
  induction h with
  | start => exact Nat.le_refl 0
  | @busy _ _ _ first later hfirst _ _ ih =>
    have hne : first.length ≠ 0 := fun hnil => by
      rw [List.eq_nil_of_length_eq_zero hnil] at hfirst
      cases hfirst
    simp only [List.length_append]
    omega
  | @torn _ _ _ _ _ opening _ _ _ hopening _ _ _ _ _ ih =>
    have hne : opening.length ≠ 0 := fun hnil => by
      rw [List.eq_nil_of_length_eq_zero hnil] at hopening
      cases hopening
    simp only [List.length_append]
    omega

/-- In few moments not all turns come to nothing. -/
theorem Fails.turns_lt {turns reads : Nat} {failed : List Moment}
    (h : Fails i r read turns reads failed) (hfailed : failed <:+ part)
    (hlength : part.length + 1 < Binding.maxAttempts) : turns + 1 < Binding.maxAttempts := by
  have hturns := h.turns_le
  have hle := hfailed.length_le
  omega

theorem Fails.reads_le {turns reads : Nat} (h : Fails i r read turns reads ms) : reads ≤ turns := by
  induction h with
  | start => exact Nat.le_refl 0
  | busy _ _ _ ih => exact Nat.le_succ_of_le ih
  | torn _ _ _ _ _ _ ih => exact Nat.succ_le_succ ih

/-- An attempt looks at the sequence, and if it is even it reads and looks again. -/
theorem becomes_attempt {x : Option α} (h : Becomes i (r.attempt read) part (.done x)) :
    (x = none ∧ ∃ before : Nat, before % 2 = 1 ∧ Becomes i (ask r .changeSeq) part (.done before)) ∨
      ∃ (before after : Nat) (result : α) (opening reading closing : List Moment),
        part = closing ++ (reading ++ opening) ∧ before % 2 = 0 ∧
        Becomes i (ask r .changeSeq) opening (.done before) ∧
        Becomes i read reading (.done result) ∧
        Becomes i (ask r .changeSeq) closing (.done after) ∧
        x = if after = before then some result else none := by
  obtain ⟨before, opening, rest, rfl, hopening, h⟩ := h.of_bind_done
  split at h
  · obtain ⟨heq, hidle⟩ := h.of_done
    cases heq
    exact .inl ⟨rfl, before, ‹_›, hopening.trans (becomes_of_idle hidle)⟩
  · rename_i hodd
    obtain ⟨result, reading, rest', rfl, hreading, h⟩ := h.of_bind_done
    obtain ⟨after, closing, idle, rfl, hclosing, h⟩ := h.of_bind_done
    obtain ⟨heq, hidle⟩ := h.of_done
    refine .inr ⟨before, after, result, opening, reading, idle ++ closing, by simp,
      (Nat.mod_two_eq_zero_or_one before).resolve_right hodd, hopening, hreading,
      hclosing.trans (becomes_of_idle hidle), ?_⟩
    split at heq <;> cases heq <;> simp [*]

/-- The last attempt reads in any case. -/
theorem becomes_lastAttempt {result : α}
    (h : Becomes i (r.readConsistently read 0) part (.done result)) :
    ∃ opening reading closing, part = closing ++ (reading ++ opening) ∧
      Becomes i read reading (.done result) := by
  obtain ⟨before, opening, rest, rfl, -, h⟩ := h.of_bind_done
  obtain ⟨result', reading, closing, rfl, hreading, h⟩ := h.of_bind_done
  obtain ⟨after, looking, idle, rfl, -, h⟩ := h.of_bind_done
  obtain ⟨heq, -⟩ := h.of_done
  cases heq
  exact ⟨opening, reading, idle ++ looking, by simp, hreading⟩

/-- An attempt without a result comes before the others. -/
theorem Fails.attempt {turns reads : Nat} {first : List Moment} (h : Fails i r read turns reads ms)
    (hfirst : Becomes i (r.attempt read) first (.done none)) :
    ∃ reads', Fails i r read (turns + 1) reads' (ms ++ first) := by
  rcases becomes_attempt hfirst with ⟨-, before, hodd, hopening⟩ |
    ⟨before, after, result, opening, reading, closing, rfl, heven, hopening, hreading, hclosing, hx⟩
  · exact ⟨reads, .busy hopening hodd h⟩
  · refine ⟨reads + 1, .torn hopening heven hreading hclosing (fun heq => ?_) h⟩
    rw [if_pos heq] at hx
    cases hx

/-- A consistent read that has so many attempts before the last one is in one of them, or in the last
one; the attempts before that have failed. -/
theorem becomes_readConsistently {t' : Task α} : ∀ {n : Nat} {part : List Moment},
    Becomes i (r.readConsistently read n) part t' → ∃ turns reads failed rest,
      part = rest ++ failed ∧ Fails i r read turns reads failed ∧
      ((turns < n ∧ ∃ u, Becomes i (r.attempt read) rest u ∧
          ∀ a, t' = .done a → u = .done (some a)) ∨
        (turns = n ∧ Becomes i (r.readConsistently read 0) rest t'))
  | 0, part, h => ⟨0, 0, [], part, by simp, .start, .inr ⟨rfl, h⟩⟩
  | n + 1, part, h => by
    rw [readConsistently_succ] at h
    rcases h.bind_cases with ⟨u, hu, rfl⟩ | ⟨x, first, later, rfl, hfirst, hlater⟩
    · refine ⟨0, 0, [], part, by simp, .start, .inl ⟨Nat.succ_pos n, u, hu, fun a ha => ?_⟩⟩
      match u with
      | .done (some b) =>
        cases ha
        rfl
      | .done none => cases n <;> cases ha
      | .step _ _ => cases ha
    · cases x with
      | some a =>
        obtain ⟨rfl, hidle⟩ := hlater.of_done
        refine ⟨0, 0, [], later ++ first, by simp, .start, .inl ⟨Nat.succ_pos n, .done (some a),
          hfirst.trans (becomes_of_idle hidle), fun b hb => ?_⟩⟩
        cases hb
        rfl
      | none =>
        obtain ⟨turns, reads, failed, rest, rfl, hfails, hrest⟩ := becomes_readConsistently hlater
        obtain ⟨reads', hfails'⟩ := hfails.attempt hfirst
        refine ⟨turns + 1, reads', failed ++ first, rest, by simp, hfails', ?_⟩
        exact hrest.imp (fun h => ⟨Nat.succ_lt_succ h.1, h.2⟩) fun h => ⟨congrArg (· + 1) h.1, h.2⟩

/-! ### The change sequence keeps count -/

namespace Machine

variable {m m₁ m₂ m₃ m' : Machine Unit}

/-- Whether a change of a registry begins or ends at a moment. -/
def Moment.isMark (r : RegistryId) (e : Moment) : Bool :=
  match e.step with
  | .act a => a.isMark r
  | .run _ => false

/-- The change sequence tells how often a change has begun or ended. -/
theorem Run.changeSeq (h : m.Run part m') {reg : Registry}
    (hreg : m.session.registries[r]? = some reg) : ∃ reg', m'.session.registries[r]? = some reg' ∧
      reg'.changeSeq = reg.changeSeq + part.countP (Moment.isMark r) := by
  induction h with
  | start => exact ⟨reg, hreg, rfl⟩
  | @step part m₁ m₂ j step _ hpend hadv ih =>
    obtain ⟨reg₁, hreg₁, hseq⟩ := ih
    obtain ⟨s, tasks⟩ := m₁
    rcases advance_cases hpend hadv with ⟨a, answer, next, s', -, rfl, htake, rfl⟩ |
      ⟨script, next, -, rfl, rfl⟩
    · have hcount : (⟨j, .act a, s⟩ :: part).countP (Moment.isMark r) =
          part.countP (Moment.isMark r) + if a.isMark r then 1 else 0 := List.countP_cons
      obtain ⟨reg', hreg', hseq'⟩ := Session.changeSeq_take r htake hreg₁
      exact ⟨reg', hreg', by rw [hseq', hseq, hcount, Nat.add_assoc]⟩
    · exact ⟨reg₁, hreg₁, by rw [List.countP_cons, hseq]; rfl⟩

/-- Who looks at the sequence is told what it is at that moment. -/
theorem Run.exists_changeSeq (h : m.Run part m') {v : Nat}
    (hb : Becomes i (ask r .changeSeq) part (.done v)) : ∃ first last m₁ reg,
      part = last ++ first ∧ m.Run first m₁ ∧ m₁.Run last m' ∧
      m₁.session.registries[r]? = some reg ∧ reg.changeSeq = v := by
  rcases hb.act_cases with ⟨-, heq⟩ | ⟨before, after, s, answer, s', rfl, -, htake, hdone⟩
  · cases heq
  obtain ⟨heq, -⟩ := hdone.of_done
  cases heq
  obtain ⟨m₂, hfirst, hlast⟩ := h.split
  obtain ⟨m₁, hbefore, rfl, hpend, hadv⟩ := hfirst.moment
  obtain ⟨reg, reg', hreg, hask, -⟩ := Session.exists_registry_take htake
  cases hask
  exact ⟨before, after ++ [⟨i, .act (.registry r .changeSeq), m₁.session⟩], m₁, reg, by simp,
    hbefore, Run.trans (.step .start hpend hadv) hlast, hreg, rfl⟩

/-- Nobody is in the midst of a change of a registry in a part of a run, and nobody begins or ends
one. -/
structure Quiet (r : RegistryId) (earlier part : List Moment) : Prop where
  closed : ∀ after before, part = after ++ before →
    ∀ j, isChanging r (history j (before ++ earlier)) = false
  unmarked : ∀ e ∈ part, e.isMark r = false

/-- If the sequence is the same even number before and after a part of a run, the part is quiet. -/
theorem Sectioned.quiet {opening reading closing : List Moment} {v : Nat} (h : Sectioned ms m)
    (hopening : m.Run opening m₁) (hbefore : Becomes i (ask r .changeSeq) opening (.done v))
    (hreading : m₁.Run reading m₂) (hclosing : m₂.Run closing m₃)
    (hafter : Becomes i (ask r .changeSeq) closing (.done v)) (heven : v % 2 = 0) :
    Quiet r (opening ++ ms) reading := by
  obtain ⟨first, last, n₁, reg, rfl, hfirst, hlast, hreg, hv⟩ := hopening.exists_changeSeq hbefore
  obtain ⟨first', last', n₂, reg', rfl, hfirst', -, hreg', hv'⟩ := hclosing.exists_changeSeq hafter
  obtain ⟨reg'', hreg'', hcount⟩ := ((hlast.trans hreading).trans hfirst').changeSeq hreg
  obtain rfl := Option.some.inj (hreg'.symm.trans hreg'')
  rw [hv, hv', List.countP_append, List.countP_append] at hcount
  refine ⟨fun after before heq j => ?_, fun e he => ?_⟩
  · subst heq
    obtain ⟨n, hbefore', -⟩ := hreading.split
    obtain ⟨reg₁, hreg₁, hseq⟩ := (hlast.trans hbefore').changeSeq hreg
    have hsectioned := (h.run_append hopening).run_append hbefore'
    rw [List.countP_append] at hseq hcount
    refine Bool.eq_false_iff.2 fun hj => ?_
    have hodd := (hsectioned.odd r reg₁ hreg₁).2 ⟨j, hj⟩
    omega
  · have hzero : reading.countP (Moment.isMark r) = 0 := by omega
    exact Bool.eq_false_iff.2 (List.countP_eq_zero.1 hzero e he)

/-! ### Main statement -/

/-- In a part of a run a task makes one change of a registry, and then it calls listeners. -/
def Changes (m : Machine Unit) (i : Nat) (r : RegistryId) (ms part : List Moment)
    (m' : Machine Unit) : Prop :=
  ∃ changes m₁ changing notifying, part = notifying ++ changing ∧ m.Run changing m₁ ∧
    Guards r (history i ms) (history i (changing ++ ms)) ∧
    m₁.Carries i (r.notify changes) notifying () m'

/-- The change sequences of a machine tell whether a change is under way: a registration that was
accepted or a refresh. Either of them makes one change, which is over when it calls listeners, and a
registration that was rejected makes none. -/
structure Sequenced (ms : List Moment) (m : Machine Unit) : Prop where
  odd : ∀ (r : RegistryId) reg, m.session.registries[r]? = some reg →
    (reg.changeSeq % 2 = 1 ↔ ∃! j, isChanging r (history j ms) = true)
  begun : ∀ j r, isChanging r (history j ms) = true → ∃ after before,
    history j ms = after ++ ⟨.registry r .beginChange, ()⟩ :: before ∧ Begins r before ∧
      Unmarked r after
  refreshed : ∀ (j : Nat) (r : RegistryId) report part m', m.Carries j r.refresh part report m' →
    m.Changes j r ms part m'
  registered : ∀ (j : Nat) (r : RegistryId) n priority part m',
    m.Carries j (r.register n priority) part (.ok ()) m' → m.Changes j r ms part m'
  rejected : ∀ (j : Nat) (r : RegistryId) n priority e part m',
    m.Carries j (r.register n priority) part (.error e) m' →
    ∃ new, history j (part ++ ms) = new ++ history j ms ∧ Unmarked r new

theorem Sectioned.sequenced (h : Sectioned ms m) : Sequenced ms m where
  odd := fun r reg hreg => (h.odd r reg hreg).trans
    ⟨fun ⟨j, hj⟩ => ⟨j, hj, fun k hk => h.alone hk hj⟩, fun ⟨j, hj, _⟩ => ⟨j, hj⟩⟩
  begun := fun j r hj => by
    obtain ⟨after, u, before, heq, hafter⟩ := exists_beginChange hj
    exact ⟨after, before, heq, (h.lawful j after _ before heq).1, hafter⟩
  refreshed := fun j r report part m' hc => by
    obtain ⟨x, m₁, changing, notifying, rfl, -, hrenewal, hnotify⟩ := carries_refresh hc
    exact ⟨x.2, m₁, changing, notifying, rfl, hrenewal.run,
      (h.carried hrenewal (heeds_renewal r (h.ready j))).2, hnotify⟩
  registered := fun j r n priority part m' hc => by
    obtain ⟨changes, m₁, changing, notifying, rfl, hregistration, hnotify⟩ := carries_register hc
    exact ⟨changes, m₁, changing, notifying, rfl, hregistration.run,
      (h.carried hregistration (heeds_registration r n priority (h.ready j))).2, hnotify⟩
  rejected := fun j r n priority e part m' hc =>
    (h.carried (carries_register_error hc) (heeds_registration r n priority (h.ready j))).2

/-- A group that was read. All turns but the last one came to nothing; if the last one was not the
hundredth, its reading was quiet. -/
theorem Sectioned.getGroup {b : Binding} {bs : List Binding} {result : Except Failure (List Value)}
    (h : Sectioned ms m) (hc : m.Carries i (Binding.getGroup (b :: bs)) part result m') :
    ∃ turns reads failed opening reading closing,
      part = closing ++ (reading ++ (opening ++ failed)) ∧
      Fails i b.registry (Binding.getAll (b :: bs)) turns reads failed ∧
      turns < Binding.maxAttempts ∧ Becomes i (Binding.getAll (b :: bs)) reading (.done result) ∧
      (turns + 1 < Binding.maxAttempts →
        Quiet b.registry (opening ++ (failed ++ ms)) reading) := by
  obtain ⟨turns, reads, failed, rest, rfl, hfails, ⟨hlt, u, hu, hdone⟩ | ⟨hlast, hrest⟩⟩ :=
    becomes_readConsistently hc.becomes
  · obtain rfl := hdone result rfl
    rcases becomes_attempt hu with ⟨hnone, -⟩ |
      ⟨before, after, result', opening, reading, closing, rfl, heven, hopening, hreading, hclosing, hx⟩
    · cases hnone
    split at hx
    · rename_i hsame
      cases hx
      subst hsame
      obtain ⟨m₁, hrun₁, hrun⟩ := hc.run.split
      obtain ⟨m₃, hrun, hrun₃⟩ := hrun.split
      obtain ⟨m₂, hrun₂, hrun⟩ := hrun.split
      refine ⟨turns, reads, failed, opening, reading, closing, by simp, hfails,
        Nat.lt_of_lt_of_le hlt (Nat.sub_le _ _), hreading, fun _ => ?_⟩
      exact (h.run_append hrun₁).quiet hrun₂ hopening hrun hrun₃ hclosing heven
    · cases hx
  · obtain ⟨opening, reading, closing, rfl, hreading⟩ := becomes_lastAttempt hrest
    refine ⟨turns, reads, failed, opening, reading, closing, by simp, hfails, ?_, hreading, ?_⟩
    · rw [hlast]
      decide
    · intro hlt
      rw [hlast] at hlt
      exact absurd hlt (by decide)

end Machine

/-- Tasks that run scripts take turns in any order, one action at a time. The change sequence of a
registry is odd exactly while one task is in the guarded section of a refresh or of a registration
that was accepted. However far a group read has come, at most ninety-nine turns have come to nothing
and it is in one more. If it returns in a turn before the hundredth, with values or with a failure,
then no such section was open at any time while the handles were read, and none was entered or
left. -/
theorem quiet_of_getGroup {s : Session} {scripts : List Script} {earlier part : List Moment}
    {m m' : Machine Unit} {i : Nat} {b : Binding} {bs : List Binding}
    (hs : ∀ reg ∈ s.registries, reg.IsNumbered ∧ reg.changeSeq % 2 = 0)
    (hrun : Machine.Run ⟨s, scripts.map Script.task⟩ earlier m) :
    Sequenced earlier m ∧
    (∀ t', Becomes i (Binding.getGroup (b :: bs)) part t' → ∃ turns reads failed rest,
      part = rest ++ failed ∧ reads ≤ turns ∧
      Fails i b.registry (Binding.getAll (b :: bs)) turns reads failed ∧
      ((turns + 1 < Binding.maxAttempts ∧
          ∃ u, Becomes i (b.registry.attempt (Binding.getAll (b :: bs))) rest u) ∨
        (turns + 1 = Binding.maxAttempts ∧
          Becomes i (b.registry.readConsistently (Binding.getAll (b :: bs)) 0) rest t'))) ∧
    ∀ result, m.Carries i (Binding.getGroup (b :: bs)) part result m' →
      ∃ turns reads failed opening reading closing,
        part = closing ++ (reading ++ (opening ++ failed)) ∧
        Fails i b.registry (Binding.getAll (b :: bs)) turns reads failed ∧
        turns < Binding.maxAttempts ∧ Becomes i (Binding.getAll (b :: bs)) reading (.done result) ∧
        (turns + 1 < Binding.maxAttempts →
          Quiet b.registry (opening ++ (failed ++ earlier)) reading) := by
  have hsectioned := sectioned_run hs hrun
  refine ⟨hsectioned.sequenced, fun t' hb => ?_, fun result hc => hsectioned.getGroup hc⟩
  obtain ⟨turns, reads, failed, rest, rfl, hfails, hrest⟩ := becomes_readConsistently hb
  refine ⟨turns, reads, failed, rest, rfl, hfails.reads_le, hfails, hrest.imp ?_ ?_⟩
  · rintro ⟨hlt, u, hu, -⟩
    exact ⟨Nat.add_lt_of_lt_sub hlt, u, hu⟩
  · rintro ⟨rfl, h⟩
    exact ⟨rfl, h⟩

/-- A map that was written to since its snapshot was recorded, and handles on its keys. -/
def twoHandles : Session where
  sources := [
    .builtin (.map { name := "m", isMutable := true, values := .ofList [("a", "2"), ("b", "2")] })]
  registries := [{
    layers := [⟨0, "m", true, 0, 0, .ofList [("a", "1"), ("b", "1")]⟩]
    nextSeq := 1 }]
  handles := [
    { binding := ⟨0, 0, "a", Kind.string.converter, .text "", false⟩ },
    { binding := ⟨1, 0, "b", Kind.string.converter, .text "", false⟩ }]
  ids := { handles := .ofList [("x", 0), ("y", 1)] }

theorem registries_twoHandles : ∀ reg ∈ twoHandles.registries,
    reg.IsNumbered ∧ reg.changeSeq % 2 = 0 := by
  intro reg hreg
  rw [List.mem_singleton.1 hreg]
  exact ⟨⟨by simp, by simp, by simp⟩, rfl⟩

/-- The handles of `twoHandles`. -/
def bothBindings : List Binding := twoHandles.handles.map (·.binding)

/-- A task that reads both handles, and a task that refreshes. -/
def readAndRefresh : List Script := [⟨"g", [.readGroup ["x", "y"]]⟩, ⟨"f", [.refresh]⟩]

/-- The refresh begins while the handles are read. They are read again when it is over, and that
reading is quiet. -/
theorem quiet_of_getGroup_of_maps : ∃ earlier part m m' result failed opening reading closing,
    Machine.Run ⟨twoHandles, readAndRefresh.map Script.task⟩ earlier m ∧ Sequenced earlier m ∧
    m.Carries 0 (Binding.getGroup bothBindings) part result m' ∧
    result.toOption.map (·.map Kind.string.converter.encode) = some ["2", "2"] ∧
    part = closing ++ (reading ++ (opening ++ failed)) ∧
    Becomes 0 (Binding.getAll bothBindings) reading (.done result) ∧
    Quiet 0 (opening ++ (failed ++ earlier)) reading := by
  let start : Machine Unit := ⟨twoHandles, readAndRefresh.map Script.task⟩
  let finish (owner name : String) (o : Outcome) : Task Unit := act (.finished owner name o)
  let x := start.follow [] [0, 0]
  let y := x.2.follow [] ([0, 0, 1, 1, 1] ++ List.replicate 17 0 ++ List.replicate 5 1 ++
    List.replicate 6 0)
  have hx : start.Run x.1 x.2 := Machine.run_follow _ .start
  have hy : x.2.Run y.1 y.2 := Machine.run_follow _ .start
  have hx₀ : x.2.tasks[0]? = some ((((Binding.getGroup bothBindings).bind fun y =>
      .done (.ofExcept .values y)).bind (finish "g" "g_get")).bind fun _ => .done ()) := rfl
  rw [Program.bind_assoc, Program.bind_assoc] at hx₀
  have hread : (((Binding.getGroup bothBindings).after 0 y.1).bind Task.result?).map
      (fun result => result.toOption.map (·.map Kind.string.converter.encode)) =
        some (some ["2", "2"]) := by decide +kernel
  obtain ⟨result, hresult, hvalues⟩ := Option.map_eq_some_iff.1 hread
  have hcarries := hy.carries hx₀ hresult
  obtain ⟨hsequenced, -, hgroup⟩ := quiet_of_getGroup registries_twoHandles hx
  obtain ⟨turns, reads, failed, opening, reading, closing, heq, hfails, -, hreading, hquiet⟩ :=
    hgroup result hcarries
  have hlength : y.1.length + 1 < Binding.maxAttempts := by decide +kernel
  have hturns := hfails.turns_lt ⟨closing ++ (reading ++ opening), by simp [heq]⟩ hlength
  exact ⟨_, _, _, _, result, failed, opening, reading, closing, hx, hsequenced, hcarries, hvalues,
    heq, hreading, hquiet hturns⟩

end Strata
