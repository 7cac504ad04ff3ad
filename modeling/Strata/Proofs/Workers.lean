import Strata.Proofs.Exclusion

/-!
Workers of schedulers. Every worker is in exactly one place: in the slot, with a call that is about
to place it there or to tell it to stop, or among those that have been told (`isPlaced_steps`). So
when no call is in progress all workers but the one in the slot have been told. A call that has
taken a worker from the slot does not return before that worker has exited, unless it is made on the
thread of that worker (`exited_of_hasReturned`). The schedulers of a session do nothing but steps
(`Session.HasReached.run`). Main statement: `workers_of_steps`.
-/

namespace Strata.Scheduler

variable {s s' : Scheduler} {e : Step} {es : List Step} {i w : Nat} {caller : Option Nat}
  {move : SchedulerMove} {rest more : List SchedulerMove}

/-! ### Steps -/

/-- What a step does: it leaves all as it is, a call is entered, a call makes a move, a call goes on
without a worker as there is no thread for it, or a worker that has not exited goes on to another
phase. -/
inductive Does (s : Scheduler) : Step → Scheduler → Prop where
  | nothing {e : Step} : Does s e s
  | enter {e : Step} {caller : Option Nat} {moves : List SchedulerMove} {isDropped : Bool} :
    moves = stopMoves ∨ (∃ interval, moves = startMoves interval) →
    Does s e ({ s with isDropped := isDropped }.enterCall caller moves)
  | move {i : Nat} {caller : Option Nat} {move : SchedulerMove} {rest more : List SchedulerMove}
    {s₁ : Scheduler} : s.calls[i]? = some ⟨caller, move :: rest⟩ →
    s.make caller move = some (more, s₁) →
    Does s (.move i) { s₁ with calls := s.calls.set i ⟨caller, more ++ rest⟩ }
  | refuse {i : Nat} {caller : Option Nat} {interval : Timespan} {rest : List SchedulerMove} :
    s.calls[i]? = some ⟨caller, .spawn interval :: rest⟩ →
    Does s (.refuse i) { s with calls := s.calls.set i ⟨caller, rest⟩ }
  | phase {e : Step} {w : Nat} {phase : WorkerPhase} : s.phase? w ≠ some .exited →
    Does s e (s.enter w phase)

theorem calls_make {s₁ : Scheduler} (h : s.make caller move = some (more, s₁)) :
    s₁.calls = s.calls := by
  cases move with
  | join w =>
    simp only [make] at h
    split at h <;> cases h
    rfl
  | _ =>
    cases h
    rfl

theorem does_of_step (h : s.step e = some s') : Does s e s' := by
  cases e with
  | start caller interval =>
    simp only [step] at h
    split at h
    · cases h
    · split at h <;> cases h
      · exact .nothing
      · exact .enter (.inr ⟨interval, rfl⟩)
  | stop caller =>
    simp only [step] at h
    split at h <;> cases h
    exact .enter (.inl rfl)
  | drop caller =>
    simp only [step] at h
    split at h <;> cases h
    exact .enter (.inl rfl)
  | move i =>
    simp only [step] at h
    split at h
    · rename_i caller move rest hcall
      obtain ⟨⟨more, s₁⟩, hmake, rfl⟩ := Option.map_eq_some_iff.1 h
      have hmove := Does.move hcall hmake
      rwa [← calls_make hmake] at hmove
    · cases h
  | refuse i =>
    simp only [step] at h
    split at h <;> cases h
    exact .refuse ‹_›
  | begin w | finish w =>
    simp only [step] at h
    split at h <;> cases h
    refine .phase ?_
    simp_all
  | quit w =>
    simp only [step] at h
    split at h
    · split at h <;> cases h
      refine .phase ?_
      simp_all [phase?]
    · cases h

/-- What every step keeps all steps keep. -/
theorem steps_induction {P : Scheduler → Prop}
    (hstep : ∀ {s e s'}, P s → s.step e = some s' → P s') :
    ∀ {es : List Step} {s s' : Scheduler}, P s → s.steps es = some s' → P s'
  | [], _, _, hs, h => Option.some.inj h ▸ hs
  | _ :: _, _, _, hs, h => by
    obtain ⟨s₁, hfirst, h⟩ := Option.bind_eq_some_iff.1 h
    exact steps_induction hstep (hstep hs hfirst) h

/-! ### Where workers are -/

/-- The moves that are left of calls. -/
def pending (calls : List SchedulerCall) : List SchedulerMove := calls.flatMap (·.moves)

/-- Whether a worker has been told to stop. -/
def isToldIn (workers : List Worker) (w : Nat) : Bool := (workers[w]?).any (·.isTold)

/-- The number of places in which a worker is: the slot, calls that are about to place it there,
calls that are about to tell it to stop, and having been told. -/
def places (s : Scheduler) (w : Nat) : Nat :=
  s.slot.toList.count w + (pending s.calls).count (.place w) + (pending s.calls).count (.tell w) +
    (isToldIn s.workers w).toNat

/-- Every worker that there is is in exactly one place. -/
def IsPlaced (s : Scheduler) : Prop := ∀ w, s.places w = if w < s.workers.length then 1 else 0

theorem pending_enterCall (moves : List SchedulerMove) :
    pending (s.enterCall caller moves).calls = pending s.calls ++ moves := by
  simp [pending, enterCall]

/-- What is pending after a call has gone on. -/
theorem count_pending_set {call : SchedulerCall} (h : s.calls[i]? = some call)
    (call' : SchedulerCall) (a : SchedulerMove) :
    (pending (s.calls.set i call')).count a + call.moves.count a =
      (pending s.calls).count a + call'.moves.count a := by
  obtain ⟨hlt, rfl⟩ := List.getElem?_eq_some_iff.1 h
  have hset : s.calls.set i call' = s.calls.take i ++ call' :: s.calls.drop (i + 1) :=
    List.set_eq_take_append_cons_drop.trans (if_pos hlt)
  have hcalls : s.calls = s.calls.take i ++ s.calls[i] :: s.calls.drop (i + 1) := by simp
  have hcount := congrArg (fun calls => (pending calls).count a) hcalls
  simp only [hset, pending, List.flatMap_append, List.flatMap_cons, List.count_append] at hcount ⊢
  omega

theorem isToldIn_enter (phase : WorkerPhase) (v : Nat) :
    isToldIn (s.enter w phase).workers v = isToldIn s.workers v := by
  simp only [isToldIn, enter, update, List.getElem?_modify]
  split <;> cases s.workers[v]? <;> rfl

theorem isToldIn_tell {workers : List Worker} {v : Nat} (hv : v < workers.length) (w : Nat) :
    isToldIn (workers.modify v fun worker => { worker with isTold := true }) w =
      (decide (v = w) || isToldIn workers w) := by
  simp only [isToldIn, List.getElem?_modify]
  split
  case isTrue h =>
    subst h
    simp [List.getElem?_eq_getElem hv]
  case isFalse h => simp [h]

theorem isToldIn_spawn (workers : List Worker) (interval : Timespan) (w : Nat) :
    isToldIn (workers ++ [{ interval := interval }]) w = isToldIn workers w := by
  rcases Nat.lt_trichotomy w workers.length with h | rfl | h
  · simp [isToldIn, List.getElem?_append_left h]
  · simp [isToldIn]
  · have hnone : (workers ++ [{ interval := interval }])[w]? = none :=
      List.getElem?_eq_none (by rw [List.length_append, List.length_singleton]; exact h)
    rw [isToldIn, isToldIn, hnone, List.getElem?_eq_none (Nat.le_of_lt h)]

@[simp] theorem count_tell_shutDown (o : Option Nat) :
    (shutDown o).count (.tell w) = o.toList.count w := by
  cases o <;> simp [shutDown, List.count_cons]

@[simp] theorem count_place_shutDown (o : Option Nat) : (shutDown o).count (.place w) = 0 := by
  cases o <;> simp [shutDown]

/-- A move takes a worker from one place to another, or brings a new one to its first place. -/
theorem isPlaced_move {s₁ : Scheduler} (h : s.IsPlaced)
    (hcall : s.calls[i]? = some ⟨caller, move :: rest⟩)
    (hmake : s.make caller move = some (more, s₁)) :
    IsPlaced { s₁ with calls := s.calls.set i ⟨caller, more ++ rest⟩ } := by
  intro w
  have hw := h w
  have hplace := count_pending_set hcall ⟨caller, more ++ rest⟩ (.place w)
  have htell := count_pending_set hcall ⟨caller, more ++ rest⟩ (.tell w)
  simp only [List.count_append, List.count_cons, beq_iff_eq] at hplace htell
  simp only [places] at hw ⊢
  cases move with
  | take =>
    cases hmake
    simp only [count_place_shutDown, count_tell_shutDown, reduceCtorEq, if_false,
      Option.toList_none, List.count_nil] at hplace htell ⊢
    omega
  | tell v =>
    cases hmake
    -- The worker is there and has not been told before, as it is with this call.
    have hv := h v
    have hwith := count_pending_set hcall ⟨caller, rest⟩ (.tell v)
    simp only [places, List.count_cons_self] at hv hwith
    have hlt : v < s.workers.length := by
      by_contra hge
      rw [if_neg hge] at hv
      omega
    simp only [List.count_nil, reduceCtorEq, if_false, SchedulerMove.tell.injEq] at hplace htell
    simp only [update, List.length_modify, isToldIn_tell hlt w]
    rcases eq_or_ne v w with rfl | hne
    · rw [if_pos rfl] at htell
      rw [if_pos hlt] at hv ⊢
      simp only [decide_true, Bool.true_or, Bool.toNat_true]
      omega
    · rw [if_neg hne] at htell
      simp only [hne, decide_false, Bool.false_or]
      omega
  | join v =>
    simp only [make] at hmake
    split at hmake <;> cases hmake
    simp only [List.count_nil, reduceCtorEq, if_false] at hplace htell ⊢
    omega
  | spawn interval =>
    cases hmake
    simp only [List.count_cons, List.count_nil, beq_iff_eq, reduceCtorEq, if_false,
      SchedulerMove.place.injEq] at hplace htell
    simp only [isToldIn_spawn, List.length_append, List.length_singleton]
    split at hplace <;> split at hw <;> split <;> omega
  | place v =>
    cases hmake
    simp only [count_place_shutDown, count_tell_shutDown, reduceCtorEq, if_false,
      SchedulerMove.place.injEq] at hplace htell
    simp only [Option.toList_some, List.count_singleton, beq_iff_eq]
    split at hplace <;> rename_i hv
    · rw [if_pos hv]
      omega
    · rw [if_neg hv]
      omega

theorem isPlaced_step (h : s.IsPlaced) (hstep : s.step e = some s') : s'.IsPlaced := by
  cases does_of_step hstep with
  | nothing => exact h
  | @enter _ caller moves isDropped hmoves =>
    intro w
    have hnone : moves.count (.place w) = 0 ∧ moves.count (.tell w) = 0 := by
      rcases hmoves with rfl | ⟨interval, rfl⟩ <;> simp [stopMoves, startMoves]
    rw [places, pending_enterCall]
    simp only [List.count_append, hnone, Nat.add_zero]
    exact h w
  | move hcall hmake => exact isPlaced_move h hcall hmake
  | @refuse i caller interval rest hcall =>
    intro w
    have hplace := count_pending_set hcall ⟨caller, rest⟩ (.place w)
    have htell := count_pending_set hcall ⟨caller, rest⟩ (.tell w)
    have hw := h w
    simp only [List.count_cons, beq_iff_eq, reduceCtorEq, if_false] at hplace htell
    simp only [places] at hw ⊢
    omega
  | @phase _ v phase _ =>
    intro w
    rw [places, isToldIn_enter]
    simpa only [places, enter, update, List.length_modify] using h w

theorem isPlaced_steps (h : steps {} es = some s) : s.IsPlaced :=
  steps_induction isPlaced_step (fun w => by simp [places, pending, isToldIn]) h

/-- The worker in the slot is there, and has not been told to stop. -/
theorem IsPlaced.of_slot (h : s.IsPlaced) (hslot : s.slot = some w) :
    ∃ worker, s.workers[w]? = some worker ∧ worker.isTold = false := by
  have hw := h w
  simp only [places, hslot, Option.toList_some, List.count_singleton_self] at hw
  split at hw
  case isTrue hlt =>
    have htold : isToldIn s.workers w = false := by
      by_contra htrue
      rw [Bool.not_eq_false] at htrue
      simp only [htrue, Bool.toNat_true] at hw
      omega
    rw [isToldIn, List.getElem?_eq_getElem hlt] at htold
    exact ⟨s.workers[w], List.getElem?_eq_getElem hlt, htold⟩
  case isFalse => omega

theorem pending_of_isQuiet (h : s.isQuiet = true) : pending s.calls = [] := by
  simpa [isQuiet, pending] using h

/-- When no call is in progress, the workers that have not been told to stop are in the slot. -/
theorem IsPlaced.of_isQuiet (h : s.IsPlaced) (hquiet : s.isQuiet = true) {worker : Worker}
    (hworker : s.workers[w]? = some worker) (hslot : s.slot ≠ some w) : worker.isTold = true := by
  have hw := h w
  have hlt : w < s.workers.length := (List.getElem?_eq_some_iff.1 hworker).1
  have hcount : s.slot.toList.count w = 0 := by
    rw [List.count_eq_zero]
    simpa using hslot
  simp only [places, hcount, pending_of_isQuiet hquiet, List.count_nil, if_pos hlt] at hw
  simpa [isToldIn, hworker] using hw

/-! ### Waiting for a worker -/

/-- A worker that has exited has done so for good. -/
theorem exited_make {s₁ : Scheduler} (hmake : s.make caller move = some (more, s₁))
    (h : s.phase? w = some .exited) : s₁.phase? w = some .exited := by
  cases move with
  | take | place v =>
    cases hmake
    exact h
  | tell v =>
    cases hmake
    simp only [phase?, update, List.getElem?_modify] at h ⊢
    split <;> simpa using h
  | join v =>
    simp only [make] at hmake
    split at hmake <;> cases hmake
    exact h
  | spawn interval =>
    cases hmake
    obtain ⟨worker, hworker, -⟩ := Option.map_eq_some_iff.1 h
    have hlt := (List.getElem?_eq_some_iff.1 hworker).1
    simpa only [phase?, List.getElem?_append_left hlt] using h

theorem exited_enter {v : Nat} (phase : WorkerPhase) (hv : s.phase? v ≠ some .exited)
    (h : s.phase? w = some .exited) : (s.enter v phase).phase? w = some .exited := by
  have hne : v ≠ w := fun heq => hv (heq ▸ h)
  simpa only [phase?, enter, update, List.getElem?_modify, if_neg hne, id_map'] using h

theorem exited_step (h : s.phase? w = some .exited) (hstep : s.step e = some s') :
    s'.phase? w = some .exited := by
  cases does_of_step hstep with
  | nothing | enter | refuse => exact h
  | move _ hmake =>
    have hexited := exited_make hmake h
    exact hexited
  | phase hne => exact exited_enter _ hne h

/-- Whether a call has been made and has come to its end. -/
def hasReturned (s : Scheduler) (call : Nat) : Bool :=
  (s.calls[call]?).any (·.moves.isEmpty)

/-- A call on another thread is going to wait for a worker, or the worker has exited. -/
def AwaitsExit (s : Scheduler) (i w : Nat) : Prop :=
  ∃ c, s.calls[i]? = some c ∧ c.caller ≠ some w ∧ (.join w ∈ c.moves ∨ s.phase? w = some .exited)

/-- What a call that takes its next move keeps: it waits for the worker itself, or later. -/
theorem awaitsExit_set {c : SchedulerCall} {s₁ : Scheduler} {moves : List SchedulerMove} {j : Nat}
    (h : s.AwaitsExit i w) (hcall : s.calls[j]? = some c)
    (hcalls : s₁.calls = s.calls.set j ⟨c.caller, moves⟩)
    (hmoves : .join w ∈ c.moves → .join w ∈ moves ∨ c.caller = some w ∨
      s₁.phase? w = some .exited)
    (hphase : s.phase? w = some .exited → s₁.phase? w = some .exited) : s₁.AwaitsExit i w := by
  obtain ⟨c', hc', hcaller, hawaits⟩ := h
  have hlt := (List.getElem?_eq_some_iff.1 hc').1
  rcases eq_or_ne j i with rfl | hne
  · obtain rfl : c = c' := Option.some.inj (hcall.symm.trans hc')
    refine ⟨⟨c.caller, moves⟩, by rw [hcalls, List.getElem?_set_self hlt], hcaller, ?_⟩
    rcases hawaits with hjoin | hexited
    · rcases hmoves hjoin with hjoin | hself | hexited
      · exact .inl hjoin
      · exact absurd hself hcaller
      · exact .inr hexited
    · exact .inr (hphase hexited)
  · exact ⟨c', by rw [hcalls, List.getElem?_set_ne hne, hc'], hcaller, hawaits.imp_right hphase⟩

theorem awaitsExit_step (h : s.AwaitsExit i w) (hstep : s.step e = some s') :
    s'.AwaitsExit i w := by
  have hexited := fun hw => exited_step (w := w) hw hstep
  cases does_of_step hstep with
  | nothing => exact h
  | enter =>
    obtain ⟨c, hc, hrest⟩ := h
    have hlt := (List.getElem?_eq_some_iff.1 hc).1
    exact ⟨c, (List.getElem?_append_left hlt).trans hc, hrest⟩
  | @move j caller move rest more s₁ hcall hmake =>
    refine awaitsExit_set h hcall rfl (fun hjoin => ?_) hexited
    rcases List.mem_cons.1 hjoin with rfl | hrest
    · -- The call can go on if it is made by the worker, or if the worker has exited.
      simp only [make] at hmake
      split at hmake <;> cases hmake
      exact .inr ‹_›
    · exact .inl (List.mem_append_right _ hrest)
  | @refuse j caller interval rest hcall =>
    refine awaitsExit_set h hcall rfl (fun hjoin => .inl ?_) hexited
    simpa using hjoin
  | phase =>
    obtain ⟨c, hc, hcaller, hawaits⟩ := h
    exact ⟨c, hc, hcaller, hawaits.imp_right hexited⟩

/-- A call that takes a worker from the slot returns when the worker has exited, unless the worker
makes it. -/
theorem exited_of_hasReturned {s₁ s₂ : Scheduler}
    (hcall : s.calls[i]? = some ⟨caller, .take :: rest⟩) (hslot : s.slot = some w)
    (hcaller : caller ≠ some w) (hstep : s.step (.move i) = some s₁)
    (hsteps : s₁.steps es = some s₂) (hreturned : s₂.hasReturned i = true) :
    s₂.phase? w = some .exited := by
  have hlt := (List.getElem?_eq_some_iff.1 hcall).1
  have hawaits : s₁.AwaitsExit i w := by
    simp only [step, hcall, make, hslot, shutDown, Option.map_some, Option.some.injEq] at hstep
    subst hstep
    exact ⟨_, List.getElem?_set_self hlt, hcaller, .inl (by simp)⟩
  obtain ⟨c, hc, -, hjoin | hexited⟩ := steps_induction awaitsExit_step hawaits hsteps
  · have hnil : c.moves = [] := by simpa [hasReturned, hc] using hreturned
    simp [hnil] at hjoin
  · exact hexited

/-- A call that has not begun is left alone by all but its own move. -/
theorem call_step {c : SchedulerCall} (hcall : s.calls[i]? = some c)
    (htake : c.moves.head? = some .take) (hne : e ≠ .move i) (hstep : s.step e = some s') :
    s'.calls[i]? = some c := by
  cases does_of_step hstep with
  | nothing | phase => exact hcall
  | enter => exact (List.getElem?_append_left (List.getElem?_eq_some_iff.1 hcall).1).trans hcall
  | @move j =>
    have hji : j ≠ i := fun h => hne (h ▸ rfl)
    exact (List.getElem?_set_ne hji).trans hcall
  | @refuse j _ _ _ hrefused =>
    have hji : j ≠ i := by
      rintro rfl
      obtain rfl : _ = c := Option.some.inj (hrefused.symm.trans hcall)
      simp at htake
    exact (List.getElem?_set_ne hji).trans hcall

theorem call_steps {c : SchedulerCall} (htake : c.moves.head? = some .take) :
    ∀ {es : List Step} {s s' : Scheduler}, s.calls[i]? = some c → .move i ∉ es →
      s.steps es = some s' → s'.calls[i]? = some c
  | [], _, _, hcall, _, h => Option.some.inj h ▸ hcall
  | e :: es, _, _, hcall, hne, h => by
    obtain ⟨s₁, hstep, h⟩ := Option.bind_eq_some_iff.1 h
    obtain ⟨he, hes⟩ : .move i ≠ e ∧ .move i ∉ es := by simpa using hne
    exact call_steps htake (call_step hcall htake (Ne.symm he) hstep) hes h

/-- A call to stop or to drop is to take a worker first. -/
theorem call_of_stop (he : e = .stop caller ∨ e = .drop caller) (h : s.step e = some s') :
    s'.calls[s.calls.length]? = some ⟨caller, [.take]⟩ := by
  rcases he with rfl | rfl <;> simp only [step] at h <;> split at h <;> cases h <;>
    simp [enterCall, stopMoves]

/-! ### Whole calls -/

/-- Whether a scheduler comes from a new one by steps. -/
def IsReached (s : Scheduler) : Prop := ∃ es, steps {} es = some s

theorem isReached_new : IsReached {} := ⟨[], rfl⟩

theorem steps_append (es es' : List Step) :
    s.steps (es ++ es') = (s.steps es).bind fun s => s.steps es' := by
  induction es generalizing s with
  | nil => rfl
  | cons e es ih => cases h : s.step e <;> simp [steps, h, ih]

theorem IsReached.step (h : s.IsReached) (hstep : s.step e = some s') : s'.IsReached := by
  obtain ⟨es, hes⟩ := h
  exact ⟨es ++ [e], by simp [steps_append, hes, steps, hstep]⟩

theorem IsReached.getD_step (h : s.IsReached) (e : Step) : ((s.step e).getD s).IsReached := by
  cases hstep : s.step e with
  | none => exact h
  | some s' => exact h.step hstep

theorem IsReached.settleLast (h : s.IsReached) (n : Nat) : (s.settleLast n).IsReached := by
  induction n generalizing s with
  | zero => exact h
  | succ n ih =>
    simp only [Scheduler.settleLast]
    split
    · split
      · exact ih (h.getD_step _)
      · exact ih ((h.getD_step _).getD_step _)
    · exact ih (h.getD_step _)
    · exact h

/-- A whole call is made of steps. -/
theorem IsReached.call (h : s.IsReached) (e : Step) :
    (((s.step e).map (·.settleLast maxMoves)).getD s).IsReached := by
  cases hstep : s.step e with
  | none => exact h
  | some s' => exact (h.step hstep).settleLast maxMoves

theorem IsReached.begin (h : s.IsReached) : s.begin.IsReached := by
  rw [Scheduler.begin]
  cases s.slot with
  | none => exact h
  | some w => exact h.getD_step (.begin w)

theorem IsReached.finish (h : s.IsReached) : s.finish.IsReached := by
  rw [Scheduler.finish]
  split
  · exact h
  · exact (h.getD_step _).getD_step _

end Strata.Scheduler

namespace Strata.Session

/-- Whether all schedulers of a session come from new ones by steps. -/
def HasReached (s : Session) : Prop := ∀ r ∈ s.schedulers, r.scheduler.IsReached

theorem HasReached.changeScheduler {s : Session} {f : Scheduler → Scheduler} (h : s.HasReached)
    (hf : ∀ {x : Scheduler}, x.IsReached → (f x).IsReached) (n : Nat) :
    (s.changeScheduler n f).HasReached := by
  intro r hr
  obtain ⟨k, hk⟩ := List.mem_iff_getElem?.1 hr
  simp only [Session.changeScheduler, List.getElem?_modify] at hk
  obtain ⟨r₀, hr₀, rfl⟩ := Option.map_eq_some_iff.1 hk
  have hreached := h r₀ (List.mem_of_getElem? hr₀)
  split
  · exact hf hreached
  · exact hreached

theorem HasReached.withScheduler {s : Session} {f : Scheduler → Scheduler} (h : s.HasReached)
    (hf : ∀ {x : Scheduler}, x.IsReached → (f x).IsReached) (id : String) :
    (s.withScheduler id f).HasReached := by
  rw [Session.withScheduler]
  split
  · exact h
  · exact h.changeScheduler hf _

theorem HasReached.addScheduler {s : Session} {x : Scheduler} (h : s.HasReached)
    (hx : x.IsReached) (id : String) : (s.addScheduler id x).HasReached := by
  intro r hr
  rcases List.mem_append.1 hr with hr | hr
  · exact h.withScheduler (fun hx => hx.call _) id r hr
  · obtain rfl := List.mem_singleton.1 hr
    exact hx

theorem HasReached.withInterval {s s' : Session} (h : s.HasReached) (h' : s'.HasReached)
    (interval : Timespan) : (s.withInterval interval s').2.HasReached := by
  rw [Session.withInterval]
  split
  · exact h
  · exact h'

theorem HasReached.of_eq {s s' : Session} (h : s.HasReached)
    (heq : s'.schedulers = s.schedulers) : s'.HasReached := by
  rwa [HasReached, heq]

theorem HasReached.carryOut {s : Session} (h : s.HasReached) (d : Deed Command) :
    (s.carryOut d).2.HasReached := by
  have hnew : ∀ interval, (Scheduler.start {} interval).IsReached :=
    fun _ => Scheduler.isReached_new.call _
  cases d with
  | stopScheduler id => exact h.withScheduler (fun hx => hx.call _) id
  | dropScheduler id => exact (h.withScheduler (fun hx => hx.call _) id).of_eq rfl
  | newScheduler id => exact h.addScheduler Scheduler.isReached_new id
  | startScheduler id interval =>
    simp only [Session.carryOut, startScheduler]
    split
    · exact h
    · exact h
    · exact h.withInterval (h.changeScheduler (fun hx => hx.call _) _) _
  | schedule id settings =>
    simp only [Session.carryOut, schedule]
    split
    · exact h
    · exact h.withInterval (h.addScheduler (hnew _) id) _
  | put | remove | extend =>
    simp only [Session.carryOut, changeMap]
    split <;> exact h
  | script | setReply | isRunning | assignProperty | follow =>
    simp only [Session.carryOut, changeScript, setReply, assignProperty, follow]
    split <;> exact h
  | bind id key kind default fallsBack =>
    simp only [Session.carryOut, bind]
    split
    · exact h
    · split <;> exact h
  | unwatch id =>
    simp only [Session.carryOut, unwatch]
    split <;> exact h
  | watch id settings =>
    simp only [Session.carryOut, watch, unwatch]
    split
    · exact h
    · split
      · exact h
      · split <;> exact h
  | _ => exact h

theorem HasReached.beginRefresh {s : Session} (h : s.HasReached) (x : Refresher) :
    (s.beginRefresh x).2.HasReached := by
  cases x with
  | scheduler n =>
    simp only [Session.beginRefresh]
    split
    · exact h
    · split
      · exact h.changeScheduler (fun hx => hx.begin) n
      · exact h
  | watch n =>
    simp only [Session.beginRefresh]
    split
    · exact h
    · split <;> exact h

theorem HasReached.endRefresh {s : Session} (h : s.HasReached) (x : Refresher) :
    (s.endRefresh x).HasReached := by
  cases x with
  | scheduler n => exact h.changeScheduler (fun hx => hx.finish) n
  | watch n => exact h

theorem HasReached.take {s s' : Session} {a : Action} {answer : a.Answer} (h : s.HasReached)
    (htake : s.take a = some (answer, s')) : s'.HasReached := by
  cases a with
  | deed d =>
    have hreached := h.carryOut d
    rwa [Option.some.inj htake] at hreached
  | beginRefresh x =>
    have hreached := h.beginRefresh x
    rwa [Option.some.inj htake] at hreached
  | endRefresh x =>
    cases htake
    exact h.endRefresh x
  | keep =>
    cases htake
    exact h
  | _ => exact h.of_eq (sameHoldings_take rfl htake).schedulers

/-- Whatever is done in a session, in any order, schedulers do no more than steps. -/
theorem HasReached.run {m m' : Machine Unit} {ms : List Machine.Moment}
    (h : m.session.HasReached) (hrun : m.Run ms m') : m'.session.HasReached := by
  induction hrun with
  | start => exact h
  | step _ hpend hadv ih =>
    obtain ⟨a, answer, next, s', -, -, htake, rfl⟩ | ⟨script, next, -, -, rfl⟩ :=
      Machine.advance_cases hpend hadv
    · exact ih.take htake
    · exact ih

end Strata.Session

namespace Strata.Scheduler

/-- What is true of a scheduler that comes from a new one by steps. When no call is in progress, the
workers outside the slot are those that have been told to stop. The scheduler is running if there is
a worker in the slot, which then is there and has not been told to stop. To start with an empty
interval changes nothing, and is refused. If a call to stop or to drop takes a worker from the slot
and is not made on its thread, then the worker has exited when the call has returned, and begins no
refresh after that. -/
theorem workers_of_steps (h : steps {} es = some s) :
    (s.isQuiet = true → ∀ w worker, s.workers[w]? = some worker → s.slot ≠ some w →
      worker.isTold = true) ∧
    (s.isRunning = true ↔ ∃ w, s.slot = some w) ∧
    (∀ w, s.slot = some w → ∃ worker, s.workers[w]? = some worker ∧ worker.isTold = false) ∧
    (∀ interval, interval.isZero = true →
      (∀ caller, s.canCall caller = true → s.step (.start caller interval) = some s) ∧
      ∀ (session : Session) (id text : String), Timespan.parse text = .ok interval →
        (session.scheduler? id).isSome = true →
        session.startScheduler id text = (.failure (.config .zeroInterval), session)) ∧
    ∀ e caller w s₁ es₁ s₂ es₂ s₃ es₃ s₄, (e = .stop caller ∨ e = .drop caller) →
      s.step e = some s₁ → .move s.calls.length ∉ es₁ → s₁.steps es₁ = some s₂ →
      s₂.slot = some w → caller ≠ some w →
      s₂.steps (.move s.calls.length :: es₂) = some s₃ → s₃.hasReturned s.calls.length = true →
      s₃.steps es₃ = some s₄ → s₄.phase? w = some .exited ∧ s₄.step (.begin w) = none := by
  have hplaced := isPlaced_steps h
  refine ⟨fun hquiet w worker => hplaced.of_isQuiet hquiet, Option.isSome_iff_exists,
    fun w => hplaced.of_slot, fun interval hzero => ⟨fun caller hcaller => ?_, ?_⟩, ?_⟩
  · simp [step, hcaller, hzero]
  · intro session id text htext hknown
    obtain ⟨x, hx⟩ := Option.isSome_iff_exists.1 hknown
    simp [Session.startScheduler, hx, htext, Session.withInterval, hzero]
  · intro e caller w s₁ es₁ s₂ es₂ s₃ es₃ s₄ he hmade hes₁ hbefore hslot hcaller hafter hreturned
      hlater
    have hcall := call_steps rfl (call_of_stop he hmade) hes₁ hbefore
    obtain ⟨s₂', htake, hsteps⟩ := Option.bind_eq_some_iff.1 hafter
    have hexited := steps_induction (P := fun s => s.phase? w = some .exited) exited_step
      (exited_of_hasReturned hcall hslot hcaller htake hsteps hreturned) hlater
    exact ⟨hexited, by simp [step, hexited]⟩

/-- Two calls to start, each of which spawns a worker before either places its own. The first worker
is told to stop by the second call, which waits for its end. -/
def concurrentStarts : List Step :=
  [.start none (.ofSecs 1), .start none (.ofSecs 2), .move 0, .move 1, .move 0, .move 1, .move 0,
    .move 1, .move 1, .quit 0, .move 1]

/-- The moves of a call to stop the second worker, which refreshes and goes on to another refresh
although it has been told to stop. -/
def stopAmidRefresh : List Step :=
  [.move 2, .finish 1, .move 2, .begin 1, .finish 1, .quit 1, .move 2]

/-- Of two workers that are spawned at once one is left, and it has exited when a call to stop that
begins during its refresh has returned. -/
theorem exited_of_concurrentStarts : ∃ s s₁ s₂ s₃ s₄,
    steps {} concurrentStarts = some s ∧ s.isQuiet = true ∧ s.slot = some 1 ∧
    (∃ worker, s.workers[0]? = some worker ∧ worker.isTold = true) ∧
    s.step (.start none (.ofSecs 0)) = some s ∧
    s.step (.stop none) = some s₁ ∧ s₁.steps [.begin 1] = some s₂ ∧ s₂.slot = some 1 ∧
    s₂.steps stopAmidRefresh = some s₃ ∧ s₃.hasReturned 2 = true ∧
    s₃.steps [.start none (.ofSecs 3)] = some s₄ ∧
    s₄.phase? 1 = some .exited ∧ s₄.step (.begin 1) = none := by
  have h : steps {} concurrentStarts = some _ := rfl
  obtain ⟨htold, -, -, hzero, hstop⟩ := workers_of_steps h
  have hexited := hstop (.stop none) none 1 _ [.begin 1] _ stopAmidRefresh.tail _
    [.start none (.ofSecs 3)] _ (.inl rfl) rfl (by decide) rfl rfl (by decide) rfl rfl rfl
  exact ⟨_, _, _, _, _, h, rfl, rfl, ⟨_, rfl, htold rfl 0 _ rfl (by decide)⟩,
    (hzero (.ofSecs 0) rfl).1 none rfl, rfl, rfl, rfl, rfl, rfl, rfl, hexited⟩

end Strata.Scheduler
