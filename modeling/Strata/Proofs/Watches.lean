import Strata.Proofs.Threads

/-!
Watches on files. Once a message has come that concerns the file, it is in the queue or the thread
is debouncing, whatever happens, until a refresh begins (`Owes.step`). So nothing that the thread
throws away is lost: when it waits again and the queue is empty, a refresh has begun after the
arrival of every such message, and after the change that the message tells of. And the thread does
get there by steps of its own (`exists_steps_untilRefresh`). The watches of a session do nothing but
steps, so a refresh follows on each change of a watched file there as well
(`exists_beginRefresh_of_change`). Main statement: `refreshed_of_steps`.
-/

namespace Strata.FileWatch

variable {w w' : FileWatch} {e : Step} {es before after : List Step} {m : WatchMessage}
  {later : List WatchMessage}

/-! ### Steps -/

/-- The message that a step sets under way or lets arrive. -/
def Step.message? : Step → Option WatchMessage
  | .change m | .arrive m => some m
  | _ => none

/-- The message that a step sets under way. -/
def Step.change? : Step → Option WatchMessage
  | .change m => some m
  | _ => none

/-- The messages that steps set under way. -/
def changes (es : List Step) : List WatchMessage := es.filterMap Step.change?

theorem changes_append (es es' : List Step) : changes (es ++ es') = changes es ++ changes es' :=
  List.filterMap_append

theorem changes_of_message? (h : e.message? = none) : changes [e] = [] := by
  cases e <;> first | rfl | cases h

/-- What a step does: a message is set under way, arrives, is received or is thrown away; or
messages stay where they are, and the thread does not begin or end to debounce except to refresh. -/
inductive Does (w : FileWatch) : Step → FileWatch → Prop where
  | change {m : WatchMessage} : Does w (.change m) { w with underway := w.underway ++ [m] }
  | arrive {m : WatchMessage} {rest : List WatchMessage} : w.underway = m :: rest →
    Does w (.arrive m) { w with underway := rest, queue := w.queue ++ [m] }
  | receive {m : WatchMessage} {rest : List WatchMessage} : w.phase = .waiting →
    w.queue = m :: rest → Does w .receive { w with queue := rest, phase := w.reaction m }
  | discard {m : WatchMessage} {rest : List WatchMessage} : w.phase = .draining →
    w.queue = m :: rest → Does w .drain { w with queue := rest }
  | enter {e : Step} {phase : WatchPhase} {isTold isClosed : Bool} : e.message? = none →
    (e ≠ .begin → phase.isDebouncing = w.phase.isDebouncing) →
    Does w e { w with phase := phase, isTold := isTold, isClosed := isClosed }

theorem does_of_step (h : w.step e = some w') : Does w e w' := by
  cases e with
  | change m =>
    cases h
    exact .change
  | arrive m =>
    simp only [step] at h
    split at h
    · rename_i next rest hunderway
      split at h
      · cases h
      · rename_i hnext
        obtain rfl : next = m := by simp_all
        cases h
        exact .arrive hunderway
    · cases h
  | receive =>
    simp only [step] at h
    split at h
    · cases h
      exact .receive ‹_› ‹_›
    · cases h
  | drain =>
    simp only [step] at h
    split at h
    · cases h
    · rename_i hphase
      have hphase : w.phase = .draining := not_not.1 hphase
      split at h <;> cases h
      · exact .discard hphase ‹_›
      · exact .enter rfl fun _ => by rw [hphase]; rfl
  | tell | close =>
    cases h
    exact .enter rfl fun _ => rfl
  | report =>
    simp only [step] at h
    split at h
    · rename_i hphase
      cases h
      exact .enter rfl fun _ => by rw [hphase]; rfl
    · cases h
  | begin =>
    simp only [step] at h
    split at h <;> cases h
    exact .enter rfl fun hne => absurd rfl hne
  | wake | finish =>
    simp only [step] at h
    split at h <;> cases h
    rename_i hphase
    exact .enter rfl fun _ => by rw [hphase]; rfl
  | quit =>
    simp only [step] at h
    split at h <;> cases h
    rename_i hquit
    have hphase : w.phase = .waiting := by simp_all
    exact .enter rfl fun _ => by rw [hphase]; rfl

theorem name_step (h : w.step e = some w') : w'.name = w.name := by
  cases does_of_step h <;> rfl

theorem name_steps : ∀ {es : List Step} {w : FileWatch}, w.steps es = some w' → w'.name = w.name
  | [], _, h => by cases h; rfl
  | _ :: _, _, h => by
    obtain ⟨w₁, hfirst, h⟩ := Option.bind_eq_some_iff.1 h
    exact (name_steps h).trans (name_step hfirst)

theorem steps_append (es es' : List Step) :
    w.steps (es ++ es') = (w.steps es).bind fun w => w.steps es' := by
  induction es generalizing w with
  | nil => rfl
  | cons e es ih => cases h : w.step e <;> simp [steps, h, ih]

theorem steps_cons {w₁ : FileWatch} (h : w.step e = some w₁) : w.steps (e :: es) = w₁.steps es := by
  rw [steps, h, Option.bind_some]

/-- A step in the midst of others. -/
theorem exists_of_steps (h : w.steps (before ++ e :: after) = some w') :
    ∃ w₁ w₂, w.steps before = some w₁ ∧ w₁.step e = some w₂ ∧ w₂.steps after = some w' := by
  rw [steps_append] at h
  obtain ⟨w₁, hbefore, h⟩ := Option.bind_eq_some_iff.1 h
  obtain ⟨w₂, hstep, hafter⟩ := Option.bind_eq_some_iff.1 h
  exact ⟨w₁, w₂, hbefore, hstep, hafter⟩

/-! ### What the thread owes -/

/-- Whether the thread owes a refresh for a message that has come. -/
def Owes (w : FileWatch) (m : WatchMessage) : Prop :=
  m.concerns w.name = true ∧ (w.phase.isDebouncing = true ∨ m ∈ w.queue)

theorem not_owes (hphase : w.phase = .waiting) (hqueue : w.queue = []) : ¬ w.Owes m := by
  simp [Owes, hphase, hqueue, WatchPhase.isDebouncing]

/-- Once it debounces, the thread does nothing else before it refreshes. -/
theorem isDebouncing_step (h : w.phase.isDebouncing = true) (he : e ≠ .begin)
    (hstep : w.step e = some w') : w'.phase.isDebouncing = true := by
  cases does_of_step hstep with
  | change | arrive | discard => exact h
  | receive hphase =>
    rw [hphase] at h
    cases h
  | enter _ hsame => exact (hsame he).trans h

/-- A message that concerns the file stays in the queue until the thread debounces. -/
theorem Owes.step (h : w.Owes m) (he : e ≠ .begin) (hstep : w.step e = some w') :
    w'.Owes m := by
  obtain ⟨hm, hphase | hmem⟩ := h <;> refine ⟨name_step hstep ▸ hm, ?_⟩
  · exact .inl (isDebouncing_step hphase he hstep)
  · cases does_of_step hstep with
    | change | enter => exact .inr hmem
    | arrive => exact .inr (List.mem_append_left _ hmem)
    | discard hphase =>
      left
      simp only [hphase, WatchPhase.isDebouncing]
    | @receive next rest hphase hqueue =>
      rw [hqueue] at hmem
      rcases List.mem_cons.1 hmem with rfl | hrest
      · -- The message itself is received, and it concerns the file.
        left
        cases m with
        | event => simp [reaction, hm, WatchPhase.isDebouncing]
        | failure => cases hm
      · exact .inr hrest

theorem owes_arrive (hm : m.concerns w.name = true) (h : w.step (.arrive m) = some w') :
    w'.Owes m := by
  refine ⟨name_step h ▸ hm, .inr ?_⟩
  cases does_of_step h with
  | arrive => exact List.mem_concat_self
  | enter hmessage => cases hmessage

/-- What steps keep as long as no refresh begins. -/
theorem steps_induction {P : FileWatch → Prop}
    (hstep : ∀ {w e w'}, P w → e ≠ .begin → w.step e = some w' → P w') :
    ∀ {es : List Step} {w : FileWatch}, P w → .begin ∉ es → w.steps es = some w' → P w'
  | [], _, hw, _, h => Option.some.inj h ▸ hw
  | e :: es, _, hw, hes, h => by
    obtain ⟨w₁, hfirst, h⟩ := Option.bind_eq_some_iff.1 h
    obtain ⟨he, hes⟩ : .begin ≠ e ∧ .begin ∉ es := by simpa using hes
    exact steps_induction hstep (hstep hw (Ne.symm he) hfirst) hes h

/-- A refresh is owed for a message that has arrived if none has begun since. -/
theorem owes_of_arrive (h : w.steps (before ++ .arrive m :: after) = some w')
    (hm : m.concerns w.name = true) (hafter : .begin ∉ after) : w'.Owes m := by
  obtain ⟨w₁, w₂, hbefore, harrive, h⟩ := exists_of_steps h
  have howed : w₂.Owes m := owes_arrive (name_steps hbefore ▸ hm) harrive
  exact steps_induction Owes.step howed hafter h

/-- The thread debounces from the moment at which it throws something away until a refresh
begins. -/
theorem isDebouncing_of_drain (h : w.steps (before ++ .drain :: after) = some w')
    (hafter : .begin ∉ after) : w'.phase.isDebouncing = true := by
  obtain ⟨w₁, w₂, -, hdrain, h⟩ := exists_of_steps h
  have hphase : w₁.phase.isDebouncing = true := by
    simp only [step] at hdrain
    split at hdrain
    · cases hdrain
    · simp_all [WatchPhase.isDebouncing]
  exact steps_induction (P := fun w => w.phase.isDebouncing = true) isDebouncing_step
    (isDebouncing_step hphase (by decide) hdrain) hafter h

/-! ### Messages under way -/

/-- Whether a message is under way, with those of later changes behind it, or the thread owes a
refresh for it. -/
def Expects (w : FileWatch) (m : WatchMessage) (later : List WatchMessage) : Prop :=
  (m.concerns w.name = true ∧ ∃ earlier, w.underway = earlier ++ m :: later) ∨ w.Owes m

theorem expects_change (hm : m.concerns w.name = true) (h : w.step (.change m) = some w') :
    w'.Expects m [] := by
  cases h
  exact .inl ⟨hm, w.underway, rfl⟩

/-- Messages arrive in the order of the changes, so the message of a change comes before those of
later changes. -/
theorem Expects.step (h : w.Expects m later) (he : e ≠ .begin) (hstep : w.step e = some w') :
    w'.Expects m (later ++ changes [e]) := by
  rcases h with ⟨hm, earlier, hunderway⟩ | howed
  · have hname : m.concerns w'.name = true := name_step hstep ▸ hm
    cases does_of_step hstep with
    | change => exact .inl ⟨hname, earlier, by simp [hunderway, changes, Step.change?]⟩
    | @arrive next rest hnext =>
      rw [hunderway] at hnext
      cases earlier with
      | nil =>
        obtain ⟨rfl, rfl⟩ := List.cons.inj hnext
        exact .inr ⟨hname, .inr List.mem_concat_self⟩
      | cons first earlier =>
        obtain ⟨rfl, rfl⟩ := List.cons.inj hnext
        exact .inl ⟨hname, earlier, by simp [changes, Step.change?]⟩
    | receive | discard => exact .inl ⟨hname, earlier, by simp [hunderway, changes, Step.change?]⟩
    | enter hmessage =>
      exact .inl ⟨hname, earlier, by simp [hunderway, changes_of_message? hmessage]⟩
  · exact .inr (howed.step he hstep)

theorem Expects.steps : ∀ {es : List Step} {w : FileWatch} {later : List WatchMessage},
    w.Expects m later → .begin ∉ es → w.steps es = some w' → w'.Expects m (later ++ changes es)
  | [], _, later, hw, _, h => by
    cases h
    rwa [changes, List.filterMap_nil, List.append_nil]
  | e :: es, _, later, hw, hes, h => by
    obtain ⟨w₁, hfirst, h⟩ := Option.bind_eq_some_iff.1 h
    obtain ⟨he, hes⟩ : .begin ≠ e ∧ .begin ∉ es := by simpa using hes
    rw [← List.singleton_append, changes_append, ← List.append_assoc]
    exact Expects.steps (hw.step (Ne.symm he) hfirst) hes h

/-- A refresh is owed for a change if none has begun since and all that is under way is about later
changes. -/
theorem owes_of_change (h : w.steps (before ++ .change m :: after) = some w')
    (hm : m.concerns w.name = true) (hunderway : w'.underway <:+ changes after)
    (hafter : .begin ∉ after) : w'.Owes m := by
  obtain ⟨w₁, w₂, hbefore, hchange, h⟩ := exists_of_steps h
  have hexpects : w₂.Expects m [] := expects_change (name_steps hbefore ▸ hm) hchange
  rcases hexpects.steps hafter h with ⟨-, earlier, hlist⟩ | howed
  · -- The message would be under way in front of those of all later changes.
    have hlength := hunderway.length_le
    simp only [hlist, List.nil_append, List.length_append, List.length_cons] at hlength
    omega
  · exact howed

/-! ### The thread on its own -/

/-- Whether a step is one of the thread on its way to the next refresh. -/
def Step.isOwn : Step → Bool
  | .receive | .report | .wake | .drain | .begin | .finish => true
  | .change _ | .arrive _ | .tell | .close | .quit => false

theorem all_untilEmpty (queue : List WatchMessage) : (untilEmpty queue).all Step.isOwn = true := by
  simp [untilEmpty, Step.isOwn]

theorem all_untilReceived (name : String) (queue : List WatchMessage) :
    (untilReceived name queue).all Step.isOwn = true := by
  fun_induction untilReceived name queue with
  | case1 => rfl
  | case2 => exact all_untilEmpty _
  | case3 _ _ _ _ ih => exact ih
  | case4 _ _ ih => exact ih

theorem all_untilRefresh (w : FileWatch) : w.untilRefresh.all Step.isOwn = true := by
  rw [untilRefresh]
  split
  · exact all_untilReceived _ _
  · exact all_untilReceived _ _
  · exact all_untilEmpty _
  · exact all_untilEmpty _
  · rfl
  · exact all_untilReceived _ _
  · rfl

/-- The thread throws away all that is in the queue. -/
theorem steps_untilEmpty (w : FileWatch) : ∀ queue : List WatchMessage,
    { w with queue := queue, phase := .draining }.steps (untilEmpty queue) =
      some { w with queue := [], phase := .refreshing }
  | [] => rfl
  | _ :: rest => (steps_cons rfl).trans (w.steps_untilEmpty rest)

theorem step_receive (w : FileWatch) (m : WatchMessage) (rest : List WatchMessage) :
    { w with queue := m :: rest, phase := .waiting }.step .receive =
      some { w with queue := rest, phase := w.reaction m } := rfl

/-- The thread receives what is in the queue up to the first message that concerns the file. -/
theorem steps_untilReceived (w : FileWatch) : ∀ queue : List WatchMessage,
    (∃ m ∈ queue, m.concerns w.name = true) →
    { w with queue := queue, phase := .waiting }.steps (untilReceived w.name queue) =
      some { w with queue := [], phase := .refreshing }
  | [], h => by simp at h
  | .event kind paths :: rest, h => by
    rw [untilReceived]
    split
    case isTrue hm =>
      have hreaction : w.reaction (.event kind paths) = .sleeping := by simp [reaction, hm]
      rw [steps_cons (w.step_receive _ rest), hreaction, steps_cons rfl]
      exact w.steps_untilEmpty rest
    case isFalse hm =>
      have hreaction : w.reaction (.event kind paths) = .waiting := by simp [reaction, hm]
      rw [steps_cons (w.step_receive _ rest), hreaction]
      exact w.steps_untilReceived rest (by simpa [hm] using h)
  | .failure _ :: rest, h => by
    rw [untilReceived, steps_cons rfl, steps_cons rfl]
    exact w.steps_untilReceived rest (by simpa [WatchMessage.concerns] using h)

/-- The thread gets to the refresh that it owes by steps of its own, unless it has exited. -/
theorem exists_steps_untilRefresh (h : w.Owes m) (hphase : w.phase ≠ .exited) :
    ∃ w', w.steps w.untilRefresh = some w' ∧ w'.phase = .refreshing := by
  obtain ⟨hm, hplace⟩ := h
  have hqueue (hphase : w.phase.isDebouncing = false) : ∃ m ∈ w.queue, m.concerns w.name = true :=
    ⟨m, by simpa [hphase] using hplace, hm⟩
  obtain ⟨path, name, underway, queue, phase, isTold, isClosed⟩ := w
  cases phase with
  | waiting => exact ⟨_, steps_untilReceived _ queue (hqueue rfl), rfl⟩
  | reporting => exact ⟨_, (steps_cons rfl).trans (steps_untilReceived _ queue (hqueue rfl)), rfl⟩
  | sleeping => exact ⟨_, (steps_cons rfl).trans (steps_untilEmpty _ queue), rfl⟩
  | draining =>
    exact ⟨_, steps_untilEmpty ⟨path, name, underway, [], .draining, isTold, isClosed⟩ queue, rfl⟩
  | ready => exact ⟨_, steps_cons rfl, rfl⟩
  | refreshing => exact ⟨_, (steps_cons rfl).trans (steps_untilReceived _ queue (hqueue rfl)), rfl⟩
  | exited => exact absurd rfl hphase

/-- A watch that is due does begin to refresh. -/
theorem phase_begin (h : w.isDue = true) : w.begin.phase = .refreshing := by
  obtain ⟨hphase, m, hmem, hm⟩ : w.phase = .waiting ∧ ∃ m ∈ w.queue, m.concerns w.name = true := by
    simpa [isDue] using h
  obtain ⟨w', hsteps, hrefreshing⟩ :=
    exists_steps_untilRefresh ⟨hm, .inr hmem⟩ (by simp [hphase])
  rw [begin, hsteps]
  exact hrefreshing

/-! ### Going on without a refresh -/

/-- Whether a watch comes from another by steps among which no refresh begins. -/
def GoesOn (w w' : FileWatch) : Prop := ∃ es, .begin ∉ es ∧ w.steps es = some w'

theorem GoesOn.refl (w : FileWatch) : w.GoesOn w := ⟨[], List.not_mem_nil, rfl⟩

theorem GoesOn.trans {w'' : FileWatch} (h : w.GoesOn w') (h' : w'.GoesOn w'') : w.GoesOn w'' := by
  obtain ⟨es, hes, hsteps⟩ := h
  obtain ⟨es', hes', hsteps'⟩ := h'
  refine ⟨es ++ es', by simp [hes, hes'], ?_⟩
  rw [steps_append, hsteps, Option.bind_some, hsteps']

theorem GoesOn.owes (h : w.GoesOn w') (howed : w.Owes m) : w'.Owes m := by
  obtain ⟨es, hes, hsteps⟩ := h
  exact steps_induction Owes.step howed hes hsteps

theorem goesOn_getD_steps (w : FileWatch) (hes : .begin ∉ es) : w.GoesOn ((w.steps es).getD w) := by
  cases hsteps : w.steps es with
  | none => exact .refl w
  | some w' => exact ⟨es, hes, hsteps⟩

theorem goesOn_getD_step (w : FileWatch) (he : e ≠ .begin) : w.GoesOn ((w.step e).getD w) := by
  have hsteps : w.steps [e] = w.step e := Option.bind_fun_some _
  exact hsteps ▸ w.goesOn_getD_steps (by simpa using he.symm)

theorem goesOn_announce (w : FileWatch) (m : WatchMessage) : w.GoesOn (w.announce m) :=
  w.goesOn_getD_steps (by simp)

theorem goesOn_stop (w : FileWatch) : w.GoesOn w.stop :=
  (w.goesOn_getD_step (by decide)).trans (goesOn_getD_step _ (by decide))

theorem goesOn_finish (w : FileWatch) : w.GoesOn w.finish :=
  (w.goesOn_getD_step (by decide)).trans (goesOn_getD_step _ (by decide))

/-- Messages arrive as long as the host does not give up. -/
theorem steps_arrive : ∀ (underway : List WatchMessage) (w : FileWatch), w.isClosed = false →
    { w with underway := underway }.steps (underway.map .arrive) =
      some { w with underway := [], queue := w.queue ++ underway }
  | [], w, _ => by simp [steps]
  | m :: rest, w, h => by
    have harrive : { w with underway := m :: rest }.step (.arrive m) =
        some { w with underway := rest, queue := w.queue ++ [m] } := by simp [step, h]
    rw [List.map_cons, steps_cons harrive]
    simpa using steps_arrive rest { w with queue := w.queue ++ [m] } h

theorem owes_announce (hm : m.concerns w.name = true) (h : w.isClosed = false) :
    (w.announce m).Owes m := by
  rw [announce, steps_cons rfl, steps_arrive _ w h]
  exact ⟨hm, .inr (by simp)⟩

end Strata.FileWatch

/-! ### Sessions -/

namespace Strata

/-- The path at which a deed changes something, and what a message says about it. -/
def Deed.fileChange? {γ : Type} : Deed γ → Option (String × WatchEventKind)
  | .write path _ | .replace path _ => some (path, .modify)
  | .delete path => some (path, .remove)
  | .makeDirectory path => some (path, .create)
  | _ => none

namespace Session

open Machine

variable {n : Nat} {s s' s'' : Session}

/-- Whether a watch of one session goes on in another without a refresh. -/
def WatchGoesOn (n : Nat) (s s' : Session) : Prop :=
  ∀ x, s.watches[n]? = some x → ∃ x', s'.watches[n]? = some x' ∧ x.watch.GoesOn x'.watch

theorem watchGoesOn_of_watches (h : s'.watches = s.watches) : WatchGoesOn n s s' :=
  fun x hx => ⟨x, h ▸ hx, .refl _⟩

theorem WatchGoesOn.trans (h : WatchGoesOn n s s') (h' : WatchGoesOn n s' s'') :
    WatchGoesOn n s s'' := by
  intro x hx
  obtain ⟨x₁, hx₁, hgoes⟩ := h x hx
  obtain ⟨x₂, hx₂, hgoes'⟩ := h' x₁ hx₁
  exact ⟨x₂, hx₂, hgoes.trans hgoes'⟩

theorem watchGoesOn_modify {f : FileWatch → FileWatch} (hf : ∀ w : FileWatch, w.GoesOn (f w))
    (k : Nat) :
    WatchGoesOn n s
      { s with watches := s.watches.modify k fun x => { x with watch := f x.watch } } := by
  intro x hx
  refine ⟨_, by rw [List.getElem?_modify, hx, Option.map_eq_map, Option.map_some], ?_⟩
  split
  · exact hf x.watch
  · exact .refl _

theorem watchGoesOn_touch (s : Session) (path : String) (kind : WatchEventKind) :
    WatchGoesOn n s (s.touch path kind) := by
  intro x hx
  refine ⟨_, by rw [touch, List.getElem?_map, hx, Option.map_some], ?_⟩
  split
  · exact x.watch.goesOn_announce _
  · exact .refl _

theorem watchGoesOn_unwatch (s : Session) (id : String) : WatchGoesOn n s (s.unwatch id) := by
  rw [unwatch]
  split
  · exact watchGoesOn_of_watches rfl
  · exact watchGoesOn_modify FileWatch.goesOn_stop _

theorem watchGoesOn_watch (s : Session) (id : String) (settings : Document) :
    WatchGoesOn n s (s.watch id settings).2 := by
  rw [watch]
  split
  · exact watchGoesOn_of_watches rfl
  · split
    · exact watchGoesOn_of_watches rfl
    · refine (s.watchGoesOn_unwatch id).trans fun x hx => ⟨x, ?_, .refl _⟩
      exact (List.getElem?_append_left (List.getElem?_eq_some_iff.1 hx).1).trans hx

theorem watches_addScheduler (s : Session) (id : String) (x : Scheduler) :
    (s.addScheduler id x).watches = s.watches := by
  simp only [addScheduler, withScheduler]
  split <;> rfl

theorem watchGoesOn_carryOut (s : Session) (d : Deed Command) :
    WatchGoesOn n s (s.carryOut d).2 := by
  cases d with
  | write path | replace path | delete path | makeDirectory path =>
    exact watchGoesOn_touch _ path _
  | unwatch id => exact s.watchGoesOn_unwatch id
  | watch id settings => exact s.watchGoesOn_watch id settings
  | newScheduler id => exact watchGoesOn_of_watches (s.watches_addScheduler id _)
  | schedule id settings =>
    refine watchGoesOn_of_watches ?_
    simp only [carryOut, schedule, withInterval]
    split
    · rfl
    · split
      · rfl
      · exact s.watches_addScheduler id _
  | startScheduler id interval =>
    refine watchGoesOn_of_watches ?_
    simp only [carryOut, startScheduler, withInterval]
    repeat' split
    all_goals rfl
  | put | remove | extend | script | setReply | isRunning | assignProperty | follow | stopScheduler
  | dropScheduler | bind =>
    refine watchGoesOn_of_watches ?_
    simp only [carryOut, changeMap, changeScript, setReply, assignProperty, follow, withScheduler,
      Session.bind]
    repeat' split
    all_goals rfl
  | _ => exact watchGoesOn_of_watches rfl

/-- Whether a session can begin to refresh the registry of a watch. -/
def CanRefresh (n : Nat) (s : Session) : Prop :=
  ∃ x, (s.beginRefresh (.watch n)).2.watches[n]? = some x ∧ x.watch.phase = .refreshing ∧
    (s.beginRefresh (.watch n)).1 = some x.registry

theorem watchGoesOn_beginRefresh (h : ¬ s.CanRefresh n) :
    WatchGoesOn n s (s.beginRefresh (.watch n)).2 := by
  refine watchGoesOn_of_watches ?_
  by_cases hdue : ∃ x, s.watches[n]? = some x ∧ x.watch.isDue = true
  · obtain ⟨x, hx, hdue⟩ := hdue
    refine absurd ⟨{ x with watch := x.watch.begin }, ?_, FileWatch.phase_begin hdue, ?_⟩ h <;>
      simp [beginRefresh, hx, hdue]
  · simp only [beginRefresh]
    split
    · rfl
    · split
      · exact absurd ⟨_, ‹_›, ‹_›⟩ hdue
      · rfl

/-- A watch refreshes only where the session begins to refresh its registry. -/
theorem watchGoesOn_take {a : Action} {answer : a.Answer}
    (ha : a = .beginRefresh (.watch n) → ¬ s.CanRefresh n)
    (h : s.take a = some (answer, s')) : WatchGoesOn n s s' := by
  cases a with
  | deed d =>
    have hgoes := s.watchGoesOn_carryOut (n := n) d
    rwa [Option.some.inj h] at hgoes
  | endRefresh x =>
    cases h
    cases x with
    | scheduler k => exact watchGoesOn_of_watches rfl
    | watch k => exact watchGoesOn_modify FileWatch.goesOn_finish k
  | beginRefresh x =>
    cases x with
    | scheduler k =>
      simp only [take, Option.some.injEq, beginRefresh] at h
      refine watchGoesOn_of_watches ?_
      split at h
      · cases h
        rfl
      · split at h <;> cases h <;> rfl
    | watch k =>
      obtain rfl | hk := eq_or_ne k n
      · have hgoes := watchGoesOn_beginRefresh (ha rfl)
        rwa [Option.some.inj h] at hgoes
      · simp only [take, Option.some.injEq, beginRefresh] at h
        split at h
        · cases h
          exact watchGoesOn_of_watches rfl
        · split at h <;> cases h
          · exact fun x hx => ⟨x, (List.getElem?_modify_ne _ _ hk).trans hx, .refl _⟩
          · exact watchGoesOn_of_watches rfl
  | keep =>
    cases h
    exact watchGoesOn_of_watches rfl
  | _ => exact watchGoesOn_of_watches (sameHoldings_take rfl h).watches

theorem watchGoesOn_run {m m' : Machine Unit} {ms : List Moment} (h : m.Run ms m')
    (hms : ∀ e ∈ ms, e.step = .act (.beginRefresh (.watch n)) → ¬ e.session.CanRefresh n) :
    WatchGoesOn n m.session m'.session := by
  induction h with
  | start => exact watchGoesOn_of_watches rfl
  | step _ hpend hadv ih =>
    refine (ih fun e he => hms e (List.mem_cons_of_mem _ he)).trans ?_
    obtain ⟨a, answer, next, s', -, rfl, htake, rfl⟩ | ⟨script, next, -, -, rfl⟩ :=
      Machine.advance_cases hpend hadv
    · exact watchGoesOn_take (fun ha => hms _ List.mem_cons_self (ha ▸ rfl)) htake
    · exact watchGoesOn_of_watches rfl

/-- A watch that waits with nothing in its queue has refreshed after every change of its file, in
whatever order tasks do what they do in the session. -/
theorem exists_beginRefresh_of_change {m m' : Machine Unit} {later earlier : List Moment} {i : Nat}
    {d : Deed Command} {path : String} {kind : WatchEventKind} {x x' : WatchedFile}
    (h : m.Run (later ++ ⟨i, .act (.deed d), s⟩ :: earlier) m')
    (hd : d.fileChange? = some (path, kind)) (hx : s.watches[n]? = some x)
    (hdirectory : x.directory = (Files.place path).dropLast)
    (hname : (WatchMessage.event kind ["/".intercalate (Files.place path)]).concerns x.watch.name =
      true)
    (hclosed : x.watch.isClosed = false) (hx' : m'.session.watches[n]? = some x')
    (hphase : x'.watch.phase = .waiting) (hqueue : x'.watch.queue = []) :
    ∃ e ∈ later, e.step = .act (.beginRefresh (.watch n)) ∧ e.session.CanRefresh n := by
  by_contra! hlater
  obtain ⟨m₁, hchange, hrun⟩ := h.split
  obtain ⟨m₀, -, rfl, hpend, hadv⟩ := hchange.moment
  have hsession : m₁.session = (m₀.session.carryOut d).2 := by
    obtain ⟨a, answer, next, s', -, ha, htake, rfl⟩ | ⟨script, next, -, hscript, -⟩ :=
      Machine.advance_cases hpend hadv
    · cases ha
      exact (congrArg Prod.snd (Option.some.inj htake)).symm
    · cases hscript
  have hwatches : m₁.session.watches = (m₀.session.touch path kind).watches := by
    rw [hsession]
    cases d <;> cases hd <;> rfl
  -- After the change the thread owes a refresh, and nothing but a refresh settles that.
  have hannounced : m₁.session.watches[n]? = some { x with
      watch := x.watch.announce (.event kind ["/".intercalate (Files.place path)]) } := by
    simp [hwatches, touch, hx, hdirectory]
  obtain ⟨x₁, hx₁, hgoes⟩ := watchGoesOn_run hrun hlater _ hannounced
  obtain rfl : x₁ = x' := Option.some.inj (hx₁.symm.trans hx')
  exact FileWatch.not_owes hphase hqueue (hgoes.owes (FileWatch.owes_announce hname hclosed))

end Session

end Strata

namespace Strata.FileWatch

variable {w : FileWatch} {es : List Step}

/-- What is true of a watch whatever messages come and whenever they come. When it waits with
nothing in its queue, a refresh has begun after the arrival of every message that concerns the file,
and after every change of the file but those whose messages are still under way, which come in
order. When it has thrown something away, a refresh has begun after that before it does anything
else. And as long as a refresh is missing, the thread gets to it by steps of its own. It makes no
difference whether the watch has been told to stop, as long as it has not exited. -/
theorem refreshed_of_steps {path name : String}
    (h : steps { path := path, name := name } es = some w) :
    (w.phase = .waiting → w.queue = [] →
      (∀ before m after, es = before ++ .arrive m :: after → m.concerns name = true →
        .begin ∈ after) ∧
      ∀ before m after, es = before ++ .change m :: after → m.concerns name = true →
        w.underway <:+ changes after → .begin ∈ after) ∧
    (w.phase.isDebouncing = false →
      ∀ before after, es = before ++ .drain :: after → .begin ∈ after) ∧
    ∀ before m after, es = before ++ .arrive m :: after → m.concerns name = true →
      .begin ∉ after → w.phase ≠ .exited →
      ∃ own w', own.all Step.isOwn = true ∧ w.steps own = some w' ∧ w'.phase = .refreshing := by
  refine ⟨fun hphase hqueue => ⟨?_, ?_⟩, ?_, ?_⟩
  · rintro before m after rfl hm
    by_contra hafter
    exact not_owes hphase hqueue (owes_of_arrive h hm hafter)
  · rintro before m after rfl hm hunderway
    by_contra hafter
    exact not_owes hphase hqueue (owes_of_change h hm hunderway hafter)
  · rintro hphase before after rfl
    by_contra hafter
    exact absurd (isDebouncing_of_drain h hafter) (by simp [hphase])
  · rintro before m after rfl hm hafter hphase
    obtain ⟨w', hsteps, hrefreshing⟩ :=
      exists_steps_untilRefresh (owes_of_arrive h hm hafter) hphase
    exact ⟨w.untilRefresh, w', w.all_untilRefresh, hsteps, hrefreshing⟩

/-- The file is written, and written again while the thread sleeps. When the thread has thrown that
away the file is removed, but the message arrives only after the refresh has begun. Another file is
made during that refresh. -/
def overlappingChanges : List Step :=
  let written := .event .modify ["d/a"]
  let removed := .event .remove ["d/a"]
  let made := .event .create ["d/b"]
  [.change written, .arrive written, .receive, .change written, .wake, .arrive written, .drain,
    .drain, .change removed, .begin, .arrive removed, .change made, .finish, .arrive made, .receive,
    .wake, .drain, .drain, .begin, .finish]

/-- A second refresh follows on the removal. The first comes about by the thread's own steps from
the moment at which it has slept. -/
theorem refreshed_of_overlappingChanges : ∃ w w₁,
    steps { path := "d/a", name := "a" } overlappingChanges = some w ∧ w.phase = .waiting ∧
    w.queue = [] ∧ (WatchMessage.event .remove ["d/a"]).concerns "a" = true ∧
    (∃ before after, overlappingChanges = before ++ .arrive (.event .remove ["d/a"]) :: after ∧
      .begin ∈ after) ∧
    (∃ before after, overlappingChanges = before ++ .change (.event .remove ["d/a"]) :: after ∧
      w.underway <:+ changes after ∧ .begin ∈ after) ∧
    (∃ before after, overlappingChanges = before ++ .drain :: after ∧ .begin ∈ after) ∧
    steps { path := "d/a", name := "a" } (overlappingChanges.take 5) = some w₁ ∧
    (WatchMessage.event .modify ["d/a"]).concerns "a" = true ∧
    (∃ before after, overlappingChanges.take 5 =
      before ++ .arrive (.event .modify ["d/a"]) :: after ∧ .begin ∉ after) ∧
    w₁.phase ≠ .exited ∧
    ∃ own w', own.all Step.isOwn = true ∧ w₁.steps own = some w' ∧ w'.phase = .refreshing := by
  have hlast : (steps { path := "d/a", name := "a" } overlappingChanges).map
      (fun w => (w.phase, w.queue, w.underway)) = some (.waiting, [], []) := by decide +kernel
  have hfirst : (steps { path := "d/a", name := "a" } (overlappingChanges.take 5)).map (·.phase) =
      some .draining := by decide +kernel
  obtain ⟨w, h, hw⟩ := Option.map_eq_some_iff.1 hlast
  obtain ⟨w₁, h₁, hw₁⟩ := Option.map_eq_some_iff.1 hfirst
  obtain ⟨hphase, hqueue, hunderway⟩ : w.phase = .waiting ∧ w.queue = [] ∧ w.underway = [] := by
    simpa using hw
  have hsuffix : w.underway <:+ changes (overlappingChanges.drop 9) := hunderway ▸ List.nil_suffix
  have hremoved : (WatchMessage.event .remove ["d/a"]).concerns "a" = true := by decide +kernel
  have hwritten : (WatchMessage.event .modify ["d/a"]).concerns "a" = true := by decide +kernel
  have hexited : w₁.phase ≠ .exited := by simp [hw₁]
  have hnone : .begin ∉ (overlappingChanges.take 5).drop 2 := by decide
  obtain ⟨hquiet, hdrained, -⟩ := refreshed_of_steps h
  obtain ⟨harrived, hchanged⟩ := hquiet hphase hqueue
  obtain ⟨-, -, hmissing⟩ := refreshed_of_steps h₁
  exact ⟨w, w₁, h, hphase, hqueue, hremoved,
    ⟨overlappingChanges.take 10, _, rfl,
      harrived (overlappingChanges.take 10) _ _ rfl hremoved⟩,
    ⟨overlappingChanges.take 8, _, rfl, hsuffix,
      hchanged (overlappingChanges.take 8) _ _ rfl hremoved hsuffix⟩,
    ⟨overlappingChanges.take 16, overlappingChanges.drop 17, rfl,
      hdrained (by rw [hphase]; rfl) (overlappingChanges.take 16) _ rfl⟩,
    h₁, hwritten, ⟨overlappingChanges.take 1, _, rfl, hnone⟩, hexited,
    hmissing (overlappingChanges.take 1) _ _ rfl hwritten hnone hexited⟩

end Strata.FileWatch
