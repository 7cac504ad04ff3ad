import Strata.Session.Perform

/-!
Properties of tasks that hold of a sequence if they hold of its parts. Commands are sequences of a
few parts: a property of these that passes to sequences is a property of all commands
(`Operations.task`, and `Parts.task` for those commands that have no part of their own). Where it
matters what handles a task knows, the property depends on them. Whether looking up a source
directly has the property matters only to the command that does so (`Errands.task`).
-/

namespace Strata

/-- A property of tasks that passes from the parts of a sequence to the sequence. -/
structure Sequential (P : ∀ α : Type, Task α → Prop) : Prop where
  done : ∀ {α : Type} (a : α), P α (.done a)
  bind : ∀ {α β : Type} {t : Task α} {f : α → Task β}, P α t → (∀ a, P β (f a)) → P β (t.bind f)

/-- Actions that have to do neither with the data of sources nor with what registries do with
them. -/
def Action.isPassive : Action → Bool
  | .registry _ .changeSeq | .current | .source _ | .describe _ | .observe .. | .binding _
  | .decode .. | .kept .. | .keep .. | .deed (.isRunning _) | .finished .. | .due
  | .beginRefresh _ | .endRefresh _ | .eventCount => true
  | _ => false

/-- Actions that have to do with handles. -/
def Action.isOfHandle : Action → Bool
  | .binding _ | .decode .. | .kept .. | .keep .. | .observe (.conversion _) _ => true
  | _ => false

/-- Actions that make something, or that are a command by themselves. -/
def Action.isOwn : Action → Bool
  | .deed _ | .build .. | .create _ | .addRegistry | .use _ => true
  | _ => false

/-- Whether a command is more than a sequence of the common parts. -/
def Command.isOwn : Command → Bool
  | .deed _ | .make .. | .snapshot _ | .register .. | .configure .. => true
  | _ => false

/-- A property of tasks that know certain handles. It passes to sequences, and the common parts of
commands have it, but for looking up a source directly; reading a handle has it if the handle is
known. -/
structure Course (P : List Binding → ∀ α : Type, Task α → Prop) : Prop where
  sequential : ∀ known, Sequential (P known)
  passive : ∀ {known} (a : Action), a.isPassive = true → a.isOfHandle = false → P known _ (act a)
  withBinding : ∀ {known} {id : String} {f : Binding → Task Outcome},
    (∀ b, P (b :: known) _ (f b)) → P known _ (Command.withBinding id f)
  read : ∀ {known} (r : RegistryId) (key : String), P known _ (r.read key)
  bindingRead : ∀ {known} (b : Binding), b ∈ known → P known _ b.read
  invalidate : ∀ {known} (r : RegistryId) (key : Option String),
    P known _ (ask r (.invalidate key))
  refresh : ∀ {known} (r : RegistryId), P known _ r.refresh

/-- A property of tasks that know certain handles. It passes to sequences, and the common parts of
commands have it. -/
structure Walk (P : List Binding → ∀ α : Type, Task α → Prop) : Prop extends Course P where
  lookUp : ∀ {known} (n : SourceId) (key : String), P known _ (lookUp n key)

/-- A property that passes to sequences and that the common parts of commands have, no matter what
handles are known. -/
structure Parts (P : ∀ α : Type, Task α → Prop) : Prop extends Sequential P where
  passive : ∀ a : Action, a.isPassive = true → P _ (act a)
  read : ∀ (r : RegistryId) (key : String), P _ (r.read key)
  lookUp : ∀ (n : SourceId) (key : String), P _ (lookUp n key)
  invalidate : ∀ (r : RegistryId) (key : Option String), P _ (ask r (.invalidate key))
  refresh : ∀ r : RegistryId, P _ r.refresh

/-- A property that passes to sequences and that all parts of commands have, but for looking up a
source directly. -/
structure Errands (P : List Binding → ∀ α : Type, Task α → Prop) : Prop extends Course P where
  own : ∀ {known} (a : Action), a.isOwn = true → P known _ (act a)
  takeSnapshot : ∀ {known} (n : SourceId), P known _ (takeSnapshot n)
  register : ∀ {known} (r : RegistryId) (n : SourceId) (priority : Int),
    P known _ (r.register n priority)

/-- A property that passes to sequences and that all parts of commands have. -/
structure Operations (P : List Binding → ∀ α : Type, Task α → Prop) : Prop
    extends Walk P, Errands P

namespace Sequential

variable {P : ∀ α : Type, Task α → Prop}

theorem forAll (h : Sequential P) {ι : Type} {f : ι → Task Unit} :
    ∀ {is : List ι}, (∀ i ∈ is, P _ (f i)) → P _ (Program.forAll f is)
  | [], _ => h.done ()
  | i :: is, hf => by
    refine h.bind (hf i List.mem_cons_self) fun _ => ?_
    exact h.forAll fun j hj => hf j (List.mem_cons_of_mem i hj)

section Passive

variable (hpassive : ∀ a : Action, a.isPassive = true → P _ (act a))
include hpassive

theorem withBinding (h : Sequential P) {id : String} {f : Binding → Task Outcome}
    (hf : ∀ b, P _ (f b)) : P _ (Command.withBinding id f) := by
  refine h.bind (hpassive (.binding id) rfl) ?_
  rintro (_ | b)
  · exact h.done _
  · exact hf b

theorem bindingRead (h : Sequential P) {b : Binding} (hread : P _ (b.registry.read b.key)) :
    P _ b.read := by
  have hdecode : ∀ reading, P _ (b.decode reading) := by
    intro reading
    rw [Binding.decode]
    cases reading.resolved with
    | none => exact h.done _
    | some resolved =>
      refine h.bind (hpassive (.decode b resolved.value reading.generation) rfl) ?_
      rintro (e | v)
      · exact h.bind (hpassive (.observe (.conversion b.key) e) rfl) fun _ => h.done _
      · exact h.done _
  have hkept : ∀ generation, P _ (b.kept generation) := by
    rintro (_ | g)
    · exact h.done _
    · exact hpassive (.kept b.number g) rfl
  have hremember : ∀ d generation, P _ (b.remember d generation) := by
    rintro d (_ | g)
    · exact h.done _
    · exact hpassive (.keep b.number g d) rfl
  refine h.bind hread fun reading => h.bind (hkept reading.generation) ?_
  rintro (_ | d)
  · exact h.bind (hdecode reading) fun d => h.bind (hremember d _) fun _ => h.done _
  · exact h.done _

end Passive

end Sequential

namespace Course

variable {P : List Binding → ∀ α : Type, Task α → Prop} {known : List Binding}

theorem done (h : Course P) {α : Type} (a : α) : P known _ (.done a : Task α) :=
  (h.sequential known).done a

theorem bind (h : Course P) {α β : Type} {t : Task α} {f : α → Task β} (ht : P known _ t)
    (hf : ∀ a, P known _ (f a)) : P known _ (t.bind f) :=
  (h.sequential known).bind ht hf

/-! ### Reading -/

theorem resolve (h : Course P) (r : RegistryId) (key : String) : P known _ (r.resolve key) :=
  h.bind (h.read r key) fun _ => h.done _

theorem resolveRequired (h : Course P) (r : RegistryId) (key : String) :
    P known _ (r.resolveRequired key) := by
  rw [RegistryId.resolveRequired]
  split
  · exact h.done _
  · refine h.bind (h.resolve r key) ?_
    rintro (_ | x) <;> exact h.done _

theorem getText (h : Course P) (r : RegistryId) (key : String) : P known _ (r.getText key) :=
  h.bind (h.resolve r key) fun _ => h.done _

theorem get (h : Course P) {α : Type} (r : RegistryId) (key : String) (c : Converter α) :
    P known _ (r.get key c) := by
  refine h.bind (h.resolve r key) ?_
  rintro (_ | x) <;> exact h.done _

/-! ### Handles -/

theorem bindingGet (h : Course P) {b : Binding} (hb : b ∈ known) : P known _ b.get :=
  h.bind (h.bindingRead b hb) fun _ => h.done _

theorem getAll (h : Course P) : ∀ {bs : List Binding}, (∀ b ∈ bs, b ∈ known) →
    P known _ (Binding.getAll bs)
  | [], _ => h.done _
  | b :: bs, hbs => by
    refine h.bind (h.bindingGet (hbs b List.mem_cons_self)) ?_
    rintro (e | v)
    · exact h.done _
    · exact h.bind (h.getAll fun b' hb' => hbs b' (List.mem_cons_of_mem b hb')) fun _ => h.done _

theorem readConsistently (h : Course P) {α : Type} {r : RegistryId} {read : Task α}
    (hread : P known _ read) : ∀ n : Nat, P known _ (r.readConsistently read n)
  | 0 => h.bind (h.passive (.registry r .changeSeq) rfl rfl) fun _ => h.bind hread fun _ =>
      h.bind (h.passive (.registry r .changeSeq) rfl rfl) fun _ => h.done _
  | n + 1 => by
    refine h.bind (h.passive (.registry r .changeSeq) rfl rfl) fun before => ?_
    split
    · exact h.readConsistently hread n
    · refine h.bind hread fun x =>
        h.bind (h.passive (.registry r .changeSeq) rfl rfl) fun after => ?_
      split
      · exact h.done _
      · exact h.readConsistently hread n

theorem getGroup (h : Course P) {bs : List Binding} (hbs : ∀ b ∈ bs, b ∈ known) :
    P known _ (Binding.getGroup bs) := by
  cases bs with
  | nil => exact h.done _
  | cons b bs => exact h.readConsistently (h.getAll hbs) _

theorem renderGroup (h : Course P) {bs : List Binding} (hbs : ∀ b ∈ bs, b ∈ known)
    (template : String) : P known _ (Binding.renderGroup bs template) := by
  refine h.bind (h.getGroup hbs) ?_
  rintro (e | vs) <;> exact h.done _

theorem askHandle (h : Course P) {b : Binding} (hb : b ∈ known) (query : HandleQuery) :
    P known _ (Command.askHandle b query) := by
  cases query with
  | get => exact h.bind (h.bindingGet hb) fun _ => h.done _
  | orDefault | required | value =>
    exact h.bind (h.bind (h.bindingRead b hb) fun _ => h.done _) fun _ => h.done _
  | resolved => exact h.bind (h.resolve _ _) fun _ => h.done _

/-! ### Commands -/

theorem withSource (h : Course P) {id : String} {f : SourceId → Task Outcome}
    (hf : ∀ n, P known _ (f n)) : P known _ (Command.withSource id f) := by
  refine h.bind (h.passive (.source id) rfl rfl) ?_
  rintro (_ | n)
  · exact h.done _
  · exact hf n

/-- Handles that were found are known, and so are those that were known before. -/
theorem withBindings (h : Course P) : ∀ {ids : List String} {known : List Binding}
    {f : List Binding → Task Outcome},
    (∀ bs known', (∀ b ∈ bs, b ∈ known') → (∀ b ∈ known, b ∈ known') → P known' _ (f bs)) →
    P known _ (Command.withBindings ids f)
  | [], known, _, hf =>
    hf [] known (fun _ hb => absurd hb List.not_mem_nil) fun _ hb => hb
  | _ :: _, _, _, hf => h.withBinding fun b => h.withBindings fun bs known' hbs hknown =>
    hf (b :: bs) known'
      (List.forall_mem_cons.2 ⟨hknown b List.mem_cons_self, hbs⟩)
      fun b' hb' => hknown b' (List.mem_cons_of_mem b hb')

theorem currently (h : Course P) {f : RegistryId → Task Outcome} (hf : ∀ r, P known _ (f r)) :
    P known _ ((act .current).bind f) :=
  h.bind (h.passive .current rfl rfl) hf

theorem afterDue (h : Course P) {question : Task Outcome} (hq : P known _ question) :
    P known _ (Command.afterDue question) := by
  refine h.bind (h.passive .due rfl rfl) fun xs =>
    h.bind ((h.sequential known).forAll fun x _ => ?_) fun _ => hq
  refine h.bind (h.passive (.beginRefresh x) rfl rfl) ?_
  rintro (_ | r)
  · exact h.done _
  · exact h.bind (h.refresh r) fun _ => h.passive (.endRefresh x) rfl rfl

/-- A property that the common parts of commands have is one of all commands that are nothing but
sequences of them, and of the one that looks up a source if looking it up has it. -/
theorem task (h : Course P) (known : List Binding) {c : Command}
    (hc : c.isOwn = true → P known _ c.task)
    (hlookUp : ∀ id key, c = .lookup id key → ∀ n, P known _ (lookUp n key)) :
    P known _ c.task := by
  cases c with
  | deed | make | snapshot | register | configure => exact hc rfl
  | lookup id key =>
    exact h.withSource fun n => h.bind (hlookUp id key rfl n) fun _ => h.done _
  | resolve key => exact h.currently fun r => h.bind (h.resolve r key) fun _ => h.done _
  | resolveRequired key =>
    exact h.currently fun r => h.bind (h.resolveRequired r key) fun _ => h.done _
  | getText key => exact h.currently fun r => h.bind (h.getText r key) fun _ => h.done _
  | get key kind => exact h.currently fun r => h.bind (h.get r key _) fun _ => h.done _
  | invalidate key => exact h.currently fun r => h.bind (h.invalidate r key) fun _ => h.done _
  | refresh => exact h.currently fun r => h.bind (h.refresh r) fun _ => h.done _
  | handle id query => exact h.withBinding fun b => h.askHandle List.mem_cons_self query
  | readGroup ids =>
    exact h.withBindings fun bs _ hbs _ => h.bind (h.getGroup hbs) fun _ => h.done _
  | renderGroup ids template =>
    exact h.withBindings fun bs _ hbs _ => h.bind (h.renderGroup hbs template) fun _ => h.done _
  | await key value =>
    exact h.afterDue (h.currently fun r => h.bind (h.getText r key) fun _ => h.done _)
  | awaitStop id =>
    refine h.afterDue (h.bind (h.passive (.deed (.isRunning id)) rfl rfl) fun o => ?_)
    cases o <;> exact h.done _
  | awaitEvents count =>
    exact h.afterDue (h.bind (h.passive .eventCount rfl rfl) fun _ => h.done _)

/-- The property is one of a script if it is one of its commands. -/
theorem script (h : Course P) (known : List Binding) {script : Script}
    (hs : ∀ c ∈ script.commands, P known _ c.task) : P known _ script.task :=
  (h.sequential known).forAll fun c hc =>
    h.bind (hs c hc) fun o => h.passive (.finished script.owner c.name o) rfl rfl

end Course

namespace Walk

variable {P : List Binding → ∀ α : Type, Task α → Prop} {known : List Binding}

/-- A property that the common parts of commands have is one of all commands that are nothing but
sequences of them. -/
theorem task (h : Walk P) (known : List Binding) {c : Command}
    (hc : c.isOwn = true → P known _ c.task) : P known _ c.task :=
  h.toCourse.task known hc fun _ key _ n => h.lookUp n key

end Walk

namespace Parts

variable {P : ∀ α : Type, Task α → Prop}

theorem walk (h : Parts P) : Walk fun _ => P where
  sequential := fun _ => h.toSequential
  passive := fun a ha _ => h.passive a ha
  withBinding := h.toSequential.withBinding h.passive
  read := h.read
  bindingRead := fun b _ => h.toSequential.bindingRead h.passive (h.read b.registry b.key)
  lookUp := h.lookUp
  invalidate := h.invalidate
  refresh := h.refresh

theorem task (h : Parts P) {c : Command} (hc : c.isOwn = true → P _ c.task) : P _ c.task :=
  h.walk.task [] hc

theorem script (h : Parts P) {script : Script} (hs : ∀ c ∈ script.commands, P _ c.task) :
    P _ script.task :=
  h.walk.script [] hs

end Parts

namespace Errands

variable {P : List Binding → ∀ α : Type, Task α → Prop} {known : List Binding}

theorem registerCurrent (h : Errands P) (n : SourceId) (priority : Int) (outcome : Outcome) :
    P known _ (Command.registerCurrent n priority outcome) :=
  h.currently fun r => h.bind (h.register r n priority) fun _ => h.done _

theorem makeSource (h : Errands P) (id : String) (order : SourceOrder Command)
    (priority : Option Int) : P known _ (Command.makeSource id order priority) := by
  refine h.bind (h.own (.build id order) rfl) ?_
  rintro (e | n)
  · exact h.done _
  · refine h.bind (h.passive (.describe n) rfl rfl) ?_
    rintro ⟨name, isMutable⟩
    cases priority with
    | none => exact h.done _
    | some priority => exact h.registerCurrent n priority _

theorem addLayers (h : Errands P) (r : RegistryId) : ∀ ls : List Config.Layer,
    P known _ (r.addLayers ls)
  | [] => h.done _
  | l :: ls => by
    refine h.bind (h.own (.create l.source) rfl) ?_
    rintro (e | n)
    · exact h.done _
    · refine h.bind (h.register r n l.priority) ?_
      rintro (e | u)
      · exact h.done _
      · exact h.addLayers r ls

theorem build (h : Errands P) (c : Config.Registry) : P known _ (RegistryId.build c) := by
  rw [RegistryId.build]
  split
  · exact h.done _
  · refine h.bind (h.own .addRegistry rfl) fun r => h.bind (h.addLayers r _) ?_
    rintro (e | u) <;> exact h.done _

theorem replaceRegistry (h : Errands P) (form : Config.Notation) (text : String) :
    P known _ (Command.replaceRegistry form text) := by
  rw [Command.replaceRegistry]
  split
  · exact h.done _
  · refine h.bind (h.build _) ?_
    rintro (e | r)
    · exact h.done _
    · exact h.bind (h.own (.use r) rfl) fun _ => h.done _

/-- A property that the other parts of commands have is one of a command if looking up a source
directly has it, should the command do so. -/
theorem task (h : Errands P) (known : List Binding) (c : Command)
    (hlookUp : ∀ id key, c = .lookup id key → ∀ n, P known _ (lookUp n key)) :
    P known _ c.task := by
  refine h.toCourse.task known (fun hown => ?_) hlookUp
  cases c with
  | deed d => exact h.own (.deed d) rfl
  | make id order priority => exact h.makeSource id order priority
  | snapshot id => exact h.withSource fun n => h.bind (h.takeSnapshot n) fun _ => h.done _
  | register id priority => exact h.withSource fun n => h.registerCurrent n priority _
  | configure form text => exact h.replaceRegistry form text
  | _ => simp [Command.isOwn] at hown

end Errands

namespace Operations

variable {P : List Binding → ∀ α : Type, Task α → Prop}

/-- A property that all parts of commands have is one of all commands. -/
theorem task (h : Operations P) (known : List Binding) (c : Command) : P known _ c.task :=
  h.toErrands.task known c fun _ key _ n => h.lookUp n key

theorem script (h : Operations P) (known : List Binding) (script : Script) :
    P known _ script.task :=
  h.toCourse.script known fun c _ => h.task known c

end Operations

end Strata
