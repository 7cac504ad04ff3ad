import Strata.Proofs.Changing
import Strata.Proofs.Walks

/-!
What tasks are put together of. A property that passes to sequences, and that scripts and asking
others have, is one of consulting layers and of taking snapshots; if asking a registry has it, it is
one of what is done to that registry (`Outward`). If most actions have it, it is one of reading and
of what a change of a registry is made of (`Gentle`). If it is also one of the other actions on a
registry and of calls, it is one of what a refresh and a registration do; so it is if the actions
that do not have it are only those that guard a registry, publish layers or let a handle keep
something (`Steady`). Whether asking for the value of a key has it matters only to reading that key
(`Distant`).
-/

namespace Strata

/-- Actions that ask a source for something or tell of a failure, other than one to decode. -/
def Action.isOutward : Action → Bool
  | .observe (.conversion _) _ => false
  | .describe _ | .lookup .. | .snapshot _ | .observe .. => true
  | _ => false

/-- Actions that ask a source for something but the value of a key or tell of a failure, other than
one to decode. -/
def Action.isDistant : Action → Bool
  | .lookup .. => false
  | a => a.isOutward

/-- The key that an action on a registry is a part of reading. -/
def RegistryAction.keyRead? : RegistryAction → Option String
  | .cached key | .fill key .. => some key
  | _ => none

/-- Actions that guard nothing, call nobody, change no layers and let no handle keep anything. -/
def Action.isGentle : Action → Bool
  | .registry _ .lock | .registry _ .unlock | .registry _ .beginChange | .registry _ .endChange
  | .registry _ (.setLayers _) | .registry _ (.record ..) | .registry _ .takeSeq | .deliver ..
  | .keep .. => false
  | _ => true

/-- Actions that guard nothing, publish no layers and let no handle keep anything. -/
def Action.isSteady : Action → Bool
  | .registry _ .lock | .registry _ .unlock | .registry _ .beginChange | .registry _ .endChange
  | .registry _ (.setLayers _) | .keep .. => false
  | _ => true

theorem Action.isOutward_of_isDistant {a : Action} (ha : a.isDistant = true) :
    a.isOutward = true := by
  cases a <;> first | exact ha | cases ha

/-- A property that passes to sequences and that all scripts have, and asking others for anything
but the value of a key. -/
structure Distant (P : ∀ α : Type, Task α → Prop) : Prop extends Sequential P where
  distant : ∀ a : Action, a.isDistant = true → P _ (act a)
  run : ∀ script : Script, P _ (run script)

/-- A property that passes to sequences and that asking others and all scripts have. -/
structure Outward (P : ∀ α : Type, Task α → Prop) : Prop extends Distant P where
  act : ∀ a : Action, a.isOutward = true → P _ (act a)
  distant := fun a ha => act a (Action.isOutward_of_isDistant ha)

/-- A property that passes to sequences and that gentle actions and all scripts have. -/
structure Gentle (P : ∀ α : Type, Task α → Prop) : Prop extends Sequential P where
  act : ∀ a : Action, a.isGentle = true → P _ (act a)
  run : ∀ script : Script, P _ (run script)

/-- A property that passes to sequences and that most actions and all scripts have. -/
structure Steady (P : ∀ α : Type, Task α → Prop) : Prop extends Sequential P where
  act : ∀ a : Action, a.isSteady = true → P _ (act a)
  run : ∀ script : Script, P _ (run script)

namespace Distant

open RegistryId

variable {P : ∀ α : Type, Task α → Prop} {r : RegistryId}

/-! ### Asking sources for all that they have -/

theorem takeSnapshot (h : Distant P) (n : SourceId) : P _ (takeSnapshot n) :=
  h.bind (h.distant (.snapshot n) rfl) fun _ => h.bind (h.run _) fun _ => h.done _

theorem firstSnapshot (h : Distant P) (n : SourceId) (name : String) :
    P _ (firstSnapshot n name) := by
  refine h.bind (h.takeSnapshot n) ?_
  rintro (e | s)
  · exact h.bind (h.distant (.observe (.registration name) e) rfl) fun _ => h.done _
  · exact h.done _

theorem nextSnapshot (h : Distant P) (l : Layer) : P _ (nextSnapshot l) := by
  refine h.bind (h.takeSnapshot l.source) ?_
  rintro (e | s)
  · exact h.bind (h.distant (.observe (.refresh l.name) e) rfl) fun _ => h.done _
  · exact h.done _

theorem takeSnapshots (h : Distant P) : ∀ ls : List Layer, P _ (takeSnapshots ls)
  | [] => h.done _
  | l :: ls => by
    rw [takeSnapshots_cons]
    split
    · exact h.bind (h.nextSnapshot l) fun _ => h.bind (h.takeSnapshots ls) fun _ => h.done _
    · exact h.takeSnapshots ls

/-! ### Asking sources for the value of a key -/

theorem lookUp (h : Distant P) {n : SourceId} {key : String}
    (hlookup : P _ (act (.lookup n key))) : P _ (lookUp n key) :=
  h.bind hlookup fun _ => h.bind (h.run _) fun _ => h.done _

theorem consult (h : Distant P) {key : String} (hlookup : ∀ n, P _ (act (.lookup n key))) :
    ∀ ls : List Layer, P _ (consult key ls)
  | [] => h.done _
  | l :: ls => by
    refine h.bind (h.lookUp (hlookup l.source)) ?_
    rintro (e | _ | value)
    · refine h.bind (h.distant (.observe (.lookup l.name key) e) rfl) fun _ => ?_
      exact h.bind (h.consult hlookup ls) fun _ => h.done _
    · exact h.consult hlookup ls
    · exact h.done _

/-! ### Work on a registry -/

section Ask

variable (hask : ∀ b : RegistryAction, b.keyRead? = none →
  (Action.registry r b).isGentle = true → P _ (ask r b))
include hask

theorem read (h : Distant P) {key : String} (hlookup : key ≠ "" → ∀ n, P _ (act (.lookup n key)))
    (hread : key ≠ "" → ∀ b : RegistryAction, b.keyRead? = some key → P _ (ask r b)) :
    P _ (r.read key) := by
  rw [RegistryId.read]
  split
  · exact h.done _
  · rename_i hkey
    have hne : key ≠ "" := fun heq => hkey (String.isEmpty_iff.2 heq)
    refine h.bind (hread hne (.cached key) rfl) ?_
    rintro (_ | reading)
    · refine h.bind (hask .epoch rfl rfl) fun epoch => ?_
      refine h.bind (hask .layers rfl rfl) fun ls => h.bind (h.consult (hlookup hne) ls) ?_
      rintro ⟨x, isDegraded⟩
      cases isDegraded with
      | true => exact h.done _
      | false => exact hread hne (.fill key x epoch) rfl
    · exact h.done _

theorem evictFor (h : Distant P) (keys : List String) (view : View) (isComplete : Bool) :
    P _ (r.evictFor keys view isComplete) := by
  rw [RegistryId.evictFor]
  refine h.bind ?_ fun _ => ?_
  · split
    · exact h.done _
    · exact hask (.evictChanged _) rfl rfl
  · split
    · exact h.done _
    · exact hask (.invalidate none) rfl rfl

theorem insertLayer (h : Distant P) (hseq : P _ (ask r .takeSeq))
    (hset : ∀ new, P _ (ask r (.setLayers new))) (old : List Layer) (n : SourceId) (name : String)
    (isMutable : Bool) (priority : Int) : P _ (r.insertLayer old n name isMutable priority) := by
  rw [insertLayer_eq]
  refine h.bind (h.firstSnapshot n name) fun x => h.bind hseq fun seq => ?_
  exact h.bind (hset _) fun _ => h.bind (h.evictFor hask _ _ _) fun _ => h.done _

omit hask in
theorem record (h : Distant P) (hrecord : ∀ seq t, P _ (ask r (.record seq t)))
    (taken : List (Layer × Option Snapshot)) : P _ (r.record taken) :=
  h.forAll fun t _ => by
    cases t.2 with
    | none => exact h.done _
    | some s => exact hrecord t.1.seq s

theorem renew (h : Distant P) (hrecord : ∀ seq t, P _ (ask r (.record seq t))) : P _ r.renew := by
  refine h.bind (hask .layers rfl rfl) fun ls => ?_
  refine h.bind (h.takeSnapshots ls) fun taken => h.bind (h.record hrecord taken) fun _ => ?_
  exact h.bind (hask (.evictStale _) rfl rfl) fun _ => h.done _

/-! ### Changes of a registry -/

theorem notify (h : Distant P) (hdeliver : ∀ n x, P _ (Strata.act (.deliver n x)))
    (changes : List Change) : P _ (r.notify changes) :=
  h.forAll fun change _ => h.bind (hask (.listeners change.1) rfl rfl) fun _ =>
    h.forAll fun n _ => h.bind (hdeliver n change.2) fun script => h.run script

end Ask

theorem renewal (h : Distant P) (hask : ∀ b : RegistryAction, b.keyRead? = none →
    (∀ new, b ≠ .setLayers new) → P _ (ask r b)) : P _ r.renewal := by
  have hgentle : ∀ b : RegistryAction, b.keyRead? = none →
      (Action.registry r b).isGentle = true → P _ (ask r b) := by
    refine fun b hkey hb => hask b hkey fun new heq => ?_
    subst heq
    cases hb
  refine h.bind (hask .lock rfl nofun) fun _ => h.bind (hask .beginChange rfl nofun) fun _ => ?_
  refine h.bind (h.renew hgentle fun _ _ => hask _ rfl nofun) fun _ => ?_
  exact h.bind (hask .endChange rfl nofun) fun _ => h.bind (hask .unlock rfl nofun) fun _ =>
    h.done _

theorem registration (h : Distant P)
    (hask : ∀ b : RegistryAction, b.keyRead? = none → P _ (ask r b)) (n : SourceId)
    (priority : Int) : P _ (r.registration n priority) := by
  refine h.bind (h.distant (.describe n) rfl) fun ⟨name, isMutable⟩ => ?_
  refine h.bind (hask .lock rfl) fun _ => h.bind (hask .layers rfl) fun old => ?_
  split
  · exact h.bind (h.distant (.observe (.registration name) _) rfl) fun _ =>
      h.bind (hask .unlock rfl) fun _ => h.done _
  · refine h.bind (hask .beginChange rfl) fun _ =>
      h.bind (h.insertLayer (fun b hkey _ => hask b hkey) (hask .takeSeq rfl)
        (fun new => hask (.setLayers new) rfl) old n name isMutable priority) fun _ => ?_
    exact h.bind (hask .endChange rfl) fun _ => h.bind (hask .unlock rfl) fun _ => h.done _

theorem refresh (h : Distant P) (hdeliver : ∀ n x, P _ (Strata.act (.deliver n x)))
    (hask : ∀ b : RegistryAction, b.keyRead? = none → (∀ new, b ≠ .setLayers new) →
      P _ (ask r b)) : P _ r.refresh := by
  rw [refresh_eq]
  refine h.bind (h.renewal hask) fun x => h.bind (h.notify ?_ hdeliver x.2) fun _ => h.done _
  refine fun b hkey hb => hask b hkey fun new heq => ?_
  subst heq
  cases hb

theorem register (h : Distant P) (hdeliver : ∀ n x, P _ (Strata.act (.deliver n x)))
    (hask : ∀ b : RegistryAction, b.keyRead? = none → P _ (ask r b)) (n : SourceId)
    (priority : Int) : P _ (r.register n priority) := by
  rw [register_eq]
  refine h.bind (h.registration hask n priority) ?_
  rintro (e | changes)
  · exact h.done _
  · exact h.bind (h.notify (fun b hkey _ => hask b hkey) hdeliver changes) fun _ => h.done _

end Distant

namespace Outward

variable {P : ∀ α : Type, Task α → Prop} {r : RegistryId}

theorem lookUp (h : Outward P) (n : SourceId) (key : String) : P _ (lookUp n key) :=
  h.toDistant.lookUp (h.act (.lookup n key) rfl)

theorem consult (h : Outward P) (key : String) (ls : List Layer) :
    P _ (RegistryId.consult key ls) :=
  h.toDistant.consult (fun n => h.act (.lookup n key) rfl) ls

theorem read (h : Outward P) (hask : ∀ b, (Action.registry r b).isGentle = true → P _ (ask r b))
    (key : String) : P _ (r.read key) :=
  h.toDistant.read (fun b _ => hask b) (fun _ n => h.act (.lookup n key) rfl) fun _ b hb =>
    hask b <| by cases b <;> first | rfl | cases hb

end Outward

namespace Gentle

open RegistryId

variable {P : ∀ α : Type, Task α → Prop} {r : RegistryId}

theorem outward (h : Gentle P) : Outward P := { h.toSequential with
  act := fun a ha => h.act a <| by cases a <;> first | rfl | cases ha
  run := h.run }

/-! ### What gentle actions are put together to -/

theorem lookUp (h : Gentle P) (n : SourceId) (key : String) : P _ (lookUp n key) :=
  h.outward.lookUp n key

theorem takeSnapshot (h : Gentle P) (n : SourceId) : P _ (takeSnapshot n) :=
  h.outward.takeSnapshot n

theorem consult (h : Gentle P) (key : String) (ls : List Layer) : P _ (consult key ls) :=
  h.outward.consult key ls

theorem read (h : Gentle P) (r : RegistryId) (key : String) : P _ (r.read key) :=
  h.outward.read (fun b => h.act (.registry r b)) key

theorem firstSnapshot (h : Gentle P) (n : SourceId) (name : String) :
    P _ (firstSnapshot n name) :=
  h.outward.firstSnapshot n name

theorem evictFor (h : Gentle P) (r : RegistryId) (keys : List String) (view : View)
    (isComplete : Bool) : P _ (r.evictFor keys view isComplete) :=
  h.outward.evictFor (fun b _ => h.act (.registry r b)) keys view isComplete

theorem takeSnapshots (h : Gentle P) (ls : List Layer) : P _ (takeSnapshots ls) :=
  h.outward.takeSnapshots ls

/-! ### Changes of a registry -/

theorem notify (h : Gentle P) (hdeliver : ∀ n x, P _ (Strata.act (.deliver n x))) (r : RegistryId)
    (changes : List Change) : P _ (r.notify changes) :=
  h.outward.notify (fun b _ => h.act (.registry r b)) hdeliver changes

theorem insertLayer (h : Gentle P) (hseq : P _ (ask r .takeSeq))
    (hset : ∀ new, P _ (ask r (.setLayers new))) (old : List Layer) (n : SourceId) (name : String)
    (isMutable : Bool) (priority : Int) : P _ (r.insertLayer old n name isMutable priority) :=
  h.outward.insertLayer (fun b _ => h.act (.registry r b)) hseq hset old n name isMutable priority

theorem record (h : Gentle P) (hrecord : ∀ seq t, P _ (ask r (.record seq t)))
    (taken : List (Layer × Option Snapshot)) : P _ (r.record taken) :=
  h.outward.record hrecord taken

theorem renew (h : Gentle P) (hrecord : ∀ seq t, P _ (ask r (.record seq t))) : P _ r.renew :=
  h.outward.renew (fun b _ => h.act (.registry r b)) hrecord

theorem renewal (h : Gentle P) (hask : ∀ b, (∀ new, b ≠ .setLayers new) → P _ (ask r b)) :
    P _ r.renewal :=
  h.outward.renewal fun b _ => hask b

theorem refresh (h : Gentle P) (hdeliver : ∀ n x, P _ (Strata.act (.deliver n x)))
    (hask : ∀ b, (∀ new, b ≠ .setLayers new) → P _ (ask r b)) : P _ r.refresh :=
  h.outward.refresh hdeliver fun b _ => hask b

theorem registration (h : Gentle P) (hask : ∀ b, P _ (ask r b)) (n : SourceId) (priority : Int) :
    P _ (r.registration n priority) :=
  h.outward.registration (fun b _ => hask b) n priority

theorem register (h : Gentle P) (hdeliver : ∀ n x, P _ (Strata.act (.deliver n x)))
    (hask : ∀ b, P _ (ask r b)) (n : SourceId) (priority : Int) : P _ (r.register n priority) :=
  h.outward.register hdeliver (fun b _ => hask b) n priority

end Gentle

namespace Steady

open RegistryId

variable {P : ∀ α : Type, Task α → Prop}

theorem gentle (h : Steady P) : Gentle P := { h.toSequential with
  act := fun a ha => h.act a <| by
    cases a with
    | registry r b => cases b <;> first | rfl | cases ha
    | keep => cases ha
    | _ => rfl
  run := h.run }

theorem lookUp (h : Steady P) (n : SourceId) (key : String) : P _ (lookUp n key) :=
  h.gentle.lookUp n key

theorem takeSnapshot (h : Steady P) (n : SourceId) : P _ (takeSnapshot n) :=
  h.gentle.takeSnapshot n

theorem consult (h : Steady P) (key : String) (ls : List Layer) : P _ (consult key ls) :=
  h.gentle.consult key ls

theorem read (h : Steady P) (r : RegistryId) (key : String) : P _ (r.read key) :=
  h.gentle.read r key

theorem decode (h : Steady P) (b : Binding) (reading : Reading) : P _ (b.decode reading) := by
  rw [Binding.decode]
  cases reading.resolved with
  | none => exact h.done _
  | some resolved =>
    refine h.bind (h.act (.decode b resolved.value reading.generation) rfl) ?_
    rintro (e | v)
    · exact h.bind (h.act (.observe (.conversion b.key) e) rfl) fun _ => h.done _
    · exact h.done _

theorem kept (h : Steady P) (b : Binding) : ∀ generation : Option Nat, P _ (b.kept generation)
  | none => h.done _
  | some g => h.act (.kept b.number g) rfl

theorem notify (h : Steady P) (r : RegistryId) (changes : List Change) : P _ (r.notify changes) :=
  h.gentle.notify (fun n x => h.act (.deliver n x) rfl) r changes

theorem firstSnapshot (h : Steady P) (n : SourceId) (name : String) :
    P _ (firstSnapshot n name) :=
  h.gentle.firstSnapshot n name

theorem evictFor (h : Steady P) (r : RegistryId) (keys : List String) (view : View)
    (isComplete : Bool) : P _ (r.evictFor keys view isComplete) :=
  h.gentle.evictFor r keys view isComplete

theorem insertLayer (h : Steady P) {r : RegistryId}
    (hset : ∀ new, P _ (ask r (.setLayers new))) (old : List Layer) (n : SourceId) (name : String)
    (isMutable : Bool) (priority : Int) : P _ (r.insertLayer old n name isMutable priority) :=
  h.gentle.insertLayer (h.act (.registry r .takeSeq) rfl) hset old n name isMutable priority

theorem takeSnapshots (h : Steady P) (ls : List Layer) : P _ (takeSnapshots ls) :=
  h.gentle.takeSnapshots ls

theorem record (h : Steady P) (r : RegistryId) (taken : List (Layer × Option Snapshot)) :
    P _ (r.record taken) :=
  h.gentle.record (fun seq t => h.act (.registry r (.record seq t)) rfl) taken

theorem renew (h : Steady P) (r : RegistryId) : P _ r.renew :=
  h.gentle.renew fun seq t => h.act (.registry r (.record seq t)) rfl

theorem refresh (h : Steady P)
    (hask : ∀ r b, (∀ new, b ≠ .setLayers new) → P _ (ask r b)) (r : RegistryId) :
    P _ r.refresh :=
  h.gentle.refresh (fun n x => h.act (.deliver n x) rfl) (hask r)

theorem register (h : Steady P) (hask : ∀ r b, P _ (ask r b)) (r : RegistryId) (n : SourceId)
    (priority : Int) : P _ (r.register n priority) :=
  h.gentle.register (fun n x => h.act (.deliver n x) rfl) (hask r) n priority

end Steady

end Strata
