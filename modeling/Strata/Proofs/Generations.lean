import Strata.Proofs.Caches
import Strata.Proofs.Disciplines
import Strata.Proofs.Steady

/-!
What handles keep. A handle keeps what it has decoded together with the generation of the cache entry
that it was decoded from, and trusts that generation alone. A ledger tells for good which handles
there are and which key and value belong to a generation; it only grows, and everything that is
cached or kept stands in it. Main statement: in every run of scripts a generation belongs to one key
and one value, and asking a handle gives what asking its registry gives (`value_eq_get`).
-/

namespace Strata

open Machine RegistryId

/-! ### What handles keep -/

namespace Session

variable {s : Session} {m : Nat}

/-- A handle has kept something new, or everything is as it was. -/
theorem exists_of_keep {n : HandleId} {g : Nat} {d : Decoded} {handle' : Handle}
    (h : (s.keep n g d).handles[m]? = some handle') : ∃ handle, s.handles[m]? = some handle ∧
      handle'.binding = handle.binding ∧
      (handle'.kept = handle.kept ∨ m = n ∧ handle'.kept = some (g, d)) := by
  rw [keep, List.getElem?_modify, Option.map_eq_map, Option.map_eq_some_iff] at h
  obtain ⟨handle, hhandle, rfl⟩ := h
  refine ⟨handle, hhandle, ?_⟩
  split
  · rename_i hn
    split
    · split
      · exact ⟨rfl, .inr ⟨hn.symm, rfl⟩⟩
      · exact ⟨rfl, .inl rfl⟩
    · exact ⟨rfl, .inr ⟨hn.symm, rfl⟩⟩
  · exact ⟨rfl, .inl rfl⟩

theorem exists_keep (n : HandleId) (g : Nat) (d : Decoded) {handle : Handle}
    (h : s.handles[m]? = some handle) : ∃ handle', (s.keep n g d).handles[m]? = some handle' ∧
      handle'.binding = handle.binding := by
  rw [keep, List.getElem?_modify, h, Option.map_eq_map, Option.map_some]
  refine ⟨_, rfl, ?_⟩
  split
  · split
    · split <;> rfl
    · rfl
  · rfl

end Session

/-! ### Ledgers -/

/-- What is decoded from what the key of a handle resolves to. -/
def Binding.decoded (b : Binding) : Option Resolved → Decoded
  | none => .absent
  | some resolved =>
    match b.converter.decode resolved.value with
    | .ok v => .found v
    | .error e => .failed e

/-- The handles that were made, and the keys and values of the generations that were handed out by
registries. A generation belongs to one key and one value. -/
structure Ledger where
  bound : Binding → Prop
  handed : RegistryId → Nat → String → Option Resolved → Prop
  unique : ∀ {r g key key' x x'}, handed r g key x → handed r g key' x' → key = key' ∧ x = x'

namespace Ledger

/-- Nothing is struck out. -/
structure Grows (L L' : Ledger) : Prop where
  bound : ∀ {b}, L.bound b → L'.bound b
  handed : ∀ {r g key x}, L.handed r g key x → L'.handed r g key x

/-- A handle may keep what is decoded from the value that belongs to the generation. -/
def Allows (L : Ledger) : Action → Prop
  | .keep n g d => ∃ b x, b.number = n ∧ L.bound b ∧ L.handed b.registry g b.key x ∧
      d = b.decoded x
  | _ => True

/-- What an answer tells of handles and generations stands in the ledger. -/
def Confirms (L : Ledger) : Fact → Prop
  | ⟨.registry r (.cached key), some ⟨x, some g⟩⟩ => L.handed r g key x
  | ⟨.registry r (.fill key _ _), ⟨x, some g⟩⟩ => L.handed r g key x
  | ⟨.binding _, some b⟩ => L.bound b
  | ⟨.decode b raw _, x⟩ => x = b.converter.decode raw
  | _ => True

/-- The ledger with another handle. -/
def bind (L : Ledger) (b : Binding) : Ledger where
  bound := fun b' => L.bound b' ∨ b' = b
  handed := L.handed
  unique := L.unique

/-- The ledger with another generation. -/
def hand (L : Ledger) (r : RegistryId) (g : Nat) (key : String) (x : Option Resolved)
    (hnew : ∀ key x, ¬ L.handed r g key x) : Ledger where
  bound := L.bound
  handed := fun r' g' key' x' => L.handed r' g' key' x' ∨ r' = r ∧ g' = g ∧ key' = key ∧ x' = x
  unique := by
    rintro r' g' k k' y y' (h | ⟨rfl, rfl, rfl, rfl⟩) (h' | ⟨hr, hg, rfl, rfl⟩)
    · exact L.unique h h'
    · rw [hr, hg] at h
      exact absurd h (hnew _ _)
    · exact absurd h' (hnew _ _)
    · exact ⟨rfl, rfl⟩

variable {L L' L'' : Ledger}

theorem Grows.refl (L : Ledger) : L.Grows L := ⟨id, id⟩

theorem Grows.trans (h : L.Grows L') (h' : L'.Grows L'') : L.Grows L'' :=
  ⟨h'.bound ∘ h.bound, h'.handed ∘ h.handed⟩

theorem grows_bind (b : Binding) : L.Grows (L.bind b) := ⟨.inl, id⟩

theorem Allows.mono {a : Action} (ha : L.Allows a) (h : L.Grows L') : L'.Allows a := by
  cases a with
  | keep n g d =>
    obtain ⟨b, x, hn, hb, hx, hd⟩ := ha
    exact ⟨b, x, hn, h.bound hb, h.handed hx, hd⟩
  | _ => trivial

theorem Confirms.mono {f : Fact} (hf : L.Confirms f) (h : L.Grows L') : L'.Confirms f := by
  unfold Confirms at hf ⊢
  split at hf
  · exact h.handed hf
  · exact h.handed hf
  · exact h.bound hf
  · exact hf
  · trivial

/-! ### Sessions that a ledger fits -/

/-- Everything that is cached or kept stands in the ledger, and it has no other handles and no
generations that are still to come. -/
structure Fits (L : Ledger) (s : Session) : Prop where
  entry : ∀ {r : RegistryId} {reg key e}, s.registries[r]? = some reg →
    reg.cache.entries.get? key = some e → L.handed r e.generation key e.resolved
  lt : ∀ {r g key x}, L.handed r g key x →
    ∃ reg, s.registries[r]? = some reg ∧ g < reg.cache.nextGeneration
  number : ∀ {n : Nat} {h : Handle}, s.handles[n]? = some h → h.binding.number = n ∧ L.bound h.binding
  bound : ∀ {b : Binding}, L.bound b → ∃ h, s.handles[b.number]? = some h ∧ h.binding = b
  kept : ∀ {n : Nat} {h : Handle} {g d}, s.handles[n]? = some h → h.kept = some (g, d) →
    ∃ x, L.handed h.binding.registry g h.binding.key x ∧ d = h.binding.decoded x

variable {s s' : Session} {r : RegistryId} {reg reg' : Registry} {a : Action} {answer : a.Answer}

/-- What is kept from a generation is decoded from the value that belongs to it. -/
theorem Fits.decoded (h : L.Fits s) {b : Binding} {g : Nat} {d : Decoded} {x : Option Resolved}
    (hb : L.bound b) (hx : L.handed b.registry g b.key x) (hd : s.kept? b.number g = some d) :
    d = b.decoded x := by
  obtain ⟨hdl, hhandle, rfl⟩ := h.bound hb
  rw [Session.kept?, hhandle, Option.bind_some] at hd
  split at hd
  · rename_i g' d' hkept
    split at hd
    · rename_i hg
      cases hd
      subst hg
      obtain ⟨y, hy, rfl⟩ := h.kept hhandle hkept
      rw [(L.unique hx hy).2]
    · cases hd
  · cases hd

/-- A change of listeners does not matter, nor does a new registry. -/
theorem Fits.of_same (h : L.Fits s) (hhandles : s'.handles = s.handles)
    (hsame : SameRegistries s s') : L.Fits s' where
  entry := fun {r reg' key e} hreg' he => by
    rcases hsame.known r reg' hreg' with ⟨-, rfl⟩ | ⟨reg, listeners, hreg, rfl⟩
    · cases he
    · exact h.entry hreg he
  lt := fun hx => by
    obtain ⟨reg, hreg, hlt⟩ := h.lt hx
    obtain ⟨listeners, hreg'⟩ := hsame.kept _ reg hreg
    exact ⟨_, hreg', hlt⟩
  number := by rw [hhandles]; exact h.number
  bound := by rw [hhandles]; exact h.bound
  kept := by rw [hhandles]; exact h.kept

/-- An action on a registry that hands out new generations only, and after which what is cached
stands in the ledger. -/
theorem Fits.setRegistry (h : L.Fits s) (hg : L.Grows L') (hbound : ∀ b, L'.bound b → L.bound b)
    (hreg : s.registries[r]? = some reg) (hle : reg.cache.nextGeneration ≤ reg'.cache.nextGeneration)
    (hhanded : ∀ r₁ g key x, L'.handed r₁ g key x →
      L.handed r₁ g key x ∨ r₁ = r ∧ g < reg'.cache.nextGeneration)
    (hentry : ∀ key e, reg'.cache.entries.get? key = some e →
      L'.handed r e.generation key e.resolved) : L'.Fits (s.setRegistry r reg') where
  entry := fun {r₁ reg₁ key e} hreg₁ he => by
    by_cases hr : r₁ = r
    · subst hr
      rw [Session.registries_setRegistry hreg, Option.some.injEq] at hreg₁
      subst hreg₁
      exact hentry key e he
    · rw [Session.registries_setRegistry_of_ne hr] at hreg₁
      exact hg.handed (h.entry hreg₁ he)
  lt := fun {r₁ g key x} hx => by
    rcases hhanded r₁ g key x hx with hx | ⟨rfl, hlt⟩
    · obtain ⟨reg₁, hreg₁, hlt⟩ := h.lt hx
      by_cases hr : r₁ = r
      · subst hr
        obtain rfl := Option.some.inj (hreg.symm.trans hreg₁)
        exact ⟨reg', Session.registries_setRegistry hreg reg', Nat.lt_of_lt_of_le hlt hle⟩
      · exact ⟨reg₁, (Session.registries_setRegistry_of_ne hr).trans hreg₁, hlt⟩
    · exact ⟨reg', Session.registries_setRegistry hreg reg', hlt⟩
  number := fun hhandle => ⟨(h.number hhandle).1, hg.bound (h.number hhandle).2⟩
  bound := fun hb => h.bound (hbound _ hb)
  kept := fun hhandle hkept => by
    obtain ⟨x, hx, hd⟩ := h.kept hhandle hkept
    exact ⟨x, hg.handed hx, hd⟩

/-- A ledger goes with a session and with what was answered on the way to it. -/
def Follows (L : Ledger) (s : Session) (f : Fact) (L' : Ledger) : Prop :=
  L.Grows L' ∧ L'.Fits s ∧ L'.Confirms f

/-- What is put into the cache gets a generation that was not handed out before. -/
theorem Fits.fill (h : L.Fits s) (hreg : s.registries[r]? = some reg) (key : String)
    (x : Option Resolved) (epoch : Nat) {answer : Reading}
    (hask : reg.take (.fill key x epoch) = some (answer, reg')) :
    ∃ L', L.Follows (s.setRegistry r reg') ⟨.registry r (.fill key x epoch), answer⟩ L' := by
  simp only [Registry.take, Cache.fill] at hask
  split at hask
  · rename_i e he
    cases hask
    rw [Session.setRegistry_self hreg]
    exact ⟨L, .refl L, h, h.entry hreg he⟩
  · split at hask
    · cases hask
      rw [Session.setRegistry_self hreg]
      exact ⟨L, .refl L, h, trivial⟩
    · cases hask
      have hnew : ∀ k y, ¬ L.handed r reg.cache.nextGeneration k y := by
        intro k y hy
        obtain ⟨reg₁, hreg₁, hlt⟩ := h.lt hy
        obtain rfl := Option.some.inj (hreg.symm.trans hreg₁)
        exact Nat.lt_irrefl _ hlt
      let L' := L.hand r reg.cache.nextGeneration key x hnew
      have hg : L.Grows L' := ⟨id, .inl⟩
      refine ⟨L', hg, h.setRegistry hg (fun _ => id) hreg (Nat.le_succ _) ?_ ?_,
        .inr ⟨rfl, rfl, rfl, rfl⟩⟩
      · rintro r₁ g k y (hy | ⟨rfl, rfl, -⟩)
        · exact .inl hy
        · exact .inr ⟨rfl, Nat.lt_succ_self _⟩
      · intro k e he
        rw [Table.get?_insert] at he
        split at he
        · rename_i hkey
          cases he
          exact .inr ⟨rfl, rfl, hkey.symm, rfl⟩
        · exact .inl (h.entry hreg he)

/-- Any action on a registry. -/
theorem Fits.ask (h : L.Fits s) {b : RegistryAction} {answer : b.Answer}
    (htake : s.take (.registry r b) = some (answer, s')) :
    ∃ L', L.Follows s' ⟨.registry r b, answer⟩ L' := by
  obtain ⟨reg, reg', hreg, hask, rfl⟩ := Session.exists_registry_take htake
  by_cases hfill : ∃ key x n, b = .fill key x n
  · obtain ⟨key, x, n, rfl⟩ := hfill
    exact h.fill hreg key x n hask
  push Not at hfill
  obtain ⟨hnext, hentries⟩ := Registry.cache_take hfill hask
  refine ⟨L, .refl L, h.setRegistry (.refl L) (fun _ => id) hreg (Nat.le_of_eq hnext.symm)
    (fun _ _ _ _ => .inl) fun key e he => h.entry hreg (hentries key e he), ?_⟩
  cases b with
  | fill key x n => exact absurd rfl (hfill key x n)
  | cached key =>
    cases hask
    cases he : reg.cache.entries.get? key with
    | none => simp [Cache.get?, he, Confirms]
    | some e => simpa [Cache.get?, he, Confirms, Cache.hit] using h.entry hreg he
  | _ => trivial

/-- A handle keeps what the ledger allows. -/
theorem Fits.keep (h : L.Fits s) {n : HandleId} {g : Nat} {d : Decoded}
    (ha : L.Allows (.keep n g d)) : L.Fits (s.keep n g d) where
  entry := h.entry
  lt := h.lt
  number := fun hhandle => by
    obtain ⟨handle, hold, heq, -⟩ := Session.exists_of_keep hhandle
    rw [heq]
    exact h.number hold
  bound := fun hb => by
    obtain ⟨handle, hold, rfl⟩ := h.bound hb
    exact Session.exists_keep n g d hold
  kept := fun {m handle' g' d'} hhandle hkept => by
    obtain ⟨handle, hold, heq, hsame | ⟨rfl, hnew⟩⟩ := Session.exists_of_keep hhandle
    · rw [heq]
      exact h.kept hold (hsame.symm.trans hkept)
    · rw [hnew] at hkept
      cases hkept
      obtain ⟨b, x, rfl, hb, hx, rfl⟩ := ha
      obtain ⟨handle₁, hhandle₁, rfl⟩ := h.bound hb
      obtain rfl := Option.some.inj (hold.symm.trans hhandle₁)
      rw [heq]
      exact ⟨x, hx, rfl⟩

/-- A new handle has kept nothing. -/
theorem Fits.bind (h : L.Fits s) (id key : String) (kind : Kind) (default : String)
    (fallsBack : Bool) : ∃ L', L.Grows L' ∧ L'.Fits (s.bind id key kind default fallsBack).2 := by
  simp only [Session.bind]
  split
  · exact ⟨L, .refl L, h⟩
  split
  · exact ⟨L, .refl L, h⟩
  rename_i value _ _
  let b : Binding := ⟨s.handles.length, s.current, key, kind.converter, value, fallsBack⟩
  have hcases : ∀ {n : Nat} {handle : Handle}, (s.handles ++ [{ binding := b }])[n]? = some handle →
      s.handles[n]? = some handle ∨ n = s.handles.length ∧ handle = { binding := b } := by
    intro n handle hhandle
    by_cases hlt : n < s.handles.length
    · rw [List.getElem?_append_left hlt] at hhandle
      exact .inl hhandle
    · rw [List.getElem?_append_right (Nat.le_of_not_lt hlt), List.getElem?_singleton] at hhandle
      split at hhandle
      · cases hhandle
        exact .inr ⟨by omega, rfl⟩
      · cases hhandle
  refine ⟨L.bind b, grows_bind b, h.entry, h.lt, fun hhandle => ?_, ?_, fun hhandle hkept => ?_⟩
  · rcases hcases hhandle with hhandle | ⟨rfl, rfl⟩
    · exact ⟨(h.number hhandle).1, .inl (h.number hhandle).2⟩
    · exact ⟨rfl, .inr rfl⟩
  · rintro b' (hb' | rfl)
    · obtain ⟨handle, hhandle, rfl⟩ := h.bound hb'
      obtain ⟨hlt, -⟩ := List.getElem?_eq_some_iff.1 hhandle
      exact ⟨handle, (List.getElem?_append_left hlt).trans hhandle, rfl⟩
    · exact ⟨{ binding := b }, List.getElem?_concat_length, rfl⟩
  · rcases hcases hhandle with hhandle | ⟨rfl, rfl⟩
    · exact h.kept hhandle hkept
    · cases hkept

/-- Whatever happens, the ledger can be kept up. -/
theorem Fits.take (h : L.Fits s) (ha : L.Allows a) (htake : s.take a = some (answer, s')) :
    ∃ L', L.Follows s' ⟨a, answer⟩ L' := by
  by_cases hreg : ∃ r b, a = .registry r b
  · obtain ⟨r, b, rfl⟩ := hreg
    exact h.ask htake
  push Not at hreg
  have hsame := sameRegistries_take hreg htake
  cases hon : a.isOnHandles with
  | true =>
    cases a with
    | keep n g d =>
      cases htake
      exact ⟨L, .refl L, h.keep ha, trivial⟩
    | deed d =>
      cases d with
      | bind id key kind default fallsBack =>
        obtain ⟨L', hg, hfits⟩ := h.bind id key kind default fallsBack
        have heq : (s.bind id key kind default fallsBack).2 = s' :=
          congrArg Prod.snd (Option.some.inj htake)
        rw [heq] at hfits
        exact ⟨L', hg, hfits, trivial⟩
      | _ => cases hon
    | _ => cases hon
  | false =>
    refine ⟨L, .refl L, h.of_same (Session.handles_take hon htake) hsame, ?_⟩
    cases a with
    | registry r b => exact absurd rfl (hreg r b)
    | decode b raw g =>
      cases htake
      rfl
    | binding id =>
      cases htake
      cases hhandle : s.handle? id with
      | none => trivial
      | some handle =>
        obtain ⟨n, -, hn⟩ := Option.bind_eq_some_iff.1 hhandle
        exact (h.number hn).2
    | _ => trivial

end Ledger

/-! ### The discipline -/

/-- The discipline by which tasks let handles keep what stands in the ledger. -/
def ledgers : Discipline Ledger :=
  ⟨Ledger.Allows, fun L f L' => L.Grows L' ∧ L'.Confirms f, fun _ => True, Ledger.Grows⟩

variable {α β : Type} {L L' : Ledger}

theorem passes_ledgers : ledgers.Passes :=
  ⟨fun L _ => .refl L, fun _ _ _ _ => trivial, fun _ _ _ => Ledger.Grows.trans⟩

theorem heeds_answer {a : Action} {Q : a.Answer → Ledger → Prop} (ha : L.Allows a)
    (hQ : ∀ answer L', L.Grows L' → L'.Confirms ⟨a, answer⟩ → Q answer L') :
    Heeds ledgers (act a) L Q :=
  ⟨ha, fun answer L' h => hQ answer L' h.1 h.2⟩

/-- All actions are allowed but that of keeping something. -/
theorem governs_act {a : Action} (ha : ∀ n g d, a ≠ .keep n g d) : ledgers.Governs (act a) := by
  intro L _
  refine heeds_answer ?_ fun _ _ hg _ => hg
  cases a with
  | keep n g d => exact absurd rfl (ha n g d)
  | _ => trivial

theorem steady_ledgers : Steady fun _ t => ledgers.Governs t where
  toSequential := passes_ledgers.sequential
  act := fun a ha => governs_act fun n g d heq => by
    rw [heq] at ha
    cases ha
  run := passes_ledgers.run

/-- What follows on a part of which only the growth of the ledger is known. -/
theorem Heeds.after {t : Task α} {f : α → Task β} {Q : β → Ledger → Prop}
    (ht : ledgers.Governs t) (hf : ∀ a L', L.Grows L' → Heeds ledgers (f a) L' Q) :
    Heeds ledgers (t.bind f) L Q :=
  (ht L trivial).andThen hf

/-- The generation that is read belongs to the key and to the value that is read. -/
theorem heeds_read (r : RegistryId) (key : String) : Heeds ledgers (r.read key) L
    fun reading L' => L.Grows L' ∧
      ∀ g, reading.generation = some g → L'.handed r g key reading.resolved := by
  rw [RegistryId.read]
  split
  · exact ⟨.refl L, fun g hg => by cases hg⟩
  have hcached : Heeds ledgers (ask r (.cached key)) L fun x L₁ => L.Grows L₁ ∧
      L₁.Confirms ⟨.registry r (.cached key), x⟩ :=
    heeds_answer trivial fun _ _ hg hx => ⟨hg, hx⟩
  refine hcached.andThen ?_
  rintro x L₁ ⟨hg₁, hx⟩
  rcases x with _ | ⟨y, _ | g⟩
  · refine Heeds.after (steady_ledgers.act (.registry r .epoch) rfl) fun epoch L₂ hg₂ => ?_
    refine Heeds.after (steady_ledgers.act (.registry r .layers) rfl) fun ls L₃ hg₃ => ?_
    refine Heeds.after (steady_ledgers.consult key ls) fun y L₄ hg₄ => ?_
    have hg := ((hg₁.trans hg₂).trans hg₃).trans hg₄
    obtain ⟨x, isDegraded⟩ := y
    cases isDegraded with
    | true => exact ⟨hg, fun g hg => by cases hg⟩
    | false =>
      refine heeds_answer trivial fun reading L₅ hg₅ hreading => ⟨hg.trans hg₅, fun g heq => ?_⟩
      obtain ⟨y, _⟩ := reading
      cases heq
      exact hreading
  · exact ⟨hg₁, fun g hg => by cases hg⟩
  · refine ⟨hg₁, fun g' heq => ?_⟩
    cases heq
    exact hx

/-- What is decoded is what the converter makes of the value. -/
theorem heeds_decode {W : Type} {D : Discipline W} {P : W → Prop} {w : W} (b : Binding)
    (reading : Reading) (hw : P w)
    (hdecode : ∀ raw g, Heeds D (act (.decode b raw g)) w fun x w' =>
      P w' ∧ x = b.converter.decode raw)
    (hobserve : ∀ c e w', P w' → Heeds D (act (.observe c e)) w' fun _ w'' => P w'') :
    Heeds D (b.decode reading) w fun d w' => P w' ∧ d = b.decoded reading.resolved := by
  rw [Binding.decode]
  cases reading.resolved with
  | none => exact ⟨hw, rfl⟩
  | some resolved =>
    refine (hdecode resolved.value reading.generation).andThen ?_
    rintro x w₁ ⟨hw₁, hx⟩
    cases x with
    | ok v => exact ⟨hw₁, by rw [Binding.decoded, ← hx]⟩
    | error e =>
      exact (hobserve (.conversion b.key) e w₁ hw₁).andThen fun _ _ hw₂ =>
        ⟨hw₂, by rw [Binding.decoded, ← hx]⟩

/-- A handle keeps what it has decoded from the value that belongs to the generation. -/
theorem heeds_bindingRead {b : Binding} (hb : L.bound b) :
    Heeds ledgers b.read L fun _ L' => L.Grows L' := by
  refine (heeds_read b.registry b.key).andThen fun reading L₁ ⟨hg₁, hreading⟩ => ?_
  refine Heeds.after (steady_ledgers.kept b reading.generation) fun d? L₂ hg₂ => ?_
  cases d? with
  | some d => exact hg₁.trans hg₂
  | none =>
    refine (heeds_decode (P := L₂.Grows) b reading (.refl L₂)
      (fun _ _ => heeds_answer trivial fun _ _ hg hx => ⟨hg, hx⟩)
      fun _ _ _ hg => heeds_answer trivial fun _ _ hg' _ => hg.trans hg').andThen
        fun d L₃ ⟨hg₃, hd⟩ => ?_
    have hg := (hg₁.trans hg₂).trans hg₃
    cases hgen : reading.generation with
    | none => exact hg
    | some g =>
      have hallows : L₃.Allows (.keep b.number g d) :=
        ⟨b, reading.resolved, rfl, hg.bound hb, (hg₂.trans hg₃).handed (hreading g hgen), hd⟩
      exact (heeds_answer hallows fun _ L₄ hg₄ _ => hg.trans hg₄).andThen fun _ _ hg₄ => hg₄

/-- All parts of commands let handles keep what stands in the ledger, if they know of handles only
what stands there. -/
theorem operations_ledgers : Operations fun known _ t => ∀ L : Ledger, (∀ b ∈ known, L.bound b) →
    Heeds ledgers t L fun _ L' => L.Grows L' := by
  have hfree : ∀ {α : Type} {t : Task α} {known : List Binding}, ledgers.Governs t →
      ∀ L : Ledger, (∀ b ∈ known, L.bound b) → Heeds ledgers t L fun _ L' => L.Grows L' :=
    fun ht L _ => ht L trivial
  have hask : ∀ (r : RegistryId) b, ledgers.Governs (ask r b) := fun r b =>
    governs_act fun _ _ _ heq => by cases heq
  have hwalk : Walk fun known _ t => ∀ L : Ledger, (∀ b ∈ known, L.bound b) →
      Heeds ledgers t L fun _ L' => L.Grows L' := {
    sequential := fun known => ⟨fun _ L _ => .refl L, fun ht hf L hL =>
      (ht L hL).andThen fun a L' hg => (hf a L' fun b hb => hg.bound (hL b hb)).mono
        fun _ _ hg' => hg.trans hg'⟩
    passive := fun a _ hhandle => hfree (governs_act fun n g d heq => by
      rw [heq] at hhandle
      cases hhandle)
    withBinding := fun {known id f} hf L hL => by
      have hbinding : Heeds ledgers (act (.binding id)) L fun x L₁ => L.Grows L₁ ∧
          L₁.Confirms ⟨.binding id, x⟩ :=
        heeds_answer trivial fun _ _ hg hx => ⟨hg, hx⟩
      refine hbinding.andThen fun x L₁ ⟨hg₁, hx⟩ => ?_
      cases x with
      | none => exact hg₁
      | some b =>
        refine (hf b L₁ ?_).mono fun _ _ hg => hg₁.trans hg
        exact List.forall_mem_cons.2 ⟨hx, fun b' hb' => hg₁.bound (hL b' hb')⟩
    read := fun r key => hfree (steady_ledgers.read r key)
    bindingRead := fun b hb L hL => heeds_bindingRead (hL b hb)
    lookUp := fun n key => hfree (steady_ledgers.lookUp n key)
    invalidate := fun r key => hfree (hask r (.invalidate key))
    refresh := fun r => hfree (steady_ledgers.refresh (fun r b _ => hask r b) r) }
  refine ⟨hwalk, fun a ha => hfree (governs_act fun n g d heq => ?_),
    fun n => hfree (steady_ledgers.takeSnapshot n),
    fun r n priority => hfree (steady_ledgers.register hask r n priority)⟩
  rw [heq] at ha
  cases ha

theorem governs_ledgers (script : Script) : ledgers.Governs script.task := fun L _ =>
  operations_ledgers.script [] script L fun _ hb => absurd hb List.not_mem_nil

/-! ### Runs -/

/-- What a task that heeds the discipline relies on stays true as the ledger grows. -/
theorem Heeds.grow {t : Task α} {Q : α → Ledger → Prop}
    (hQ : ∀ a {L L' : Ledger}, Q a L → L.Grows L' → Q a L') (ht : Heeds ledgers t L Q)
    (hg : L.Grows L') : Heeds ledgers t L' Q := by
  cases t with
  | done a => exact hQ a ht hg
  | step step next =>
    cases step with
    | act a =>
      exact ⟨Ledger.Allows.mono ht.1 hg,
        fun answer L₁ h => ht.2 answer L₁ ⟨hg.trans h.1, h.2⟩⟩
    | run script => exact ⟨trivial, fun L₁ hg₁ => ht.2 L₁ (hg.trans hg₁)⟩

/-- A ledger fits the session of a machine and all that its tasks were answered, and the tasks heed
the discipline. -/
structure Machine.Booked (L : Ledger) (ms : List Moment) (m : Machine Unit) : Prop where
  fits : L.Fits m.session
  confirms : ∀ i, ∀ f ∈ history i ms, L.Confirms f
  heeds : ∀ (i : Nat) t, m.tasks[i]? = some t → Heeds ledgers t L fun _ _ => True

theorem Machine.Booked.step {ms : List Moment} {m m' : Machine Unit} {i : Nat} {step : TaskStep}
    (h : Booked L ms m) (hpend : (m.tasks[i]?).bind Task.pending? = some step)
    (hadv : m.advance i = some m') :
    ∃ L', L.Grows L' ∧ Booked L' (⟨i, step, m.session⟩ :: ms) m' := by
  obtain ⟨s, tasks⟩ := m
  have hset : ∀ {t t' : Task Unit} {L' : Ledger}, tasks[i]? = some t → L.Grows L' →
      Heeds ledgers t' L' (fun _ _ => True) → ∀ (j : Nat) u, (tasks.set i t')[j]? = some u →
        Heeds ledgers u L' fun _ _ => True := by
    intro t t' L' ht hg ht' j u hu
    by_cases hj : i = j
    · subst hj
      obtain ⟨hlt, -⟩ := List.getElem?_eq_some_iff.1 ht
      rw [List.getElem?_set_self hlt, Option.some.injEq] at hu
      exact hu ▸ ht'
    · rw [List.getElem?_set_ne hj] at hu
      exact (h.heeds j u hu).grow (fun _ _ _ _ _ => trivial) hg
  rcases advance_cases hpend hadv with ⟨a, answer, next, s', ht, rfl, htake, rfl⟩ |
    ⟨script, next, ht, rfl, rfl⟩
  · obtain ⟨hallows, hnext⟩ := h.heeds i _ ht
    obtain ⟨L', hg, hfits, hconfirms⟩ := h.fits.take hallows htake
    refine ⟨L', hg, hfits, fun j f hf => ?_, hset ht hg (hnext answer L' ⟨hg, hconfirms⟩)⟩
    rcases mem_history_cons htake hf with ⟨-, rfl⟩ | hf
    · exact hconfirms
    · exact (h.confirms j f hf).mono hg
  · have hnext := (h.heeds i _ ht).2
    refine ⟨L, .refl L, h.fits, fun j f hf => ?_, hset ht (.refl L) ?_⟩
    · rw [history_cons_run] at hf
      exact h.confirms j f hf
    · exact (governs_ledgers script L trivial).andThen fun _ L' hg => hnext L' hg

/-- Handles are numbered in their order and have kept nothing, and nothing is cached. -/
structure Session.IsUnread (s : Session) : Prop where
  entries : ∀ reg ∈ s.registries, reg.cache.entries = .empty
  number : ∀ (n : Nat) h, s.handles[n]? = some h → h.binding.number = n
  kept : ∀ h ∈ s.handles, h.kept = none

/-- A ledger is kept up, whatever happens. -/
theorem Machine.Booked.run_append {ms part : List Moment} {m m' : Machine Unit} (h : Booked L ms m)
    (hrun : m.Run part m') : ∃ L', L.Grows L' ∧ Booked L' (part ++ ms) m' := by
  induction hrun with
  | start => exact ⟨L, .refl L, h⟩
  | step _ hpend hadv ih =>
    obtain ⟨L₁, hg₁, h₁⟩ := ih
    obtain ⟨L₂, hg₂, h₂⟩ := h₁.step hpend hadv
    exact ⟨L₂, hg₁.trans hg₂, h₂⟩

/-- In every run of scripts there is a ledger. -/
theorem booked_run {s : Session} {scripts : List Script} (hs : s.IsUnread) {ms : List Moment}
    {m : Machine Unit} (hrun : Machine.Run ⟨s, scripts.map Script.task⟩ ms m) :
    ∃ L, Machine.Booked L ms m := by
  let L : Ledger :=
    ⟨fun b => ∃ h ∈ s.handles, h.binding = b, fun _ _ _ _ => False, fun h => h.elim⟩
  have hstart : Machine.Booked L [] ⟨s, scripts.map Script.task⟩ := by
    refine ⟨⟨fun hreg he => ?_, fun hx => hx.elim, fun hhandle => ?_, ?_, fun hhandle hkept => ?_⟩,
      fun i f hf => absurd hf List.not_mem_nil, fun i t ht => ?_⟩
    · rw [hs.entries _ (List.mem_of_getElem? hreg)] at he
      cases he
    · exact ⟨hs.number _ _ hhandle, _, List.mem_of_getElem? hhandle, rfl⟩
    · rintro b ⟨h, hh, rfl⟩
      obtain ⟨n, hn⟩ := List.mem_iff_getElem?.1 hh
      exact ⟨h, by rwa [hs.number n h hn], rfl⟩
    · rw [hs.kept _ (List.mem_of_getElem? hhandle)] at hkept
      cases hkept
    · rw [List.getElem?_map, Option.map_eq_some_iff] at ht
      obtain ⟨script, -, rfl⟩ := ht
      exact (governs_ledgers script L trivial).mono fun _ _ _ => trivial
  obtain ⟨L', -, hL'⟩ := hstart.run_append hrun
  exact ⟨L', by simpa using hL'⟩

/-- A task that runs from its beginning to its end keeps the ledger up. -/
theorem Heeds.runs {S : ScriptRun} {s s' : Session} {t : Task α} {ms : List Moment} {a : α}
    (hS : ∀ script s ms s' (L : Ledger), S script s ms s' → L.Fits s → ∃ L', L.Grows L' ∧ L'.Fits s')
    (hrun : Task.Runs S t s ms a s') : ∀ {L : Ledger} {Q : α → Ledger → Prop}, L.Fits s →
      Heeds ledgers t L Q → ∃ L', L.Grows L' ∧ L'.Fits s' ∧ Q a L' := by
  induction hrun with
  | done a s => exact fun hfits ht => ⟨_, .refl _, hfits, ht⟩
  | act htake _ ih =>
    intro L Q hfits ht
    obtain ⟨L₁, hg₁, hfits₁, hconfirms⟩ := hfits.take ht.1 htake
    obtain ⟨L₂, hg₂, h⟩ := ih hfits₁ (ht.2 _ L₁ ⟨hg₁, hconfirms⟩)
    exact ⟨L₂, hg₁.trans hg₂, h⟩
  | run hscript _ ih =>
    intro L Q hfits ht
    obtain ⟨L₁, hg₁, hfits₁⟩ := hS _ _ _ _ L hscript hfits
    obtain ⟨L₂, hg₂, h⟩ := ih hfits₁ (ht.2 L₁ hg₁)
    exact ⟨L₂, hg₁.trans hg₂, h⟩

/-- Scripts keep the ledger up, however deep they are nested. -/
theorem fits_scriptRuns : ∀ (n : Nat) (script : Script) (s : Session) (ms : List Moment)
    (s' : Session) (L : Ledger), Task.ScriptRuns n script s ms s' → L.Fits s →
      ∃ L', L.Grows L' ∧ L'.Fits s'
  | 0, _, _, _, _, _, h, _ => h.elim
  | n + 1, script, _, _, _, L, h, hfits => by
    obtain ⟨L', hg, hfits', -⟩ :=
      Heeds.runs (fits_scriptRuns n) h hfits (governs_ledgers script L trivial)
    exact ⟨L', hg, hfits'⟩

/-! ### Asking handles -/

section Asking

variable {s : Session} {b : Binding}

/-- Decoding always comes to an end. -/
theorem exists_run_decode (s : Session) (b : Binding) (reading : Reading) :
    ∃ s', s.run (b.decode reading) = some (b.decoded reading.resolved, s') := by
  rw [Binding.decode]
  cases reading.resolved with
  | none => exact ⟨s, rfl⟩
  | some resolved =>
    cases hdecode : b.converter.decode resolved.value with
    | ok v => exact ⟨s, by simp [Session.run, act, Program.act, Task.runWith, Session.take, hdecode,
        Binding.decoded]⟩
    | error e => exact ⟨s.emit (.observed (.conversion b.key) e), by
        simp [Session.run, act, Program.act, Task.runWith, Session.take, hdecode, Binding.decoded]⟩

/-- Reading a handle gives what is decoded from a reading of its key, whether it has kept that or
not. -/
theorem map_run_bindingRead (h : L.Fits s) (hb : L.bound b) : (s.run b.read).map (·.1) =
    (s.run (b.registry.read b.key)).map fun x => b.decoded x.1.resolved := by
  rw [Binding.read, Session.run, Program.bind_eq_bind, Task.runWith_bind]
  cases hread : s.run (b.registry.read b.key) with
  | none =>
    rw [Session.run] at hread
    rw [hread]
    rfl
  | some x =>
    obtain ⟨reading, s₁⟩ := x
    obtain ⟨ms, hruns⟩ := Task.runs_of_run hread
    obtain ⟨L₁, hg, hfits, -, hgen⟩ :=
      Heeds.runs (fits_scriptRuns _) hruns h (heeds_read b.registry b.key)
    obtain ⟨s₂, hdecode⟩ := exists_run_decode s₁ b reading
    rw [Session.run] at hread hdecode
    rw [hread, Option.bind_some, Option.map_some]
    dsimp only
    cases hgeneration : reading.generation with
    | none =>
      simp [Binding.kept, Binding.remember, Task.runWith_bind, hdecode]
    | some g =>
      cases hkept : s₁.kept? b.number g with
      | none =>
        simp [Binding.kept, Binding.remember, Task.runWith_bind, act, Program.act, Task.runWith,
          Session.take, hkept, hdecode]
      | some d =>
        have hd := hfits.decoded (hg.bound hb) (hgen g hgeneration) hkept
        simp [Binding.kept, act, Program.act, Task.runWith, Session.take, hkept, hd]

/-- What is done with what was read of a handle is not seen by the session. -/
theorem map_run_bind (s : Session) (t : Task α) (f : α → β) :
    (s.run (t.bind fun a => .done (f a))).map (·.1) = ((s.run t).map (·.1)).map f := by
  rw [Session.run, Task.runWith_bind, Session.run]
  cases t.runWith (Session.runScript Session.maxDepth) s <;> rfl

/-- Asking a registry gives what is decoded from a reading of the key. -/
theorem map_run_get (s : Session) (b : Binding) :
    (s.run (b.registry.get b.key b.converter)).map (·.1) =
      (s.run (b.registry.read b.key)).map fun x => (b.decoded x.1.resolved).value? := by
  have hget : b.registry.get b.key b.converter = (b.registry.read b.key).bind fun reading =>
      .done (b.decoded reading.resolved).value? := by
    rw [RegistryId.get, RegistryId.resolve, Program.bind_eq_bind, Program.bind_eq_bind,
      Program.bind_assoc]
    congr 1
    funext reading
    rw [Program.pure_eq_done, Program.done_bind]
    cases reading.resolved with
    | none => rfl
    | some resolved =>
      simp only [Binding.decoded]
      cases b.converter.decode resolved.value <;> rfl
  rw [hget, map_run_bind, Option.map_map]
  rfl

end Asking

/-- What a handle gives for what its registry gives: the default stands in for an absent value, and
for one that cannot be decoded if the handle falls back. -/
def Binding.getOf (b : Binding) : Except Failure (Option Value) → Except Failure Value
  | .ok v => .ok (v.getD b.default)
  | .error e => if b.fallsBack then .ok b.default else .error e

/-- The default stands in for anything that is not there. -/
def Binding.getOrDefaultOf (b : Binding) : Except Failure (Option Value) → Value
  | .ok v => v.getD b.default
  | .error _ => b.default

/-- The value has to be there. -/
def Binding.getRequiredOf (b : Binding) : Except Failure (Option Value) → Except Failure Value
  | .ok (some v) => .ok v
  | .ok none => .error (.missingProperty b.key)
  | .error e => .error e

/-- The generation that is handed out to a task that reads a key, and what the key resolves to. -/
def Fact.handed? : Fact → Option (RegistryId × Nat × String × Option Resolved)
  | ⟨.registry r (.cached key), some ⟨x, some g⟩⟩ => some (r, g, key, x)
  | ⟨.registry r (.fill key _ _), ⟨x, some g⟩⟩ => some (r, g, key, x)
  | _ => none

/-- A task that read a key of a registry was given a generation and what the key resolves to. -/
def Machine.HandedOut (ms : List Moment) (r : RegistryId) (g : Nat) (key : String)
    (x : Option Resolved) : Prop :=
  ∃ i, (r, g, key, x) ∈ (history i ms).filterMap Fact.handed?

theorem Machine.Booked.handed {ms : List Moment} {m : Machine Unit} (h : Booked L ms m)
    {r : RegistryId} {g : Nat} {key : String} {x : Option Resolved} (hx : HandedOut ms r g key x) :
    L.handed r g key x := by
  obtain ⟨i, hmem⟩ := hx
  obtain ⟨f, hf, hhanded⟩ := List.mem_filterMap.1 hmem
  have hconfirms := h.confirms i f hf
  unfold Fact.handed? at hhanded
  split at hhanded <;> cases hhanded
  · exact hconfirms
  · exact hconfirms

/-- Tasks that run scripts take turns in any order, one action at a time. A generation that was
handed out belongs to one key and one value for good. In every session that is reached, asking a
handle for its value gives what its registry gives for the key and the converter, whatever the
handle has kept; and the other ways of asking are the documented functions of that result, the
default and whether the handle falls back. -/
theorem value_eq_get {s : Session} {scripts : List Script} {ms : List Moment} {m : Machine Unit}
    (hs : s.IsUnread) (hrun : Machine.Run ⟨s, scripts.map Script.task⟩ ms m) :
    (∀ r g key key' x x', HandedOut ms r g key x → HandedOut ms r g key' x' →
      key = key' ∧ x = x') ∧
    ∀ h ∈ m.session.handles, ∀ result,
      (m.session.run (h.binding.registry.get h.binding.key h.binding.converter)).map (·.1) =
        result →
      (m.session.run h.binding.value).map (·.1) = result ∧
      (m.session.run h.binding.get).map (·.1) = result.map h.binding.getOf ∧
      (m.session.run h.binding.getOrDefault).map (·.1) = result.map h.binding.getOrDefaultOf ∧
      (m.session.run h.binding.getRequired).map (·.1) = result.map h.binding.getRequiredOf := by
  obtain ⟨L, hL⟩ := booked_run hs hrun
  refine ⟨fun r g key key' x x' hx hx' => L.unique (hL.handed hx) (hL.handed hx'), ?_⟩
  rintro h hh _ rfl
  obtain ⟨n, hn⟩ := List.mem_iff_getElem?.1 hh
  have hread := map_run_bindingRead hL.fits (hL.fits.number hn).2
  generalize h.binding = b at hread ⊢
  have hask : ∀ {γ : Type} (f : Decoded → γ) (g : Except Failure (Option Value) → γ),
      (∀ d, f d = g d.value?) →
      (m.session.run (b.read.bind fun d => .done (f d))).map (·.1) =
        ((m.session.run (b.registry.get b.key b.converter)).map (·.1)).map g := by
    intro γ f g hfg
    rw [map_run_bind, hread, map_run_get, Option.map_map, Option.map_map]
    exact congrArg (Option.map · _) (funext fun x => hfg _)
  refine ⟨?_, hask _ _ ?_, hask _ _ ?_, hask _ _ ?_⟩
  · exact (hask Decoded.value? id fun _ => rfl).trans (congrFun Option.map_id _)
  all_goals rintro (v | _ | e) <;> rfl

/-- A map and a handle on its key. -/
def oneHandle : Session where
  sources := [.builtin (.map { name := "m", isMutable := true, values := .ofList [("k", "1")] })]
  registries := [{
    layers := [⟨0, "m", true, 0, 0, .ofList [("k", "1")]⟩]
    nextSeq := 1 }]
  handles := [{ binding := ⟨0, 0, "k", Kind.string.converter, .text "", false⟩ }]
  ids := { sources := .ofList [("m", 0)], handles := .ofList [("x", 0)] }

/-- A task that asks the handle twice, and one that writes to the map and refreshes. -/
def askTwice : List Script :=
  [⟨"reader", [.handle "x" .get, .handle "x" .get]⟩,
    ⟨"writer", [.deed (.put "m" "k" "2"), .refresh]⟩]

/-- The map is written to after the handle was asked for the first time. Then the handle has kept what
belongs to the second generation, and gives it. -/
theorem value_eq_get_of_map : ∃ ms m h, Machine.Run ⟨oneHandle, askTwice.map Script.task⟩ ms m ∧
    h ∈ m.session.handles ∧ h.kept.map (·.1) = some 2 ∧
    HandedOut ms 0 1 "k" (some ⟨"1", "m"⟩) ∧ HandedOut ms 0 2 "k" (some ⟨"2", "m"⟩) ∧
    (∀ key x, HandedOut ms 0 1 key x → "k" = key ∧ some ⟨"1", "m"⟩ = x) ∧
    (m.session.run h.binding.value).map (·.1) =
      (m.session.run (h.binding.registry.get h.binding.key h.binding.converter)).map (·.1) := by
  let start : Machine Unit := ⟨oneHandle, askTwice.map Script.task⟩
  let x := start.follow [] (List.replicate 10 0 ++ List.replicate 14 1 ++ List.replicate 10 0)
  have hx : start.Run x.1 x.2 := Machine.run_follow _ .start
  have hunread : oneHandle.IsUnread := by
    refine ⟨fun reg hreg => ?_, fun n h hn => ?_, fun h hh => ?_⟩
    · rw [List.mem_singleton.1 hreg]
    · rw [oneHandle, List.getElem?_singleton] at hn
      split at hn <;> cases hn
      exact (‹n = 0›).symm
    · rw [List.mem_singleton.1 hh]
  have hkept : x.2.session.handles.map (fun h => h.kept.map (·.1)) = [some 2] := by decide +kernel
  have hfirst : HandedOut x.1 0 1 "k" (some ⟨"1", "m"⟩) := ⟨0, by decide +kernel⟩
  have hsecond : HandedOut x.1 0 2 "k" (some ⟨"2", "m"⟩) := ⟨0, by decide +kernel⟩
  obtain ⟨h, hhandles, hgeneration⟩ := List.map_eq_singleton_iff.1 hkept
  have hmem : h ∈ x.2.session.handles := by
    rw [hhandles]
    exact List.mem_singleton_self h
  obtain ⟨hunique, hasking⟩ := value_eq_get hunread hx
  exact ⟨_, _, h, hx, hmem, hgeneration, hfirst, hsecond,
    fun key y hy => hunique 0 1 _ _ _ _ hfirst hy, (hasking h hmem _ rfl).1⟩

end Strata
