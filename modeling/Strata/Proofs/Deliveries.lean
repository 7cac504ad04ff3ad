import Strata.Proofs.Runs

/-!
Calls of listeners: who listens to a key, and who is called in a run.
-/

namespace Strata

namespace Registry

theorem mem_listenersOf {reg : Registry} {key : String} {n : Nat} :
    n ∈ reg.listenersOf key ↔ (key, n) ∈ reg.listeners := by
  rw [listenersOf, List.mem_map]
  constructor
  · rintro ⟨⟨key', n'⟩, hmem, rfl⟩
    obtain ⟨hmem, hkey⟩ := List.mem_filter.1 hmem
    rw [← beq_iff_eq.1 hkey]
    exact hmem
  · intro h
    exact ⟨(key, n), List.mem_filter.2 ⟨h, beq_iff_eq.2 rfl⟩, rfl⟩

end Registry

namespace Machine

/-- The call of a listener that a moment is, if it is one. -/
def Moment.delivery? (m : Moment) : Option (Nat × Option Resolved) :=
  match m.step with
  | .act (.deliver n x) => some (n, x)
  | _ => none

/-- The calls of listeners, the last one first. -/
def deliveries (ms : List Moment) : List (Nat × Option Resolved) := ms.filterMap Moment.delivery?

@[simp] theorem deliveries_nil : deliveries [] = [] := rfl

@[simp] theorem deliveries_append (ms ms' : List Moment) :
    deliveries (ms ++ ms') = deliveries ms ++ deliveries ms' := List.filterMap_append

theorem deliveries_act {a : Action} {s : Session} (h : ∀ n x, a ≠ .deliver n x) :
    deliveries [⟨0, .act a, s⟩] = [] := by
  cases a with
  | deliver n x => exact absurd rfl (h n x)
  | _ => rfl

/-- A moment of a sequence of two parts of a run is one of the second or one of the first. -/
theorem append_cases {ms ms' later earlier : List Moment} {m : Moment}
    (h : ms' ++ ms = later ++ m :: earlier) :
    (∃ e, ms' = later ++ m :: e ∧ earlier = e ++ ms) ∨
      ∃ l, later = ms' ++ l ∧ ms = l ++ m :: earlier := by
  rcases List.append_eq_append_iff.1 h with ⟨l, hl, hms⟩ | ⟨l, hms', hl⟩
  · exact .inr ⟨l, hl, hms⟩
  · cases l with
    | nil =>
      refine .inr ⟨[], ?_, by simpa using hl.symm⟩
      simpa using hms'.symm
    | cons m' l =>
      obtain ⟨rfl, rfl⟩ := List.cons.inj hl
      exact .inl ⟨l, hms', rfl⟩

end Machine

end Strata
