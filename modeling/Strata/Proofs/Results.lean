import Mathlib.Data.List.Basic

/-!
Computations that give a result or a failure, and sequences of them. A sequence gives all the results
if none of its parts fails (`mapM_map_ok`), and the failure of the first part that does if there is
one (`mapM_eq_error_iff`).
-/

namespace Strata

variable {α β ε ε' : Type}

theorem exists_of_map_eq_ok {f : α → β} {r : Except ε α} {b : β} (h : r.map f = .ok b) :
    ∃ a, r = .ok a ∧ f a = b := by
  cases r with
  | error e => cases h
  | ok a => exact ⟨a, rfl, Except.ok.inj h⟩

theorem map_eq_error_iff {f : α → β} {r : Except ε α} {e : ε} :
    r.map f = .error e ↔ r = .error e := by
  cases r <;> simp [Except.map]

theorem exists_of_mapError_eq_error {f : ε → ε'} {r : Except ε α} {e' : ε'}
    (h : r.mapError f = .error e') : ∃ e, r = .error e ∧ f e = e' := by
  cases r with
  | error e => exact ⟨e, rfl, Except.error.inj h⟩
  | ok a => cases h

theorem exists_of_mapError_eq_ok {f : ε → ε'} {r : Except ε α} {a : α}
    (h : r.mapError f = .ok a) : r = .ok a := by
  cases r with
  | error e => cases h
  | ok a => exact congrArg _ (Except.ok.inj h)

theorem forall_of_mapM {f : β → Except ε α} {P : α → Prop}
    (hf : ∀ b a, f b = .ok a → P a) :
    ∀ {bs : List β} {as : List α}, bs.mapM f = .ok as → ∀ a ∈ as, P a
  | [], _, h => by
    cases h
    exact fun _ ha => absurd ha List.not_mem_nil
  | b :: bs, as, h => by
    rw [List.mapM_cons] at h
    cases hb : f b with
    | error e =>
      rw [hb] at h
      cases h
    | ok a =>
      rw [hb] at h
      cases hbs : bs.mapM f with
      | error e =>
        rw [hbs] at h
        cases h
      | ok rest =>
        rw [hbs] at h
        cases h
        exact List.forall_mem_cons.2 ⟨hf b a hb, forall_of_mapM hf hbs⟩

theorem mapM_map_ok {f : β → Except ε α} {g : α → β} :
    ∀ {as : List α}, (∀ a ∈ as, f (g a) = .ok a) → (as.map g).mapM f = .ok as
  | [], _ => rfl
  | a :: as, h => by
    rw [List.map_cons, List.mapM_cons, h a List.mem_cons_self,
      mapM_map_ok fun x hx => h x (List.mem_cons_of_mem a hx)]
    rfl

/-- A sequence fails as the first of its parts that fails. -/
theorem mapM_eq_error_iff {f : β → Except ε α} {bs : List β} {e : ε} : bs.mapM f = .error e ↔
    ∃ before b after, bs = before ++ b :: after ∧ (∀ b' ∈ before, ∃ a, f b' = .ok a) ∧
      f b = .error e := by
  constructor
  · intro h
    induction bs with
    | nil => cases h
    | cons b bs ih =>
      rw [List.mapM_cons] at h
      cases hb : f b with
      | error e' =>
        rw [hb] at h
        obtain rfl := Except.error.inj h
        exact ⟨[], b, bs, rfl, by simp, hb⟩
      | ok a =>
        rw [hb] at h
        cases hbs : bs.mapM f with
        | ok as =>
          rw [hbs] at h
          cases h
        | error e' =>
          rw [hbs] at h
          obtain rfl := Except.error.inj h
          obtain ⟨before, b', after, rfl, hbefore, hb'⟩ := ih hbs
          refine ⟨b :: before, b', after, rfl, ?_, hb'⟩
          exact List.forall_mem_cons.2 ⟨⟨a, hb⟩, hbefore⟩
  · rintro ⟨before, b, after, rfl, hbefore, hb⟩
    induction before with
    | nil =>
      rw [List.nil_append, List.mapM_cons, hb]
      rfl
    | cons b' before ih =>
      obtain ⟨⟨a, ha⟩, hbefore⟩ := List.forall_mem_cons.1 hbefore
      rw [List.cons_append, List.mapM_cons, ha, ih hbefore]
      rfl

end Strata
