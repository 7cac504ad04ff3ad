import Strata.Proofs.Origins

/-!
Sources that say that their data do not change. The environment and files keep that promise
whatever happens to what they draw from (`source_take_of_immutable`). A map says so too if it is
asked to, but it can be written to all the same: it gives what it was made with together with all
that was written since (`source_run_map`). So what an immutable source gives after a run is known
from what it was made with (`data_of_immutable`), and it is not always the same
(`not_forall_data_eq_made`).
-/

namespace Strata

/-- The values of a map after an incident. -/
def Incident.edit (x : Incident) (t : Snapshot) : Snapshot :=
  match x with
  | .put key value => t.insert key value
  | .remove key => t.erase key
  | .extend values => t.insertAll values.entries
  | _ => t

namespace Footing

/-- Data with what a run writes to the source that has them. Only maps can be written to. -/
def edited (f : Footing) (t : Snapshot) (xs : List Incident) : Snapshot :=
  match f.source with
  | .map _ => xs.foldl (fun t x => x.edit t) t
  | _ => t

variable {f : Footing} {m : MapSource} {t : Snapshot} {xs : List Incident}

theorem edited_of_map (h : f.source = .map m) :
    f.edited t xs = xs.foldl (fun t x => x.edit t) t := by
  rw [edited, h]

theorem edited_of_ne_map (h : ∀ m, f.source ≠ .map m) : f.edited t xs = t := by
  obtain ⟨source, host⟩ := f
  cases source with
  | map m => exact absurd rfl (h m)
  | _ => rfl

/-! ### Maps -/

theorem source_take_map (h : f.source = .map m) (x : Incident) :
    (f.take x).source = .map { m with values := x.edit m.values } := by
  obtain ⟨source, host⟩ := f
  cases h
  cases x <;> rfl

/-- A map has after a run what it had with all that the run writes, whether it is mutable or not. -/
theorem source_run_map (h : f.source = .map m) :
    (f.run xs).source =
      .map { m with values := xs.foldl (fun t x => x.edit t) m.values } := by
  induction xs generalizing f m with
  | nil => exact h
  | cons x xs ih => exact ih (source_take_map h x)

/-! ### Other sources -/

/-- An immutable source that is not a map stays as it is. -/
theorem source_take_of_immutable (h : f.source.isMutable = false)
    (hmap : ∀ m, f.source ≠ .map m) (x : Incident) : (f.take x).source = f.source := by
  obtain ⟨source, host⟩ := f
  cases source with
  | map m => exact absurd rfl (hmap m)
  | environment e => cases x <;> rfl
  | file file =>
    have hfile : file.isMutable = false := h
    cases x with
    | snapshot => simp only [take, Source.snapshot, hfile, Bool.false_eq_true, if_false]
    | _ => rfl
  | system | remote => cases h

theorem source_run_of_immutable (h : f.source.isMutable = false)
    (hmap : ∀ m, f.source ≠ .map m) (xs : List Incident) : (f.run xs).source = f.source := by
  induction xs generalizing f with
  | nil => rfl
  | cons x xs ih =>
    have hx := source_take_of_immutable h hmap x
    exact (ih (hx ▸ h) (hx ▸ hmap)).trans hx

/-! ### What is given -/

/-- An immutable source always has data. -/
theorem exists_contents_of_immutable (h : f.source.isMutable = false) :
    ∃ t, f.contents = some t := by
  obtain ⟨source, host⟩ := f
  cases source with
  | map m => exact ⟨m.values, rfl⟩
  | environment e => exact ⟨e.values, rfl⟩
  | file file => exact ⟨file.data, rfl⟩
  | system | remote => cases h

/-- A snapshot of an immutable source gives the data that lookups read. -/
theorem snapshot_of_immutable (h : f.source.isMutable = false) (hc : f.contents = some t) :
    f.snapshot = .ok t := by
  obtain ⟨source, host⟩ := f
  cases source with
  | map m => cases hc; rfl
  | environment e => cases hc; rfl
  | file file =>
    have hfile : file.isMutable = false := h
    cases hc
    simp only [snapshot, Source.snapshot, hfile, Bool.false_eq_true, if_false]
  | system | remote => cases h

/-- After a run an immutable source is still one, and has the data from before with all that was
written to it. -/
theorem contents_run_of_immutable (h : f.source.isMutable = false) (hc : f.contents = some t)
    (xs : List Incident) :
    (f.run xs).source.isMutable = false ∧ (f.run xs).contents = some (f.edited t xs) := by
  by_cases hmap : ∃ m, f.source = .map m
  · obtain ⟨m, hm⟩ := hmap
    have hvalues : m.values = t := by
      rw [contents, hm] at hc
      exact Option.some.inj hc
    rw [contents, source_run_map hm, edited_of_map hm, ← hvalues]
    rw [hm] at h
    exact ⟨h, rfl⟩
  · have hne : ∀ m, f.source ≠ .map m := fun m hm => hmap ⟨m, hm⟩
    have hsource := source_run_of_immutable h hne xs
    refine ⟨hsource ▸ h, ?_⟩
    rw [edited_of_ne_map hne]
    obtain ⟨source, host⟩ := f
    cases source with
    | system | remote => cases h
    | _ => rw [contents, hsource]; exact hc

/-- What an immutable source gives after any run: snapshots and lookups agree, and give the data
that it was made with if it is no map. A map gives them with all that was written to it since. -/
theorem data_of_immutable (f : Footing) (hf : f.source.isMutable = false) :
    ∃ t, f.snapshot = .ok t ∧ (∀ key, f.lookup key = .ok (t.get? key)) ∧
      ∀ xs, (f.run xs).source.isMutable = false ∧
        (f.run xs).snapshot = .ok (f.edited t xs) ∧
        ∀ key, (f.run xs).lookup key = .ok ((f.edited t xs).get? key) := by
  obtain ⟨t, hc⟩ := exists_contents_of_immutable hf
  refine ⟨t, snapshot_of_immutable hf hc, fun key => lookup_of_contents hc, fun xs => ?_⟩
  obtain ⟨himmutable, hcontents⟩ := contents_run_of_immutable hf hc xs
  exact ⟨himmutable, snapshot_of_immutable himmutable hcontents,
    fun key => lookup_of_contents hcontents⟩

/-- An immutable map that has a value for one key. -/
def constantMap : Footing := ⟨.map ⟨"m", false, .ofList [("k", "1")]⟩, {}⟩

/-- What was written to an immutable map is what it gives. -/
theorem data_of_immutable_of_extended :
    constantMap.source.isMutable = false ∧
      (constantMap.run [.extend (.ofList [("k", "2")])]).lookup "k" = .ok (some "2") := by
  refine ⟨rfl, ?_⟩
  obtain ⟨t, ht, -, hrun⟩ := data_of_immutable constantMap rfl
  obtain rfl : (.ofList [("k", "1")] : Snapshot) = t := Except.ok.inj ht
  exact (hrun [.extend (.ofList [("k", "2")])]).2.2 "k"

/-- Immutable sources do not always give what they gave when they were made. -/
theorem not_forall_data_eq_made :
    ¬ ∀ (f : Footing) (t : Snapshot), f.source.isMutable = false → f.snapshot = .ok t →
      ∀ xs, (f.run xs).snapshot = .ok t ∧ ∀ key, (f.run xs).lookup key = .ok (t.get? key) := by
  intro h
  obtain ⟨-, hlookup⟩ :=
    h constantMap (.ofList [("k", "1")]) rfl rfl [.extend (.ofList [("k", "2")])]
  have hk : (constantMap.run [.extend (.ofList [("k", "2")])]).lookup "k" = .ok (some "2") := rfl
  rw [hlookup "k"] at hk
  exact absurd (Option.some.inj (Except.ok.inj hk)) (by decide)

end Footing

end Strata
