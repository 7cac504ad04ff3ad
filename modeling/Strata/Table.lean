/-!
Finite maps from texts to values, kept as lists of entries in increasing order of their keys. The
order is that of the code points, which is also that of the bytes of the texts. Two tables with
the same answers are the same table.
-/

namespace Strata

/-- Sets the value of a key in a list of entries in key order. -/
def insertEntry {α : Type} (k : String) (v : α) : List (String × α) → List (String × α)
  | [] => [(k, v)]
  | e :: rest =>
    if k < e.1 then (k, v) :: e :: rest
    else if k = e.1 then (k, v) :: rest
    else e :: insertEntry k v rest

/-- The value of a key in a list of entries. -/
def lookupEntry {α : Type} (k : String) : List (String × α) → Option α
  | [] => none
  | e :: rest => if e.1 = k then some e.2 else lookupEntry k rest

theorem mem_insertEntry {α : Type} {k : String} {v : α} {e : String × α} :
    ∀ {es : List (String × α)}, e ∈ insertEntry k v es → e = (k, v) ∨ e ∈ es
  | [], h => by simpa [insertEntry] using h
  | x :: rest, h => by
    unfold insertEntry at h
    split at h
    · simpa using h
    · split at h
      · rcases List.mem_cons.1 h with h | h
        · exact .inl h
        · exact .inr (List.mem_cons_of_mem _ h)
      · rcases List.mem_cons.1 h with h | h
        · exact .inr (h ▸ List.mem_cons_self)
        · exact (mem_insertEntry h).imp_right (List.mem_cons_of_mem _)

/-- A list of entries in increasing order of their keys, no key twice. -/
def Ascending {α : Type} (es : List (String × α)) : Prop := es.Pairwise fun a b => a.1 < b.1

theorem lt_of_not_lt_of_ne {a b : String} (h : ¬ a < b) (hne : a ≠ b) : b < a :=
  Std.lt_of_le_of_ne (Std.not_lt.1 h) fun e => hne e.symm

theorem Ascending.insertEntry {α : Type} {k : String} {v : α} :
    ∀ {es : List (String × α)}, Ascending es → Ascending (Strata.insertEntry k v es)
  | [], _ => by simp [Ascending, Strata.insertEntry]
  | e :: rest, h => by
    have hh := List.pairwise_cons.1 h
    unfold Strata.insertEntry
    split
    · rename_i hlt
      refine List.pairwise_cons.2 ⟨fun x hx => ?_, h⟩
      rcases List.mem_cons.1 hx with rfl | hx
      · exact hlt
      · exact Std.lt_trans hlt (hh.1 x hx)
    · split
      · rename_i heq
        exact List.pairwise_cons.2 ⟨fun x hx => heq ▸ hh.1 x hx, hh.2⟩
      · rename_i hlt hne
        refine List.pairwise_cons.2 ⟨fun x hx => ?_, Ascending.insertEntry hh.2⟩
        rcases mem_insertEntry hx with rfl | hx
        · exact lt_of_not_lt_of_ne hlt hne
        · exact hh.1 x hx

/-! ### Looking up -/

theorem lookupEntry_insertEntry {α : Type} (k k' : String) (v : α) :
    ∀ es : List (String × α),
      lookupEntry k' (insertEntry k v es) = if k = k' then some v else lookupEntry k' es
  | [] => by simp [insertEntry, lookupEntry]
  | (x, y) :: rest => by
    have ih := lookupEntry_insertEntry k k' v rest
    unfold insertEntry
    split
    · simp [lookupEntry]
    · split
      · rename_i heq
        by_cases hx : x = k' <;> simp_all [lookupEntry]
      · rename_i hne
        by_cases hx : x = k'
        · subst hx
          simp [lookupEntry, hne]
        · simp [lookupEntry, hx, ih]

theorem lookupEntry_eq_none {α : Type} {k : String} :
    ∀ {es : List (String × α)}, (∀ e ∈ es, e.1 ≠ k) → lookupEntry k es = none
  | [], _ => rfl
  | e :: rest, h => by
    have hrest := lookupEntry_eq_none fun x hx => h x (List.mem_cons_of_mem e hx)
    simp [lookupEntry, h e List.mem_cons_self, hrest]

theorem lookupEntry_filter {α : Type} (k : String) (p : String × α → Bool) :
    ∀ {es : List (String × α)}, Ascending es →
      lookupEntry k (es.filter p) = (lookupEntry k es).filter fun v => p (k, v)
  | [], _ => rfl
  | (x, y) :: rest, h => by
    have hh := List.pairwise_cons.1 h
    have ih := lookupEntry_filter k p hh.2
    by_cases hk : x = k
    · subst hk
      have hnone : lookupEntry x (rest.filter p) = none :=
        lookupEntry_eq_none fun e he heq =>
          Std.lt_irrefl (heq ▸ hh.1 e (List.mem_filter.1 he).1)
      by_cases hp : p (x, y) = true <;> simp [lookupEntry, Option.filter, hp, hnone]
    · by_cases hp : p (x, y) = true <;> simp [lookupEntry, hk, hp, ih]

/-- A finite map from texts to values. -/
structure Table (α : Type) where
  entries : List (String × α)
  ascending : Ascending entries

namespace Table

variable {α : Type}

/-- The map without a key. -/
def empty : Table α := ⟨[], .nil⟩

instance : Inhabited (Table α) := ⟨empty⟩

instance : EmptyCollection (Table α) := ⟨empty⟩

/-- The value of a key. -/
def get? (t : Table α) (k : String) : Option α := lookupEntry k t.entries

/-- Whether a key has a value. -/
def contains (t : Table α) (k : String) : Bool := (t.get? k).isSome

/-- Sets the value of a key. -/
def insert (t : Table α) (k : String) (v : α) : Table α :=
  ⟨insertEntry k v t.entries, t.ascending.insertEntry⟩

/-- Keeps the entries that satisfy a test. -/
def filter (t : Table α) (p : String → α → Bool) : Table α :=
  ⟨t.entries.filter fun e => p e.1 e.2, t.ascending.filter _⟩

/-- Removes a key. -/
def erase (t : Table α) (k : String) : Table α := t.filter fun k' _ => k' != k

/-- The keys in increasing order. -/
def keys (t : Table α) : List String := t.entries.map (·.1)

/-- The number of keys. -/
def size (t : Table α) : Nat := t.entries.length

/-- Sets keys one after the other, so the last value of a key counts. -/
def insertAll (t : Table α) (es : List (String × α)) : Table α :=
  es.foldl (fun t e => t.insert e.1 e.2) t

/-- The map of a list of entries, the last value of a key counting. -/
def ofList (es : List (String × α)) : Table α := empty.insertAll es

@[simp] theorem get?_empty (k : String) : (empty : Table α).get? k = none := rfl

@[simp] theorem get?_insert (t : Table α) (k k' : String) (v : α) :
    (t.insert k v).get? k' = if k = k' then some v else t.get? k' :=
  lookupEntry_insertEntry k k' v t.entries

@[simp] theorem get?_filter (t : Table α) (p : String → α → Bool) (k : String) :
    (t.filter p).get? k = (t.get? k).filter (p k) :=
  lookupEntry_filter k (fun e => p e.1 e.2) t.ascending

theorem get?_erase (t : Table α) (k k' : String) :
    (t.erase k).get? k' = if k' = k then none else t.get? k' := by
  by_cases h : k' = k
  · simp [erase, h]
  · cases hv : t.get? k' <;> simp [erase, h, hv]

instance [DecidableEq α] : DecidableEq (Table α) := fun a b =>
  if h : a.entries = b.entries then
    .isTrue (by cases a; cases b; cases h; rfl)
  else .isFalse fun e => h (e ▸ rfl)

end Table

end Strata
