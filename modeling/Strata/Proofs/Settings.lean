import Strata.Config.Layers
import Strata.Proofs.Results
import Strata.Proofs.Tables
import Strata.Proofs.Timespans

/-!
Settings that are written and read again. What is written of a record are all its fields by their
names, and each of them is read as it was written; only a span of time of 213504 days or more is
not. Main statement: settings survive being written unless they hold such a span
(`read_write_settings`).
-/

namespace Strata.Config

open Number

/-! ### Values -/

@[simp] theorem readTable_writeTable (t : Table String) : readTable (writeTable t) = .ok t := by
  have hentries : (t.entries.map fun e => (e.1, Document.text e.2)).mapM
      (fun f => (readText f.2).map fun s => (f.1, s)) = .ok t.entries := mapM_map_ok fun _ _ => rfl
  rw [writeTable, readTable, hentries]
  exact congrArg Except.ok t.ofList_entries

@[simp] theorem readOptional_writeOptional (s : Option String) :
    readOptional (writeOptional s) = .ok s := by
  cases s <;> rfl

@[simp] theorem readFormat_name (f : FileFormat) : FileFormat.read (.text f.name) = .ok f := by
  cases f <;> rfl

theorem readInteger_whole {t : IntegerType} {n : Int} (h : t.holds n = true) :
    readInteger t (.number (.whole n)) = .ok n := if_pos h

theorem holds_of_readInteger {t : IntegerType} {d : Document} {n : Int}
    (h : readInteger t d = .ok n) : t.holds n = true := by
  unfold readInteger at h
  split at h
  · split at h
    · cases h
      assumption
    · cases h
  · cases h

/-- A span of time is read as it was written if it is shorter than 213504 days. -/
theorem readTimespan_writeTimespan (d : Timespan) : readTimespan (writeTimespan d) =
    if d.secs < 213504 * 86400 then .ok d else .error (.timespan .overflow) := by
  have hread : readTimespan (writeTimespan d) = (Timespan.parse d.format).mapError .timespan := rfl
  rw [hread, Timespan.parse_format]
  split <;> rfl

/-! ### Records -/

@[simp] theorem documents_text : documents.text = readText := rfl

@[simp] theorem documents_integer : documents.integer = readInteger := rfl

@[simp] theorem documents_items : documents.items = readItems := rfl

@[simp] theorem documents_document : documents.document = .ok := rfl

theorem ok_bind {α β ε : Type} (a : α) (f : α → Except ε β) : (.ok a >>= f) = f a := rfl

theorem error_bind {α β ε : Type} (e : ε) (f : α → Except ε β) :
    (.error e >>= f) = .error e := rfl

namespace Shape

variable {ν ρ : Type}

theorem read_object (sh : Shape Document ρ) (fields : List (String × Document)) :
    sh.read documents (.object fields) =
      match sh.setAll documents [] fields sh.blank with
      | .error e => .error e
      | .ok r =>
        match sh.fields.find? fun f => f.required && !(fields.any (·.1 == f.name)) with
        | some f => .error (.missingField f.name)
        | none => .ok r := by
  have hparts : documents.parts sh.title (.object fields) = .ok (.named fields) := rfl
  rw [read, hparts]
  cases hset : sh.setAll documents [] fields sh.blank with
  | error e => simp [hset, bind, Except.bind]
  | ok r =>
    simp only [hset, bind, Except.bind]
    cases sh.fields.find? fun f => f.required && !(fields.any (·.1 == f.name)) <;> rfl

section Invariant

variable {D : Dialect ν} {sh : Shape ν ρ} {P : ρ → Prop} {v : ν} {r r' : ρ}

theorem of_setNamed (hset : ∀ f ∈ sh.fields, ∀ v r r', P r → f.set v r = .ok r' → P r')
    {seen : List String} {name : String} (hr : P r) (h : sh.setNamed D seen name v r = .ok r') :
    P r' := by
  rw [setNamed] at h
  split at h
  · cases hskip : D.skip v with
    | error e =>
      rw [hskip] at h
      cases h
    | ok u =>
      rw [hskip] at h
      cases h
      exact hr
  · rename_i f hf
    split at h
    · cases h
    · exact hset f (List.mem_of_find?_eq_some hf) v r r' hr h

theorem of_setAll (hset : ∀ f ∈ sh.fields, ∀ v r r', P r → f.set v r = .ok r' → P r') :
    ∀ {fields : List (String × ν)} {seen : List String} {r : ρ}, P r →
      sh.setAll D seen fields r = .ok r' → P r'
  | [], _, _, hr, h => by
    cases h
    exact hr
  | (name, v) :: rest, seen, r, hr, h => by
    rw [setAll] at h
    split at h
    · cases h
    · rename_i r₁ hnamed
      exact of_setAll hset (of_setNamed hset hr hnamed) h

theorem of_setPlaced {title : String} {count : Nat} : ∀ {fields : List (Field ν ρ)},
    (∀ f ∈ fields, ∀ v r r', P r → f.set v r = .ok r' → P r') →
      ∀ {i : Nat} {items : List ν} {r : ρ}, P r →
        setPlaced title count i fields items r = .ok r' → P r'
  | [], _, _, _, _, hr, h => by
    cases h
    exact hr
  | f :: fields, hset, i, [], r, hr, h => by
    rw [setPlaced] at h
    split at h
    · cases h
    · exact of_setPlaced (fun g hg => hset g (List.mem_cons_of_mem f hg)) hr h
  | f :: fields, hset, i, v :: items, r, hr, h => by
    rw [setPlaced] at h
    split at h
    · cases h
    · rename_i r₁ hfield
      exact of_setPlaced (fun g hg => hset g (List.mem_cons_of_mem f hg))
        (hset f List.mem_cons_self v r r₁ hr hfield) h

/-- What holds of a record before any field is set and is kept by setting any of them holds of
every record that is read. -/
theorem of_read (hblank : P sh.blank)
    (hset : ∀ f ∈ sh.fields, ∀ v r r', P r → f.set v r = .ok r' → P r')
    (h : sh.read D v = .ok r) : P r := by
  rw [read] at h
  cases hparts : D.parts sh.title v with
  | error e =>
    rw [hparts] at h
    cases h
  | ok parts =>
    rw [hparts] at h
    cases parts with
    | named fields =>
      cases hall : sh.setAll D [] fields sh.blank with
      | error e => simp [bind, Except.bind, hall] at h
      | ok r₁ =>
        simp only [bind, Except.bind, hall] at h
        split at h
        · cases h
        · cases h
          exact of_setAll hset hblank hall
    | placed items =>
      cases hplaced : setPlaced sh.title sh.fields.length 0 sh.fields items sh.blank with
      | error e => simp [bind, Except.bind, hplaced] at h
      | ok r₁ =>
        have hr₁ := of_setPlaced hset hblank hplaced
        simp only [bind, Except.bind, hplaced] at h
        split at h
        · split at h
          · cases h
          · cases h
            exact hr₁
        · cases h
          exact hr₁

end Invariant

end Shape

/-! ### Settings -/

theorem MapSource.read_write (s : MapSource) : MapSource.read s.write = .ok s := by
  have hwrite : s.write = .object [("mutable", .boolean s.isMutable), ("name", .text s.name),
      ("values", writeTable s.values)] := by
    simp only [write, Document.ofFields, List.foldl_cons, List.foldl_nil, insertEntry,
      String.reduceLT, String.reduceEq, ↓reduceIte]
  rw [hwrite, read, Shape.read_object]
  simp [Shape.setAll, Shape.setNamed, shape, optionalField, readText, readBoolean]

theorem FileSource.read_write (s : FileSource) : FileSource.read s.write = .ok s := by
  have hwrite : s.write = .object [("format", .text s.format.name),
      ("mutable", .boolean s.isMutable), ("name", writeOptional s.name),
      ("optional", .boolean s.isOptional), ("path", .text s.path)] := by
    simp only [write, Document.ofFields, List.foldl_cons, List.foldl_nil, insertEntry,
      String.reduceLT, String.reduceEq, ↓reduceIte]
  rw [hwrite, read, Shape.read_object]
  simp [Shape.setAll, Shape.setNamed, shape, optionalField, readText, readBoolean]

theorem EnvironmentSource.read_write (s : EnvironmentSource) :
    EnvironmentSource.read s.write = .ok s := by
  have hwrite : s.write = .object [("name", .text s.name), ("prefix", writeOptional s.stem)] := by
    simp only [write, Document.ofFields, List.foldl_cons, List.foldl_nil, insertEntry,
      String.reduceLT, String.reduceEq, ↓reduceIte]
  rw [hwrite, read, Shape.read_object]
  simp [Shape.setAll, Shape.setNamed, shape, optionalField, readText]

theorem SystemSource.read_write (s : SystemSource) : SystemSource.read s.write = .ok s := rfl

theorem RemoteSource.read_write (s : RemoteSource) : RemoteSource.read s.write =
    if s.timeout.secs < 213504 * 86400 then .ok s else .error (.timespan .overflow) := by
  have hwrite : s.write = .object [("headers", writeTable s.headers), ("name", .text s.name),
      ("pointer", writeOptional s.pointer), ("timeout", writeTimespan s.timeout),
      ("url", .text s.url)] := by
    simp only [write, Document.ofFields, List.foldl_cons, List.foldl_nil, insertEntry,
      String.reduceLT, String.reduceEq, ↓reduceIte]
  have htime := readTimespan_writeTimespan s.timeout
  rw [hwrite, read, Shape.read_object]
  by_cases hlt : s.timeout.secs < 213504 * 86400
  · rw [if_pos hlt] at htime ⊢
    simp [Shape.setAll, Shape.setNamed, shape, optionalField, readText, htime]
  · rw [if_neg hlt] at htime ⊢
    simp [Shape.setAll, Shape.setNamed, shape, optionalField, readText, htime]

theorem Scheduler.read_write (s : Scheduler) : Scheduler.read s.write =
    if s.interval.secs < 213504 * 86400 then .ok s else .error (.timespan .overflow) := by
  have hwrite : s.write = .object [("interval", writeTimespan s.interval)] := rfl
  have htime := readTimespan_writeTimespan s.interval
  rw [hwrite, read, Shape.read_object]
  by_cases hlt : s.interval.secs < 213504 * 86400
  · rw [if_pos hlt] at htime ⊢
    simp [Shape.setAll, Shape.setNamed, shape, optionalField, htime]
  · rw [if_neg hlt] at htime ⊢
    simp [Shape.setAll, Shape.setNamed, shape, optionalField, htime]

theorem FileWatch.read_write (s : FileWatch) : FileWatch.read s.write =
    if s.debounce.secs < 213504 * 86400 then .ok s else .error (.timespan .overflow) := by
  have hwrite : s.write = .object [("debounce", writeTimespan s.debounce),
      ("path", .text s.path)] := by
    simp only [write, Document.ofFields, List.foldl_cons, List.foldl_nil, insertEntry,
      String.reduceLT, ↓reduceIte]
  have htime := readTimespan_writeTimespan s.debounce
  rw [hwrite, read, Shape.read_object]
  by_cases hlt : s.debounce.secs < 213504 * 86400
  · rw [if_pos hlt] at htime ⊢
    simp [Shape.setAll, Shape.setNamed, shape, optionalField, readText, htime]
  · rw [if_neg hlt] at htime ⊢
    simp [Shape.setAll, Shape.setNamed, shape, optionalField, readText, htime]

/-! ### Declarations -/

theorem TypeOptions.read_write (t : TypeOptions) : TypeOptions.read documents t.write = .ok t := by
  have hwrite : t.write = .object [("options", t.options), ("type", .text t.typeName)] := by
    simp only [write, Document.ofFields, List.foldl_cons, List.foldl_nil, insertEntry,
      String.reduceLT, ↓reduceIte]
  rw [hwrite, read, Shape.read_object]
  simp [Shape.setAll, Shape.setNamed, shape, optionalField, readText]

theorem Layer.read_write {l : Layer} (h : priorityType.holds l.priority = true) :
    Layer.read documents l.write = .ok l := by
  have hwrite : l.write = .object [("priority", .number (.whole l.priority)),
      ("source", l.source.write)] := by
    simp only [write, Document.ofFields, List.foldl_cons, List.foldl_nil, insertEntry,
      String.reduceLT, String.reduceEq, ↓reduceIte]
  rw [hwrite, read, Shape.read_object]
  have hpriority := readInteger_whole h
  have hsource := TypeOptions.read_write l.source
  simp [Shape.setAll, Shape.setNamed, shape, optionalField, hpriority, hsource]

/-- A priority that was read is one of its type. -/
theorem Layer.holds_of_read {d : Document} {l : Layer} (h : Layer.read documents d = .ok l) :
    priorityType.holds l.priority = true := by
  refine Shape.of_read (P := fun l => priorityType.holds l.priority = true) rfl ?_ h
  intro f hf v r r' hr hset
  rcases List.mem_cons.1 hf with rfl | hf
  · cases hpriority : readInteger priorityType v with
    | error e => simp [optionalField, hpriority] at hset
    | ok n =>
      simp only [optionalField, documents_integer, hpriority] at hset
      cases hset
      exact holds_of_readInteger hpriority
  · rw [List.mem_singleton.1 hf] at hset
    cases hsource : TypeOptions.read documents v with
    | error e => simp [hsource] at hset
    | ok t =>
      simp only [hsource] at hset
      cases hset
      exact hr

theorem Registry.read_write {r : Registry}
    (h : ∀ l ∈ r.sources, priorityType.holds l.priority = true) :
    Registry.read documents r.write = .ok r := by
  have hsources : (r.sources.map Layer.write).mapM (Layer.read documents) = .ok r.sources :=
    mapM_map_ok fun l hl => Layer.read_write (h l hl)
  have hwrite : r.write = .object [("sources", .list (r.sources.map Layer.write))] := rfl
  rw [hwrite, read, Shape.read_object]
  simp [Shape.setAll, Shape.setNamed, shape, optionalField, readItems, ok_bind, hsources]

theorem Registry.holds_of_read {d : Document} {r : Registry}
    (h : Registry.read documents d = .ok r) :
    ∀ l ∈ r.sources, priorityType.holds l.priority = true := by
  refine Shape.of_read
    (P := fun r : Registry => ∀ l ∈ r.sources, priorityType.holds l.priority = true) ?_ ?_ h
  · exact fun _ hl => absurd hl List.not_mem_nil
  · intro f hf v r r' hr hset
    rw [List.mem_singleton.1 hf] at hset
    cases hitems : readItems v with
    | error e => simp [optionalField, hitems, error_bind] at hset
    | ok items =>
      cases hlayers : items.mapM (Layer.read documents) with
      | error e =>
        simp [optionalField, hitems, ok_bind, hlayers] at hset
      | ok ls =>
        have hholds := forall_of_mapM (fun _ _ => Layer.holds_of_read) hlayers
        simp only [optionalField, documents_items, hitems, ok_bind, hlayers] at hset
        cases hset
        exact hholds

/-! ### Settings of all kinds -/

/-- The kinds of settings. -/
inductive SettingsKind where
  | map
  | file
  | environment
  | system
  | remote
  | scheduler
  | fileWatch
  | typeOptions
  | registry

namespace SettingsKind

/-- Settings of a kind. -/
@[reducible] def Record : SettingsKind → Type
  | .map => MapSource
  | .file => FileSource
  | .environment => EnvironmentSource
  | .system => SystemSource
  | .remote => RemoteSource
  | .scheduler => Scheduler
  | .fileWatch => FileWatch
  | .typeOptions => TypeOptions
  | .registry => Registry

/-- Reads settings of a kind. -/
def read : (k : SettingsKind) → Document → Except Misfit k.Record
  | .map => MapSource.read
  | .file => FileSource.read
  | .environment => EnvironmentSource.read
  | .system => SystemSource.read
  | .remote => RemoteSource.read
  | .scheduler => Scheduler.read
  | .fileWatch => FileWatch.read
  | .typeOptions => TypeOptions.read documents
  | .registry => Registry.read documents

/-- Writes settings of a kind. -/
def write : (k : SettingsKind) → k.Record → Document
  | .map => MapSource.write
  | .file => FileSource.write
  | .environment => EnvironmentSource.write
  | .system => SystemSource.write
  | .remote => RemoteSource.write
  | .scheduler => Scheduler.write
  | .fileWatch => FileWatch.write
  | .typeOptions => TypeOptions.write
  | .registry => Registry.write

/-- The spans of time among settings. -/
def spans : (k : SettingsKind) → k.Record → List Timespan
  | .remote, c => [c.timeout]
  | .scheduler, c => [c.interval]
  | .fileWatch, c => [c.debounce]
  | .map, _ | .file, _ | .environment, _ | .system, _ | .typeOptions, _ | .registry, _ => []

end SettingsKind

/-- Whatever settings are read, they are read again as they are written, unless there is a span of
time of 213504 days or more among them. Then what is written is refused, for the number of days is
too great for one segment of the text of a span. -/
theorem read_write_settings {k : SettingsKind} {d : Document} {c : k.Record}
    (h : k.read d = .ok c) : k.read (k.write c) =
      if ∀ t ∈ k.spans c, t.secs < 213504 * 86400 then .ok c
      else .error (.timespan .overflow) := by
  cases k with
  | map => exact c.read_write
  | file => exact c.read_write
  | environment => exact c.read_write
  | system => exact c.read_write
  | typeOptions => exact c.read_write
  | registry => exact Registry.read_write (Registry.holds_of_read h)
  | remote =>
    simp only [SettingsKind.spans, List.forall_mem_singleton]
    exact c.read_write
  | scheduler =>
    simp only [SettingsKind.spans, List.forall_mem_singleton]
    exact c.read_write
  | fileWatch =>
    simp only [SettingsKind.spans, List.forall_mem_singleton]
    exact c.read_write

/-- A watch whose span of time is not spelled as it is written. -/
theorem read_write_settings_of_watch :
    FileWatch.read (.object [("debounce", .text "0.5m1h"), ("path", .text "a")]) =
      .ok ⟨"a", .ofSecs 3630⟩ ∧
    FileWatch.read (FileWatch.write ⟨"a", .ofSecs 3630⟩) = .ok ⟨"a", .ofSecs 3630⟩ := by
  have hread : FileWatch.read (.object [("debounce", .text "0.5m1h"), ("path", .text "a")]) =
      .ok ⟨"a", .ofSecs 3630⟩ := by decide +kernel
  exact ⟨hread, (read_write_settings (k := .fileWatch) hread).trans (if_pos (by decide))⟩

/-- A scheduler that waits for as long as two segments can say is written with one segment, and
that cannot be read. -/
theorem not_survives_scheduler : ¬ ∀ (k : SettingsKind) (d : Document) (c : k.Record),
    k.read d = .ok c → k.read (k.write c) = .ok c := by
  intro h
  have hread : Scheduler.read (.object [("interval", .text "213503d213503d")]) =
      .ok ⟨⟨36893318400, 0, by decide, by decide⟩⟩ := by decide +kernel
  have hagain := h .scheduler _ _ hread
  change Scheduler.read (Scheduler.write _) = _ at hagain
  rw [Scheduler.read_write, if_neg (by decide)] at hagain
  cases hagain

end Strata.Config
