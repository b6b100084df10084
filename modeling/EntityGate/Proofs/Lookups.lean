/-
# Lookups

A lookup of entities in a store in memory is noted in its log and in the journal, and changes
nothing else.  Here the states of two runs are compared that do not look up the same: their stores
hold the same, the world around them is the same, and so are their journals but for lookups.  The
calls that do not read the log go the same in both.

A run that only looks entities up keeps to the state in which it begins.  It loads an entity as it
is stored there, wherever the row comes from, and what it looks up in advance fills its cache with
what is stored and does nothing else.  In advance nothing is amiss: an entity that is not there is
passed over, and every batch has the levels that it takes to gather what it refers to.
-/
import EntityGate.Proofs.Coherence
import EntityGate.Proofs.Gathering
import EntityGate.Proofs.Pairing

namespace EntityGate

open Mutating (Triple)
open Rehearsal (Call)

/-! ## Calls that do not read the log -/

namespace Memory

variable {α : Type}

/-- Stores that hold the same and differ at most in their logs. -/
structure SameRows (m m' : Memory) : Prop where
  tables : m.tables = m'.tables
  snapshot : m.snapshot = m'.snapshot
  ids : m.ids = m'.ids
  generated : m.generated = m'.generated

/-- A call of the store that does not read the log. -/
def Oblivious (call : StoreCall Memory α) : Prop :=
  Effect.Paired SameRows call call (fun a b m m' => a = b ∧ SameRows m m') SameRows

lemma newId_sameRows {m m' : Memory} (h : SameRows m m') (id : Option Json) :
    (m.newId id).1 = (m'.newId id).1 ∧ SameRows (m.newId id).2 (m'.newId id).2 := by
  cases id with
  | none => exact ⟨by rw [newId, newId, nextId, nextId, h.ids, h.generated], h.tables, h.snapshot,
      h.ids, congrArg (· + 1) h.generated⟩
  | some id => exact ⟨rfl, h⟩

lemma SameRows.row? {m m' : Memory} (h : SameRows m m') (entityType : String) (id : Json) :
    m.row? entityType id = m'.row? entityType id := by
  rw [row?_eq, row?_eq, h.tables]

lemma SameRows.put {m m' : Memory} (h : SameRows m m') (entityType : String) (id row : Json) :
    SameRows (m.put entityType id row) (m'.put entityType id row) :=
  ⟨by rw [Memory.put, Memory.put, table, table, h.tables], h.snapshot, h.ids, h.generated⟩

lemma SameRows.drop {m m' : Memory} (h : SameRows m m') (entityType : String) (id : Json) :
    SameRows (m.drop entityType id) (m'.drop entityType id) :=
  ⟨by rw [Memory.drop, Memory.drop, table, table, h.tables], h.snapshot, h.ids, h.generated⟩

lemma SameRows.logged {m m' : Memory} (h : SameRows m m') (line : String) :
    SameRows (m.logged line) (m'.logged line) :=
  ⟨h.tables, h.snapshot, h.ids, h.generated⟩

lemma insert_oblivious (schema : Schema) (r : EntityRecord) : Oblivious (insert schema r) := by
  intro m m' h
  obtain ⟨hid, h⟩ := newId_sameRows (h.logged ("insert:" ++ r.entityType)) r.id
  unfold insert
  dsimp only
  rw [← hid, ← h.row?]
  split
  · exact .failed _ h
  · split
    · exact .failed _ h
    · exact .returned ⟨rfl, h.put _ _ _⟩

lemma update_oblivious (schema : Schema) (r : EntityRecord) : Oblivious (update schema r) := by
  intro m m' h
  replace h := h.logged ("update:" ++ r.entityType)
  unfold update
  dsimp only
  split
  · exact .failed _ h
  · rw [← h.row?]
    split
    · exact .failed _ h
    · split
      · exact .returned ⟨rfl, h.put _ _ _⟩
      · exact .failed _ h

lemma remove_oblivious (r : EntityRecord) : Oblivious (remove r) := by
  intro m m' h
  replace h := h.logged ("remove:" ++ r.entityType)
  unfold remove
  dsimp only
  split
  · exact .failed _ h
  · rw [← h.row?]
    split
    · exact .returned ⟨rfl, h.drop _ _⟩
    · exact .failed _ h

lemma begin_oblivious : Oblivious begin := by
  intro m m' h
  unfold begin
  rw [← h.snapshot]
  split
  · exact .failed _ h
  · exact .returned ⟨rfl, h.tables, congrArg some h.tables, h.ids, h.generated⟩

lemma commit_oblivious : Oblivious commit := by
  intro m m' h
  unfold commit
  rw [← h.snapshot]
  split
  · exact .returned ⟨rfl, h.tables, rfl, h.ids, h.generated⟩
  · exact .failed _ h

lemma rollback_oblivious : Oblivious rollback := by
  intro m m' h
  unfold rollback
  rw [← h.snapshot]
  split
  · exact .returned ⟨rfl, rfl, rfl, h.ids, h.generated⟩
  · exact .failed _ h

lemma flush_oblivious (schema : Schema) : Oblivious (persistence schema).flush :=
  fun _ _ h => .returned ⟨rfl, h⟩

end Memory

/-! ## Runs that differ in lookups -/

/-- Whether a happening is a lookup of entities. -/
def Happening.isLookup : Happening → Bool
  | called (.findIn _ _) _ => true
  | _ => false

namespace Surrounded

variable {ω α : Type}

/-- A world that leaves all calls alone. -/
def undisturbed (_ : Call) (world : ω) : Option Disturbance × ω := (none, world)

/-- A listener that works on the world and neither reads nor changes the store. -/
def ActsOnWorld (l : Subscription (Surrounded ω)) : Prop :=
  ∀ event entityType payload, ∃ act : ω → Except Fault Json × ω, ∀ s : Surrounded ω,
    l.listener event entityType payload s =
      ((act s.world).1, { s with world := (act s.world).2 })

/-- States that are the same but for what was looked up on the way. -/
structure SameButLookups (w w' : Journaled (Surrounded ω)) : Prop where
  store : w.state.store.SameRows w'.state.store
  world : w.state.world = w'.state.world
  journal : w.journal.filter (fun h => !h.isLookup) = w'.journal.filter (fun h => !h.isLookup)

namespace SameButLookups

variable {w w' w'' : Journaled (Surrounded ω)}

lemma refl (w : Journaled (Surrounded ω)) : SameButLookups w w := ⟨⟨rfl, rfl, rfl, rfl⟩, rfl, rfl⟩

lemma symm (h : SameButLookups w w') : SameButLookups w' w :=
  ⟨⟨h.store.tables.symm, h.store.snapshot.symm, h.store.ids.symm, h.store.generated.symm⟩,
    h.world.symm, h.journal.symm⟩

lemma trans (h : SameButLookups w w') (h' : SameButLookups w' w'') : SameButLookups w w'' :=
  ⟨⟨h.store.tables.trans h'.store.tables, h.store.snapshot.trans h'.store.snapshot,
    h.store.ids.trans h'.store.ids, h.store.generated.trans h'.store.generated⟩,
    h.world.trans h'.world, h.journal.trans h'.journal⟩

/-- The same happens next. -/
lemma snoc (h : SameButLookups w w') {m m' : Memory} (hm : m.SameRows m') (world : ω)
    (happening : Happening) :
    SameButLookups ⟨⟨m, world⟩, w.journal ++ [happening]⟩ ⟨⟨m', world⟩, w'.journal ++ [happening]⟩
      where
  store := hm
  world := rfl
  journal := by rw [List.filter_append, List.filter_append, h.journal]

end SameButLookups

/-- What a call of the store comes to that is noted and not disturbed. -/
lemma noting_below_run (note : Bool → Happening) (call : StoreCall Memory α)
    (w : Journaled (Surrounded ω)) : Journaled.noting note (below call) w =
      match call w.state.store with
      | (.ok a, m) => (.ok a, ⟨⟨m, w.state.world⟩, w.journal ++ [note true]⟩)
      | (.error text, m) => (.error text, ⟨⟨m, w.state.world⟩, w.journal ++ [note false]⟩) := by
  rw [Journaled.noting_run, below]
  cases call w.state.store with
  | mk result m => cases result <;> rfl

/-- A call that answers has answered for the store. -/
lemma store_of_noting {note : Bool → Happening} {call : StoreCall Memory α}
    {w w' : Journaled (Surrounded ω)} {a : α}
    (h : Journaled.noting note (below call) w = (.ok a, w')) :
    call w.state.store = (.ok a, w'.state.store) := by
  rw [noting_below_run] at h
  split at h
  · rename_i hcall
    cases h
    exact hcall
  · cases h

/-- A call that does not read the log goes the same in both states. -/
lemma noting_below_paired {call : StoreCall Memory α} (hcall : Memory.Oblivious call)
    (note : Bool → Happening) :
    Effect.Paired (SameButLookups (ω := ω)) (Journaled.noting note (below call))
      (Journaled.noting note (below call)) (fun a b w w' => a = b ∧ SameButLookups w w')
      SameButLookups := by
  intro w w' h
  rw [noting_below_run, noting_below_run, ← h.world]
  rcases hcall.outcomes h.store with
    ⟨a, b, m, m', hrun, hrun', rfl, hm⟩ | ⟨text, m, m', hrun, hrun', hm⟩
  · rw [hrun, hrun']
    exact .returned ⟨rfl, h.snoc hm _ _⟩
  · rw [hrun, hrun']
    exact .failed text (h.snoc hm _ _)

/-- So after any such call the states are again the same but for lookups. -/
lemma noting_below_sameButLookups {call : StoreCall Memory α} (hcall : Memory.Oblivious call)
    (note : Bool → Happening) :
    Effect.Paired (SameButLookups (ω := ω)) (Journaled.noting note (below call))
      (Journaled.noting note (below call)) (fun _ _ => SameButLookups) SameButLookups :=
  (noting_below_paired hcall note).weaken (fun _ _ h => h) (fun _ _ _ _ h => h.2) fun _ _ h => h

end Surrounded

open Surrounded

/-! ## Lookups -/

namespace Gate

variable {ω : Type} {gate : Gate (Surrounded ω)} {schema : Schema}

/-- Some part of a run has changed nothing but lookups since a moment, and what is in the cache is
what is stored. -/
def UpToLookups (begun : Journaled (Surrounded ω)) (cache : CallCache)
    (w : Journaled (Surrounded ω)) : Prop :=
  SameButLookups w begun ∧ Coherent cache w.state.store.tables

section

variable (hstore : gate.persistence = Surrounded.persistence undisturbed schema)
include hstore

lemma journaled_persistence : gate.journaled.persistence =
    Journaled.persistence (Surrounded.persistence undisturbed schema) :=
  congrArg Journaled.persistence hstore

/-- A lookup finds what is stored. -/
lemma findIn_upToLookups (begun : Journaled (Surrounded ω)) (entityType : String)
    (ids : List Json) (cache : CallCache) : Effect.Triple (UpToLookups begun cache)
      (Effect.ofStore (gate.journaled.persistence.findIn entityType ids))
      (fun rows w => rows = ids.filterMap (begun.state.store.row? entityType) ∧
        UpToLookups begun cache w) fun _ _ => False := by
  refine .ofStore fun w h => ?_
  have hfind : gate.journaled.persistence.findIn entityType ids =
      Journaled.noting (.called (.findIn entityType ids))
        (below (Memory.findIn entityType ids)) := by
    rw [journaled_persistence hstore]
    rfl
  -- the row is sought in the present store, which holds what it held at the beginning
  have hrows : w.state.store.row? entityType = begun.state.store.row? entityType :=
    funext (h.1.store.row? entityType)
  rw [hfind, noting_below_run]
  refine ⟨by rw [← hrows], ⟨⟨h.1.store.tables, h.1.store.snapshot, h.1.store.ids,
    h.1.store.generated⟩, h.1.world, ?_⟩, h.2⟩
  -- the lookup itself is the one thing that is left out of the comparison
  rw [List.filter_append, ← h.1.journal]
  exact List.append_nil _

/-- An entity is loaded as it is stored. -/
lemma load_upToLookups (begun : Journaled (Surrounded ω)) (entityType : String) (id : Json) :
    Triple (UpToLookups begun) (gate.journaled.load entityType id)
      (fun row cache w => begun.state.store.row? entityType id = some row ∧
        UpToLookups begun cache w)
      fun f w => (begun.state.store.row? entityType id = none ∧
        f = .entityNotFound entityType (idKey id)) ∧ SameButLookups w begun := by
  refine .bind (m := fun kept cache w => (∀ row, kept.row? entityType id = some row →
    begun.state.store.row? entityType id = some row) ∧ UpToLookups begun cache w)
    (.getCache fun cache w h => ⟨fun row hrow => ?_, h⟩) fun kept => .of_fact fun hkept => ?_
  · rw [← h.1.store.row?]
    exact h.2.current entityType (idKey id) row hrow
  split
  · rename_i row hrow
    exact .pure fun _ _ h => ⟨hkept row hrow, h⟩
  · refine .bind (m := fun rows cache w => rows =
        [id].filterMap (begun.state.store.row? entityType) ∧ UpToLookups begun cache w)
      (.ofEffect fun cache => (findIn_upToLookups hstore begun entityType [id] cache).weaken
        (fun _ h => h) (fun _ _ h => h) fun _ _ h => h.elim) fun rows => .of_fact ?_
    rintro rfl
    cases hrow : begun.state.store.row? entityType id with
    | none =>
      rw [List.filterMap_cons_none hrow]
      exact .throw fun _ _ h => ⟨⟨rfl, rfl⟩, h.1⟩
    | some row =>
      rw [List.filterMap_cons_some hrow]
      refine .bind (m := fun _ => UpToLookups begun) (.modifyCache fun cache w h => ⟨h.1, ?_⟩)
        fun _ => .pure fun _ _ h => ⟨rfl, h⟩
      exact h.2.store ((h.1.store.row? entityType id).trans hrow)

/-- What is fetched is put into the cache as it is stored, and nothing is amiss if an entity is not
there. -/
lemma fetch_upToLookups (begun : Journaled (Surrounded ω)) (entityType : String)
    (ids : List Json) : Triple (UpToLookups begun) (gate.journaled.fetch entityType ids)
      (fun _ => UpToLookups begun) fun _ _ => False := by
  refine .bind (m := fun _ => UpToLookups begun) (.getCache fun _ _ h => h) fun kept => ?_
  generalize missingIds kept entityType ids = missing
  split
  · exact .keep _
  · refine .bind (m := fun rows cache w => rows =
        missing.filterMap (begun.state.store.row? entityType) ∧ UpToLookups begun cache w)
      (.ofEffect fun cache => findIn_upToLookups hstore begun entityType missing cache)
      fun rows => .of_fact ?_
    rintro rfl
    refine .modifyCache fun cache w h => ⟨h.1, ?_⟩
    have hstored : ∀ row ∈ missing.filterMap (begun.state.store.row? entityType),
        ∃ key, w.state.store.tables.at? entityType key = some row := by
      intro row hrow
      obtain ⟨id, -, hfound⟩ := List.mem_filterMap.mp hrow
      exact ⟨idKey id, (h.1.store.row? entityType id).trans hfound⟩
    exact h.2.storeAll hstored

/-- Looking entities up in advance fills the cache and does nothing else. -/
lemma prefetch_upToLookups (hassign : ∀ entityType,
      schema.association? entityType "assignType" = none) (begun : Journaled (Surrounded ω))
    (b : Batch) : Triple (UpToLookups begun) (gate.journaled.prefetch b)
      (fun _ => UpToLookups begun) fun _ _ => False := by
  have hschema : gate.journaled.persistence.schema = schema := by
    rw [journaled_persistence hstore]
    rfl
  obtain ⟨refs, hrefs⟩ := Option.isSome_iff_exists.mp (References.isSome_ofBatch? hassign _ b)
  unfold prefetch
  rw [hschema, hrefs]
  exact .forM fun entry _ => fetch_upToLookups hstore begun entry.1 entry.2

end

end Gate

end EntityGate
