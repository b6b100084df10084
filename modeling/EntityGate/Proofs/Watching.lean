/-
# The cache at every moment of a mutation

To say what is in the cache of the call while a mutation runs, the mutation is watched: before and
after each thing that it does, the cache and the state are noted.  A mutation loads an entity,
fetches the entities of a type, passes an event to its listeners, and writes a record and remembers
its row.  All else are decisions.  A write and what it leaves in the cache are one step, since
nothing is looked up and nobody is told anything between the two.

Watching is only written and never read by the run, so the run is that of the mutation itself.  Over
a store in memory, with listeners that leave the store alone, the rows in the cache are those in the
store at every moment, and an entity would be loaded as it is stored.
-/
import EntityGate.Proofs.Prefetching
import EntityGate.Proofs.Tasks

namespace EntityGate

open Mutating (Triple Returns ofEffect ofDecision)
open Surrounded

/-! ## Watching -/

/-- What is in the cache of the call at some moment of a mutation, and the state. -/
structure Glimpse (σ : Type) where
  cache : CallCache
  state : σ

/-- A state with the moments that were noted so far. -/
structure Watched (σ : Type) where
  state : σ
  moments : List (Glimpse σ)

namespace Watched

variable {σ α ε : Type}

/-- Run something on the state itself. -/
def below (run : ExceptT ε (StateM σ) α) : ExceptT ε (StateM (Watched σ)) α := fun w =>
  let (result, state) := run w.state
  (result, { w with state })

/-- Note the present moment. -/
def look : Mutating (Watched σ) Unit := do
  let cache ← get
  ofEffect fun w => (.ok (), { w with moments := w.moments ++ [⟨cache, w.state⟩] })

/-- Do something, and note the moments before and after it. -/
def around (p : Mutating (Watched σ) α) : Mutating (Watched σ) α := do
  look
  let a ← p
  look
  return a

end Watched

namespace Gate

open Watched (around)

variable {σ : Type} (gate : Gate σ)

/-- The gate below the moments that are noted. -/
def watched : Gate (Watched σ) := gate.lifted Watched.below

/-- Look up all entities that a batch refers to, and watch what is fetched of each type. -/
def watchPrefetch (b : Batch) : Mutating (Watched σ) Unit :=
  match References.ofBatch? gate.persistence.schema gate.bareLevels b with
  | none => throw .nestedTooDeeply
  | some refs => refs.entries.forM fun (entityType, ids) =>
    around (gate.watched.fetch entityType ids)

/-- Persist a record, and watch its two events and its write. -/
def watchPersist (action : Action) (r : EntityRecord) : Mutating (Watched σ) EntityRecord := do
  let payload ← around (ofEffect (gate.watched.publish .beforePersist action.entityType r.toRow))
  let sent := match payload with
    | .obj fields => r.withFields fields
    | _ => r
  let row ← around (gate.watched.writeRemembered action.chain sent)
  let _ ← around (ofEffect (gate.watched.publish .afterPersist action.entityType row))
  return sent.received row

/-- Bind an entry and write its record, and watch how it starts, each member and the end. -/
def watchEntry (run : String → Chain → Entry → Mutating (Watched σ) EntityRecord)
    (action : Action) (e : Entry) : Mutating (Watched σ) EntityRecord := do
  let r ← around (gate.watched.startRecord action e)
  let r ← e.members.foldlM (fun r (field, v) =>
    around (gate.watched.bindMember run action r field v)) r
  let r ← ofDecision (r.prepared gate.registry gate.validator action)
  gate.watchPersist action r

/-- Run a batch, and watch everything that is done for it and for the entries of chain requests. -/
def watchBatch : Nat → EntityConfig → Batch → Mutating (Watched σ) (List EntityRecord)
  | 0, _, _ => throw .nestedTooDeeply
  | levels + 1, config, b => do
    let action ← gate.watched.openBatchWith gate.watchPrefetch config b
    b.entries.mapM (gate.watchEntry (fun target chain e =>
      around (gate.watched.runEntry (watchBatch levels) b.frontEnd target chain e)) action)

/-- Mutate, and watch how the batch is run. -/
def watchMutate (entityType : String) (chain : Chain) (params : Json) (overrides : CallOptions)
    (frontEnd : FrontEndOptions) : Effect (Watched σ) (List EntityRecord) := do
  let p ← Effect.ofExcept (gate.plan entityType chain params overrides frontEnd)
  gate.watched.carryOutWith (gate.watchBatch (p.batch.levels + gate.addedLevels) p.config p.batch)
    entityType p

end Gate

/-! ## The run that is watched -/

namespace Watched

variable {σ α : Type}

/-- The state without the moments. -/
def Over (w : Watched σ) (s : σ) : Prop := w.state = s

/-- The state with some moments. -/
def ofState (moments : List (Glimpse σ)) (s : σ) : Watched σ := ⟨s, moments⟩

lemma exists_ofState (w : Watched σ) : ∃ moments s, ofState moments s = w :=
  ⟨w.moments, w.state, rfl⟩

/-- Looking changes nothing below. -/
lemma around_alike {p : Mutating (Watched σ) α} {p' : Mutating σ α}
    (h : Mutating.Alike Over p p') : Mutating.Alike Over (around p) p' := by
  have hlook : ∀ {β : Type} {q : Mutating (Watched σ) β} {q' : Mutating σ β},
      Mutating.Alike Over q q' → Mutating.Alike Over (look >>= fun _ => q) q' :=
    fun hq cache w s hw => hq cache _ s hw
  have hend : p' = (p' >>= fun a => pure a) := (bind_pure _).symm
  rw [hend]
  exact hlook (h.bind fun a => hlook (.pure a))

end Watched

namespace Gate

open Watched (Over around around_alike)

variable {σ : Type} (gate : Gate σ)

lemma watched_alike : gate.watched.Alike Over gate :=
  lifted_alike _ (fun _ _ _ hws => hws ▸ ⟨rfl, rfl⟩) gate

/-- The steps of a mutation leave the moments alone. -/
lemma watched_alike_ofState (moments : List (Glimpse σ)) :
    gate.watched.Alike (fun w s => w = .ofState moments s) gate :=
  lifted_alike _ (fun _ _ _ hws => hws ▸ ⟨rfl, rfl⟩) gate

variable {gate}

lemma watchPrefetch_alike (b : Batch) :
    Mutating.Alike Over (gate.watchPrefetch b) (gate.prefetch b) := by
  unfold watchPrefetch prefetch
  cases References.ofBatch? gate.persistence.schema gate.bareLevels b with
  | none => exact .throw _
  | some refs =>
    refine .forM (fun entry => ?_) refs.entries
    exact around_alike (gate.watched_alike.fetch entry.1 entry.2)

lemma Alike.writeRemembered {τ : Type} {R : σ → τ → Prop} {gate' : Gate τ} (h : gate.Alike R gate')
    (chain : Chain) (r : EntityRecord) :
    Mutating.Alike R (gate.writeRemembered chain r) (gate'.writeRemembered chain r) :=
  (Mutating.Alike.ofEffect (h.writeRecord chain r).ofStore).bind fun _ =>
    (Mutating.Alike.modifyCache _).bind fun _ => .pure _

lemma watchPersist_alike (action : Action) (r : EntityRecord) :
    Mutating.Alike Over (gate.watchPersist action r) (gate.persist action r) := by
  have h := gate.watched_alike
  rw [persist_eq]
  refine (around_alike (.ofEffect (h.publish _ _ _))).bind fun payload => ?_
  refine (around_alike (h.writeRemembered _ _)).bind fun row => ?_
  exact (around_alike (.ofEffect (h.publish _ _ _))).bind fun _ => .pure _

lemma watchEntry_alike {run : String → Chain → Entry → Mutating (Watched σ) EntityRecord}
    {run' : String → Chain → Entry → Mutating σ EntityRecord}
    (hrun : ∀ target chain e, Mutating.Alike Over (run target chain e) (run' target chain e))
    (action : Action) (e : Entry) :
    Mutating.Alike Over (gate.watchEntry run action e) (gate.bindEntry run' action e) := by
  have h := gate.watched_alike
  refine (around_alike (h.startRecord action e)).bind fun r => ?_
  refine Mutating.Alike.bind ?_ fun r => ?_
  · refine .foldlM (fun r member => ?_) e.members r
    exact around_alike (h.bindMember hrun action r member.1 member.2)
  · exact (Mutating.Alike.ofDecision _).bind fun r => watchPersist_alike action r

/-- A batch that is watched returns and does what it returns and does otherwise. -/
theorem watchBatch_alike (levels : Nat) : ∀ config b,
    Mutating.Alike Over (gate.watchBatch levels config b) (gate.runBatch levels config b) := by
  induction levels with
  | zero =>
    intro config b
    rw [watchBatch, runBatch]
    exact .throw _
  | succ levels ih =>
    intro config b
    rw [watchBatch, runBatch_succ]
    have hrun : ∀ target chain e, Mutating.Alike Over
        (around (gate.watched.runEntry (gate.watchBatch levels) b.frontEnd target chain e))
        (gate.runEntry (gate.runBatch levels) b.frontEnd target chain e) :=
      fun target chain e => around_alike (gate.watched_alike.runEntry ih b.frontEnd target chain e)
    rw [openBatch_eq]
    exact (gate.watched_alike.openBatchWith (watchPrefetch_alike b) config).bind fun action =>
      .mapM (watchEntry_alike hrun action) b.entries

/-- So does a mutation. -/
theorem watchMutate_alike (gate : Gate σ) (entityType : String) (chain : Chain) (params : Json)
    (overrides : CallOptions) (frontEnd : FrontEndOptions) :
    EntityGate.Alike Over (gate.watchMutate entityType chain params overrides frontEnd)
      (gate.mutate entityType chain params overrides frontEnd) := by
  rw [mutate_eq]
  refine (EntityGate.Alike.ofExcept _).bind fun p => ?_
  exact gate.watched_alike.carryOutWith (watchBatch_alike _ p.config p.batch) entityType p

end Gate

/-! ## What is so at every moment -/

namespace Mutating

variable {σ α : Type}

/-- A part that returns values of some kind only does so when it is watched. -/
lemma Returns.around {p : Mutating (Watched σ) α} {post : α → Prop} (h : Returns p post) :
    Returns (Watched.around p) post :=
  .after _ fun _ => h.bind fun _ ha => .after _ fun _ => .pure ha

/-- A fact that does not depend on the state goes on to hold. -/
lemma Triple.with_fact {p : Mutating σ α} {pre : CallCache → σ → Prop}
    {post : α → CallCache → σ → Prop} {fail : Fault → σ → Prop} (h : Triple pre p post fail)
    (φ : Prop) : Triple (fun cache s => pre cache s ∧ φ) p (fun a cache s => post a cache s ∧ φ)
      fun f s => fail f s ∧ φ :=
  fun cache s ⟨hs, hφ⟩ => ((h cache).weaken (fun _ hs => hs) (fun _ _ hs => ⟨hs, hφ⟩)
    fun _ _ hs => ⟨hs, hφ⟩) s hs

end Mutating

namespace Watched

variable {σ α : Type} {J : CallCache → σ → Prop}

/-- At every moment that was noted an assertion held. -/
def Noted (J : CallCache → σ → Prop) (w : Watched σ) : Prop :=
  ∀ m ∈ w.moments, J m.cache m.state

/-- An assertion holds now and held at every moment that was noted. -/
def Seen (J : CallCache → σ → Prop) (cache : CallCache) (w : Watched σ) : Prop :=
  J cache w.state ∧ w.Noted J

/-- An assertion that holds may be noted. -/
lemma look_triple {fail : Fault → Watched σ → Prop} :
    Triple (Seen J) look (fun _ => Seen J) fail := by
  rintro cache w ⟨hnow, hnoted⟩
  exact ⟨hnow, List.forall_mem_append.mpr ⟨hnoted, List.forall_mem_singleton.mpr hnow⟩⟩

lemma around_triple {p : Mutating (Watched σ) α}
    (h : Triple (Seen J) p (fun _ => Seen J) fun _ => Noted J) :
    Triple (Seen J) (around p) (fun _ => Seen J) fun _ => Noted J :=
  look_triple.bind fun _ => h.bind fun a => look_triple.bind fun _ => .keep a

/-- A part of a mutation that leaves the moments alone keeps what it keeps below them. -/
lemma seen_of_alike {p : Mutating (Watched σ) α} {p' : Mutating σ α}
    (halike : ∀ moments, Mutating.Alike (fun w s => w = ofState moments s) p p')
    (h : Triple J p' (fun _ => J) fun _ _ => True) :
    Triple (Seen J) p (fun _ => Seen J) fun _ => Noted J :=
  .of_images exists_ofState halike fun moments =>
    (h.with_fact (∀ m ∈ moments, J m.cache m.state)).weaken (fun _ _ hs => hs)
      (fun _ _ _ hs => hs) fun _ _ hs => hs.2

/-- What is below leaves the moments alone. -/
lemma below_kept {ε : Type} (P : List (Glimpse σ) → Prop) (run : ExceptT ε (StateM σ) α) :
    Gate.StateKept (fun w => P w.moments) (below run) := fun _ hw => hw

end Watched

namespace Gate

open Watched (around around_triple Seen Noted)

variable {σ : Type} {gate : Gate σ}

/-- Lookups, listeners and writes keep an assertion about the cache and the state.  No record that
is written has a change of its id. -/
structure KeepsSteps (gate : Gate σ) (J : CallCache → σ → Prop) : Prop where
  lookups : gate.KeepsLookups J fun _ _ => True
  write : ∀ chain ≠ .read, ∀ r : EntityRecord, (∀ c ∈ r.changes, c.relation ≠ "id") →
    Triple J (gate.writeRemembered chain r) (fun _ => J) fun _ _ => True

namespace KeepsSteps

variable {J : CallCache → σ → Prop} (h : gate.KeepsSteps J)
include h

/-- Lookups and listeners keep what was so at every moment. -/
lemma watched : gate.watched.KeepsLookups (Seen J) fun _ => Noted J where
  load entityType id := Watched.seen_of_alike
    (fun moments => (gate.watched_alike_ofState moments).load entityType id)
    (h.lookups.load entityType id)
  fetch entityType ids := Watched.seen_of_alike
    (fun moments => (gate.watched_alike_ofState moments).fetch entityType ids)
    (h.lookups.fetch entityType ids)
  publish event hevent entityType payload := Watched.seen_of_alike
    (fun moments =>
      .ofEffect ((gate.watched_alike_ofState moments).publish event entityType payload))
    (h.lookups.publish event hevent entityType payload)
  fault _ _ _ hw := hw.2

lemma watchPrefetch (b : Batch) :
    Triple (Seen J) (gate.watchPrefetch b) (fun _ => Seen J) fun _ => Noted J := by
  unfold Gate.watchPrefetch
  split
  · exact h.watched.finds.throw _
  · exact .forM fun entry _ => around_triple (h.watched.fetch entry.1 entry.2)

lemma watchPersist {action : Action} (hread : action.chain ≠ .read) {r : EntityRecord}
    (hr : ∀ c ∈ r.changes, c.relation ≠ "id") :
    Triple (Seen J) (gate.watchPersist action r) (fun _ => Seen J) fun _ => Noted J := by
  refine (around_triple (h.watched.publish _ (by decide) _ _)).bind fun payload => ?_
  refine Triple.bind (m := fun _ => Seen J) (around_triple ?_) fun row => ?_
  · refine Watched.seen_of_alike
      (fun moments => (gate.watched_alike_ofState moments).writeRemembered _ _)
      (h.write _ hread _ ?_)
    -- listeners may have replaced the fields of the record, but not its changes
    cases payload <;> exact hr
  · exact (around_triple (h.watched.publish _ (by decide) _ _)).bind fun _ => .keep _

/-- An entry keeps what was so at every moment if the entries nested in it do. -/
lemma watchEntry {run : String → Chain → Entry → Mutating (Watched σ) EntityRecord}
    (hrun : ∀ target chain e, Triple (Seen J) (run target chain e) (fun _ => Seen J)
      fun _ => Noted J) {action : Action} (hread : action.chain ≠ .read) (e : Entry) :
    Triple (Seen J) (gate.watchEntry run action e) (fun _ => Seen J) fun _ => Noted J := by
  refine .bind ((startRecord_returns e).around.and
    (around_triple (h.watched.startRecord action e))) fun start => ?_
  refine .of_fact fun ⟨htype, hnone⟩ => ?_
  have hmembers : Returns (e.members.foldlM (fun r (field, v) =>
      around (gate.watched.bindMember run action r field v)) start)
      (start.Advanced gate.persistence.schema action.entityType (e.members.map Prod.fst)) := by
    refine .foldlM (fun r member hmember hr => ?_) (.refl start)
    rw [bindMember_eq]
    exact (bindMemberWith_returns (List.mem_map_of_mem hmember) r member.2).around.mono
      fun _ hr' => hr.trans hr'
  refine .bind (hmembers.and (.foldlM (I := fun _ => Seen J) (fun r member _ => around_triple
    (h.watched.bindMember hrun action r member.1 member.2)) start)) fun bound => ?_
  refine .of_fact fun hbound => ?_
  refine (Triple.decided h.watched.fault).bind fun ready => .of_fact fun hready => ?_
  have hmakes : gate.Makes action e start bound ready := ⟨htype, hnone, hbound, hready⟩
  exact h.watchPersist hread fun c hc => hmakes.relation_ne_id hc

/-- What the steps of a mutation keep is so at every moment of a batch. -/
theorem watchBatch (levels : Nat) : ∀ config b,
    Triple (Seen J) (gate.watchBatch levels config b) (fun _ => Seen J) fun _ => Noted J := by
  induction levels with
  | zero =>
    intro config b
    exact h.watched.finds.throw _
  | succ levels ih =>
    intro config b
    rw [Gate.watchBatch]
    refine Triple.bind (openBatchWith_of_prefetch h.watched.fault (h.watchPrefetch b)
      fun _ _ _ _ _ _ _ hw => hw) fun action => .of_fact ?_
    rintro ⟨rules, hrules, rfl, -⟩
    have hread := EntityConfig.chain_ne_read hrules
    have hrun : ∀ target chain e, Triple (Seen J)
        (around (gate.watched.runEntry (gate.watchBatch levels) b.frontEnd target chain e))
        (fun _ => Seen J) fun _ => Noted J :=
      fun target chain e => around_triple (h.watched.runEntry ih b.frontEnd target chain e)
    exact (Triple.mapM fun e _ => h.watchEntry hrun hread e).weaken (fun _ _ hw => hw)
      (fun _ _ _ hw => hw.2) fun _ _ hw => hw

/-- What holds of a cache without rows and is kept by the steps of a mutation is so at every moment
of the mutation. -/
theorem watchMutate (hbegin : StateKept (J .empty) gate.persistence.begin) {s : σ}
    (hs : J .empty s) (entityType : String) (chain : Chain) (params : Json)
    (overrides : CallOptions) (frontEnd : FrontEndOptions) :
    ((gate.watchMutate entityType chain params overrides frontEnd).outcome ⟨s, []⟩).2.Noted J := by
  have hkept : ∀ {ε α : Type} (run : ExceptT ε (StateM σ) α),
      StateKept (Noted J) (Watched.below run) :=
    Watched.below_kept fun moments => ∀ m ∈ moments, J m.cache m.state
  have hmutate : Effect.Triple (Seen J .empty)
      (gate.watchMutate entityType chain params overrides frontEnd) (fun _ => Noted J)
      fun _ => Noted J := by
    refine Effect.Triple.bind (m := fun _ => Seen J .empty)
      (.ofExcept (fun _ _ _ hw => hw) fun _ _ _ hw => hw.2) fun p => ?_
    refine carryOutWith_triple (performWith_withoutCache_triple
      (((h.watchBatch _ p.config p.batch).withoutCache).weaken (fun _ hw => hw)
        (fun _ _ hw => hw.elim fun _ hw => hw.2) fun _ _ hw => hw) (fun _ hw => hw.2)
      (fun _ _ hw => hw) (fun w hw => ⟨hbegin w.state hw.1, hw.2⟩) (fun _ => hkept _)
      (fun _ => hkept _) (hkept _)) (fun _ _ hw => hw) ?_
    rintro l hl event - - entityType payload
    obtain ⟨l', -, rfl⟩ := List.mem_map.mp hl
    exact hkept _
  have hend := hmutate ⟨s, []⟩ ⟨hs, List.forall_mem_nil _⟩
  rw [Effect.outcome]
  split at hend <;> rename_i hrun <;> rw [hrun] <;> exact hend

end KeepsSteps

end Gate

/-! ## The rows in the cache and the store -/

/-- A listener that works on the world leaves alone what is in the store. -/
lemma Surrounded.ActsOnWorld.kept {ω : Type} {l : Subscription (Surrounded ω)}
    (h : ActsOnWorld l) (I : Memory → Prop) (event : Event) (entityType : String)
    (payload : Json) :
    Gate.StateKept (fun s => I s.store) (l.listener event entityType payload) := by
  obtain ⟨act, hact⟩ := h event entityType payload
  intro s hs
  rw [hact]
  exact hs

namespace Gate

section

variable {ω : Type} {gate : Gate (Surrounded ω)} {schema : Schema}
  (hstore : gate.persistence = Surrounded.persistence undisturbed schema)
include hstore

/-- An entity is loaded as it is stored, and is not found if it is not there. -/
lemma load_stored (s : Surrounded ω) (entityType : String) (id : Json) :
    Triple (fun cache s' => s' = s ∧ Coherent cache s'.store.tables) (gate.load entityType id)
      (fun row cache s' => s.store.row? entityType id = some row ∧ Coherent cache s'.store.tables)
      fun f _ => s.store.row? entityType id = none ∧
        f = .entityNotFound entityType (idKey id) := by
  refine Triple.of_journaled ((journaled_alike gate).load entityType id) (.of_state ?_)
  rintro cache w ⟨rfl, h⟩
  refine (load_upToLookups hstore w entityType id).weaken ?_ (fun _ _ _ hw => ⟨hw.1, hw.2.2⟩)
    fun _ _ hw => hw.1
  rintro _ _ ⟨rfl, rfl⟩
  exact ⟨.refl _, h⟩

/-- What the store does when a record is written. -/
lemma wrote_of_undisturbed {chain : Chain} (hread : chain ≠ .read) {r : EntityRecord}
    {s s' : Surrounded ω} {row : Json} (h : gate.writeRecord chain r s = (.ok row, s')) :
    Memory.Wrote schema r s.store row s'.store chain := by
  obtain ⟨result, w, s'', hw, hs, rfl⟩ :=
    ((journaled_alike gate).writeRecord chain r).run_eq (kept_opening s)
  rw [hs] at h
  cases h
  exact wrote_of_journaled hstore hread hw

/-- Every step of a mutation leaves the rows in the cache as they are stored. -/
lemma coherent_keepsSteps (hlisteners : ∀ l ∈ gate.events, ActsOnWorld l) :
    gate.KeepsSteps fun cache s => Coherent cache s.store.tables where
  lookups := {
    load := fun entityType id => .of_state fun cache s h =>
      (load_stored hstore s entityType id).weaken (fun _ _ ⟨hcache, hs⟩ => ⟨hs, hcache ▸ hs ▸ h⟩)
        (fun _ _ _ hs => hs.2) fun _ _ _ => trivial
    fetch := fun entityType ids => by
      refine Triple.of_journaled ((journaled_alike gate).fetch entityType ids) (.of_state ?_)
      intro cache w h
      refine (fetch_upToLookups hstore w entityType ids).weaken ?_ (fun _ _ _ hw => hw.2)
        fun _ _ hw => hw.elim
      rintro _ _ ⟨rfl, rfl⟩
      exact ⟨.refl _, h⟩
    publish := fun event _ entityType payload => .ofEffect fun cache => by
      have hkept : ∀ l ∈ gate.events, ∀ entityType payload,
          StateKept (fun s => Coherent cache s.store.tables)
            (l.listener event entityType payload) := fun l hl =>
        (hlisteners l hl).kept (fun m => Coherent cache m.tables) event
      exact (publish_keeps hkept entityType payload).weaken (fun _ hs => hs) (fun _ _ hs => hs)
        fun _ _ _ => trivial
    fault := fun _ _ _ _ => trivial }
  write chain hread r hr := by
    intro cache s h
    rw [writeRemembered_run]
    cases hrun : gate.writeRecord chain r s with
    | mk result s' =>
      cases result with
      | ok row =>
        exact h.wrote (wrote_of_undisturbed hstore hread hrun) (Memory.keepsId_of_changes hr)
      | error text => trivial

end

end Gate

/-- What is in the cache is what is stored, and an entity would be loaded as it is stored, or not
found if it is not there. -/
structure Glimpse.Mirrors {ω : Type} (m : Glimpse (Surrounded ω)) (gate : Gate (Surrounded ω)) :
    Prop where
  current : ∀ entityType id row, m.cache.row? entityType id = some row →
    m.state.store.row? entityType id = some row
  loaded : ∀ entityType id row, m.state.store.row? entityType id = some row → ∃ cache s,
    (gate.load entityType id).run m.cache m.state = (.ok (row, cache), s)
  missing : ∀ entityType id, m.state.store.row? entityType id = none → ∃ s,
    (gate.load entityType id).run m.cache m.state =
      (.error (.entityNotFound entityType (idKey id)), s)

namespace Gate

variable {ω : Type}

lemma mirrors_of_coherent {gate : Gate (Surrounded ω)} {schema : Schema}
    (hstore : gate.persistence = Surrounded.persistence undisturbed schema)
    {m : Glimpse (Surrounded ω)} (h : Coherent m.cache m.state.store.tables) : m.Mirrors gate := by
  have hload : ∀ entityType id, match (gate.load entityType id).run m.cache m.state with
      | (.ok (row, _), _) => m.state.store.row? entityType id = some row
      | (.error f, _) => m.state.store.row? entityType id = none ∧
          f = .entityNotFound entityType (idKey id) := by
    intro entityType id
    have hrun := load_stored hstore m.state entityType id m.cache m.state ⟨rfl, h⟩
    split at hrun <;> rename_i heq <;> rw [heq]
    · exact hrun.1
    · exact hrun
  refine ⟨fun entityType id row hrow => h.current entityType (idKey id) row hrow, ?_, ?_⟩
  · intro entityType id row hrow
    have hrun := hload entityType id
    split at hrun
    · rename_i row' cache s heq
      rw [hrow] at hrun
      cases hrun
      exact ⟨cache, s, heq⟩
    · rw [hrow] at hrun
      cases hrun.1
  · intro entityType id hrow
    have hrun := hload entityType id
    split at hrun
    · rw [hrow] at hrun
      cases hrun
    · rename_i f s heq
      exact ⟨s, by rw [heq, hrun.2]⟩

/-- At every moment of a mutation, however deep its chain requests are and whatever was created,
rewritten or deleted before, the cache of the call holds what is stored. -/
theorem cache_mirrors_store (gate : Gate (Surrounded ω)) (schema : Schema)
    (hstore : gate.persistence = Surrounded.persistence undisturbed schema)
    (hlisteners : ∀ l ∈ gate.events, ActsOnWorld l) (entityType : String) (chain : Chain)
    (params : Json) (overrides : CallOptions) (frontEnd : FrontEndOptions) {s : Surrounded ω}
    (hkeyed : s.store.tables.WellKeyed) :
    ∃ result w,
      (gate.watchMutate entityType chain params overrides frontEnd).outcome ⟨s, []⟩ =
        (result, w) ∧
      (gate.mutate entityType chain params overrides frontEnd).outcome s = (result, w.state) ∧
      ∀ m ∈ w.moments, m.Mirrors gate := by
  have hsteps := coherent_keepsSteps hstore hlisteners
  have hbegin : StateKept (fun s => Coherent .empty s.store.tables) gate.persistence.begin := by
    rw [hstore]
    intro s hs
    have htables : (Memory.begin s.store).2.tables = s.store.tables := Memory.begin_tables s.store
    exact htables ▸ hs
  have hmoments := hsteps.watchMutate hbegin (.ofEmpty hkeyed) entityType chain params overrides
    frontEnd
  obtain ⟨result, w, s', hw, hs, rfl⟩ := (watchMutate_alike gate entityType chain params
    overrides frontEnd).run_eq (s := ⟨s, []⟩) rfl
  refine ⟨result, w, hw, hs, fun m hm => ?_⟩
  rw [Effect.outcome, hw] at hmoments
  exact mirrors_of_coherent hstore (hmoments m hm)

/-! ## An album that is deleted on the way -/

/-- An update of the first album, which by way of its artist deletes the second one, and after that
of the year of the second one. -/
def dropAndDate : Json :=
  .obj [("al1", .obj [("artist", .obj [("update", .obj [("joni", .obj [("albums",
    .obj [("delete", .obj [("al2", .obj [])])])])])])]),
    ("al2", .obj [("year", .int 1976)])]

/-- What becomes of the shop, and what is seen on the way. -/
def dropAndDateSeen : Except Fault (List EntityRecord) × Watched (Surrounded Nat) :=
  (shop.watchMutate "album" .update dropAndDate default default).outcome ⟨inShop, []⟩

/-- The second album is in the cache from the start, since it is looked up in advance.  When its own
entry comes to it, it is neither in the cache nor found in the store. -/
theorem dropAndDate_mirrored : ∃ w,
    dropAndDateSeen = (.error (.entityNotFound "album" "al2"), w) ∧
      (∃ m ∈ w.moments, (m.cache.row? "album" (.str "al2")).isSome = true) ∧
      ∀ m ∈ w.moments, m.Mirrors shop := by
  have hlisteners : ∀ l ∈ shop.events, ActsOnWorld l := by
    intro l hl
    obtain rfl := List.mem_singleton.mp hl
    exact fun _ _ payload => ⟨fun n => (.ok payload, n + 1), fun _ => rfl⟩
  obtain ⟨result, w, hrun, -, hmirrors⟩ := cache_mirrors_store shop _ rfl hlisteners "album"
    .update dropAndDate default default (s := inShop)
    (Memory.seed_wellKeyed (Memory.seed_wellKeyed Rows.wellKeyed_empty))
  have hseen : dropAndDateSeen = (result, w) := hrun
  have hmissing : (match dropAndDateSeen.1 with
      | .error (.entityNotFound entityType key) => entityType == "album" && key == "al2"
      | _ => false) = true := by decide +kernel
  have hcached : (dropAndDateSeen.2.moments.any fun m =>
      (m.cache.row? "album" (.str "al2")).isSome) = true := by decide +kernel
  rw [hseen] at hmissing hcached
  dsimp only at hmissing
  split at hmissing
  · simp only [Bool.and_eq_true, beq_iff_eq] at hmissing
    obtain ⟨rfl, rfl⟩ := hmissing
    exact ⟨w, hseen, List.any_eq_true.mp hcached, hmirrors⟩
  · cases hmissing

end Gate

end EntityGate
