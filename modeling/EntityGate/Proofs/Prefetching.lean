/-
# Looking entities up in advance

A batch may look up all entities that it refers to before its entries are bound, or each of them
when an entry comes to it.  Over a store in memory the two ways come to the same.  In both of them
the rows in the cache are those in the store at that moment, whatever was created, rewritten or
deleted since they were looked up, so an entry starts from the same row and ends in the same fault
if there is none.

Two runs are compared here that differ in the option for this, be it in the configuration or among
the options of the call.  The settings must not read that option, and the listeners must leave the
store alone.  At the outset every row lies under its own id, as seeding the store and all mutations
leave it.  Then the outcome, the rows, the ids that are generated, what the listeners see and every
call of the store but the lookups are the same.
-/
import EntityGate.Proofs.Lookups
import EntityGate.Proofs.Unread

namespace EntityGate

open Mutating (Paired ofEffect ofDecision)
open Surrounded

/-! ## Turning an option on and off -/

namespace Table

variable {α β : Type}

lemma get?_map (f : α → β) (t : Table α) (key : String) :
    (t.map f).get? key = (t.get? key).map f := by
  rw [get?, get?, entries_map]
  induction t.entries with
  | nil => rfl
  | cons entry rest ih =>
    rw [List.map_cons, List.lookup_cons, List.lookup_cons, ih]
    split <;> rfl

end Table

/-- No type has an association under a name that none of the associations bears. -/
lemma Schema.association?_ofTable_eq_none {table : Table (List Association)} {name : String}
    (h : ∀ entry ∈ table.entries, ∀ a ∈ entry.2, a.name ≠ name) (entityType : String) :
    (ofTable table).association? entityType name = none := by
  rw [association?, ofTable]
  cases htype : table.get? entityType with
  | none => rfl
  | some associations =>
    exact List.find?_eq_none.mpr fun a ha => by simpa using h _ (Table.mem_of_get? htype) a ha

/-- Rules with an option set. -/
def MutationRules.withOption (rules : MutationRules) (key : String) (s : Setting) :
    MutationRules :=
  { rules with options := rules.options.insert key s }

/-- The configuration of a type with an option set for all its mutations. -/
def EntityConfig.withOption (config : EntityConfig) (key : String) (s : Setting) : EntityConfig :=
  { config with
    create := config.create.withOption key s
    update := config.update.withOption key s
    delete := config.delete.withOption key s }

/-- A configuration with an option set for the mutations of all types. -/
def GateConfig.withOption (config : GateConfig) (key : String) (s : Setting) : GateConfig :=
  ⟨config.entities.map fun entity => entity.withOption key s⟩

section

variable {registry : Registry} {key : String} {s s' : Setting}

lemma GateConfig.entity_withOption (config : GateConfig) (entityType : String) :
    (config.withOption key s).entity entityType =
      (config.entity entityType).map fun entity => entity.withOption key s := by
  rw [entity, entity, withOption, Table.get?_map]
  cases config.entities.get? entityType <;> rfl

lemma MutationRules.toggled_withOption (rules : MutationRules) (hs : s.IsTruth)
    (hs' : s'.IsTruth) : (rules.withOption key s).Toggled key (rules.withOption key s') where
  permissions := rfl
  options := (Table.erase_insert _ _ _).trans (Table.erase_insert _ _ _).symm
  toggles := by
    have hget : ∀ s, (rules.options.insert key s).get? key = some s :=
      fun s => (Table.get?_insert _ _ _ _).trans (if_pos rfl)
    refine .inr ⟨fun x hx => ?_, fun x hx => ?_⟩
    · exact Option.some.inj ((hget s).symm.trans hx) ▸ hs
    · exact Option.some.inj ((hget s').symm.trans hx) ▸ hs'

/-- With an option set to a truth value for the mutations of all types, or to another one, the
configurations differ in that option only. -/
theorem GateConfig.toggled_withOption (config : GateConfig) (hs : s.IsTruth) (hs' : s'.IsTruth) :
    (config.withOption key s).Toggled key (config.withOption key s') := by
  intro entityType
  rw [entity_withOption, entity_withOption]
  cases config.entity entityType with
  | error f => exact .refused f
  | ok entity => exact .answered ⟨rfl, entity.create.toggled_withOption hs hs',
      entity.update.toggled_withOption hs hs', entity.delete.toggled_withOption hs hs'⟩

/-- So do the options of a call. -/
theorem CallOptions.toggled_withOption (o : CallOptions) (hs : s.IsTruth) (hs' : s'.IsTruth) :
    (o.withOption key s).Toggled key (o.withOption key s') where
  permissions := rfl
  mutationPermissions := rfl
  placeholders := rfl
  settings := (Table.erase_insert _ _ _).trans (Table.erase_insert _ _ _).symm
  toggles := .inr ⟨s, s', (Table.get?_insert _ _ _ _).trans (if_pos rfl),
    (Table.get?_insert _ _ _ _).trans (if_pos rfl), hs, hs'⟩

lemma MutationRules.Ignores.withOption {rules : MutationRules} (h : rules.Ignores registry key)
    {name : String} (hs : s.Ignores registry key) :
    (rules.withOption name s).Ignores registry key :=
  ⟨h.permissions, Table.forall_insert h.options name hs⟩

/-- A setting for the mutations of all types that does not read an option. -/
lemma GateConfig.Ignores.withOption {config : GateConfig} (h : config.Ignores registry key)
    {name : String} (hs : s.Ignores registry key) :
    (config.withOption name s).Ignores registry key := by
  intro entityType entity hentity
  rw [entity_withOption] at hentity
  cases hconfig : config.entity entityType with
  | error f =>
    rw [hconfig] at hentity
    cases hentity
  | ok own =>
    rw [hconfig] at hentity
    cases hentity
    have hown := h entityType own hconfig
    exact ⟨hown.create.withOption hs, hown.update.withOption hs, hown.delete.withOption hs⟩

end

namespace Gate

/-! ## Writes -/

variable {ω : Type} {gate : Gate (Surrounded ω)} {schema : Schema}

section

variable (hstore : gate.persistence = Surrounded.persistence undisturbed schema)
include hstore

/-- A record is written alike by both runs. -/
lemma writeRecord_paired (chain : Chain) (r : EntityRecord) :
    Effect.Paired SameButLookups (gate.journaled.writeRecord chain r)
      (gate.journaled.writeRecord chain r) (fun row row' w w' => row = row' ∧ SameButLookups w w')
      SameButLookups := by
  have hpersistence := journaled_persistence hstore
  cases chain with
  | create =>
    rw [writeRecord, hpersistence]
    exact noting_below_paired (Memory.insert_oblivious schema r) _
  | read => exact .pure fun _ _ h => ⟨rfl, h⟩
  | update =>
    rw [writeRecord, hpersistence]
    exact noting_below_paired (Memory.update_oblivious schema r) _
  | delete =>
    rw [writeRecord, hpersistence]
    exact (noting_below_paired (Memory.remove_oblivious r) _).bind
      fun _ _ => .pure fun _ _ h => ⟨rfl, h.2⟩

/-- What the store does when a record is written. -/
lemma wrote_of_journaled {chain : Chain} (hread : chain ≠ .read) {r : EntityRecord}
    {w w' : Journaled (Surrounded ω)} {row : Json}
    (h : gate.journaled.writeRecord chain r w = (.ok row, w')) :
    Memory.Wrote schema r w.state.store row w'.state.store chain := by
  have hpersistence := journaled_persistence hstore
  cases chain with
  | create =>
    rw [writeRecord, hpersistence] at h
    exact Memory.wrote_of_insert (store_of_noting h)
  | read => exact absurd rfl hread
  | update =>
    rw [writeRecord, hpersistence] at h
    exact Memory.wrote_of_update (store_of_noting h)
  | delete =>
    rw [writeRecord, hpersistence, Effect.run_bind] at h
    split at h
    · rename_i hremove
      cases h
      exact Memory.wrote_of_remove (store_of_noting hremove)
    · cases h

/-! ### Transactions -/

lemma begin_paired : Effect.Paired
    (fun w w' => SameButLookups w w' ∧ w.state.store.tables.WellKeyed)
    gate.journaled.persistence.begin gate.journaled.persistence.begin
    (fun _ _ w w' => SameButLookups w w' ∧ w.state.store.tables.WellKeyed) SameButLookups := by
  rw [journaled_persistence hstore]
  refine (noting_below_sameButLookups Memory.begin_oblivious (.called .begin)).and_left
    (P := fun w => w.state.store.tables.WellKeyed)
    (Q := fun _ w => w.state.store.tables.WellKeyed) fun w _ w' hkeyed hrun => ?_
  rw [Memory.tables_of_begin (store_of_noting hrun)]
  exact hkeyed

lemma commit_paired : Effect.Paired SameButLookups gate.journaled.persistence.commit
    gate.journaled.persistence.commit (fun _ _ => SameButLookups) SameButLookups := by
  rw [journaled_persistence hstore]
  exact noting_below_sameButLookups Memory.commit_oblivious _

lemma flush_paired : Effect.Paired SameButLookups gate.journaled.persistence.flush
    gate.journaled.persistence.flush (fun _ _ => SameButLookups) SameButLookups := by
  rw [journaled_persistence hstore]
  exact noting_below_sameButLookups (Memory.flush_oblivious schema) _

lemma rollback_paired : Effect.Paired SameButLookups gate.journaled.persistence.rollback
    gate.journaled.persistence.rollback (fun _ _ => SameButLookups) SameButLookups := by
  rw [journaled_persistence hstore]
  exact noting_below_sameButLookups Memory.rollback_oblivious _

end

/-! ## Events -/

lemma heard_paired {l : Subscription (Surrounded ω)} (hl : ActsOnWorld l)
    (P : Memory → Memory → Prop) (event : Event) (entityType : String) (payload : Json) :
    Effect.Paired (fun w w' => SameButLookups w w' ∧ P w.state.store w'.state.store)
      ((Journaled.subscription l).listener event entityType payload)
      ((Journaled.subscription l).listener event entityType payload)
      (fun a b w w' => a = b ∧ SameButLookups w w' ∧ P w.state.store w'.state.store)
      SameButLookups := by
  intro w w' ⟨h, hstores⟩
  obtain ⟨act, hact⟩ := hl event entityType payload
  have hrun : ∀ w : Journaled (Surrounded ω),
      (Journaled.subscription l).listener event entityType payload w =
        ((act w.state.world).1, ⟨⟨w.state.store, (act w.state.world).2⟩,
          w.journal ++ [.heard event entityType (act w.state.world).1.isOk]⟩) := by
    intro w
    refine (Journaled.noting_run _ _ w).trans ?_
    rw [hact]
    cases (act w.state.world).1 <;> rfl
  rw [hrun, hrun, ← h.world]
  cases (act w.state.world).1 with
  | ok a => exact .returned ⟨rfl, h.snoc h.store _ _, hstores⟩
  | error f => exact .failed f (h.snoc h.store _ _)

/-- An event is published alike in both runs, and the stores stay as they are. -/
lemma publish_paired (hlisteners : ∀ l ∈ gate.events, ActsOnWorld l)
    (P : Memory → Memory → Prop) (event : Event) (entityType : String) (payload : Json) :
    Effect.Paired (fun w w' => SameButLookups w w' ∧ P w.state.store w'.state.store)
      (gate.journaled.publish event entityType payload)
      (gate.journaled.publish event entityType payload)
      (fun a b w w' => a = b ∧ SameButLookups w w' ∧ P w.state.store w'.state.store)
      SameButLookups := by
  refine .foldlM (fun payload l hl => ?_) payload
  obtain ⟨l', hl', rfl⟩ := List.mem_map.mp (List.mem_filter.mp hl).1
  exact heard_paired (hlisteners l' hl') P event entityType payload

lemma toArray_paired (hlisteners : ∀ l ∈ gate.events, ActsOnWorld l) (entityType : String)
    (rows : List Json) :
    Effect.Paired SameButLookups (gate.journaled.toArray entityType rows)
      (gate.journaled.toArray entityType rows) (fun _ _ => SameButLookups) SameButLookups := by
  have hpublish : ∀ event payload, Effect.Paired SameButLookups
      (gate.journaled.publish event entityType payload)
      (gate.journaled.publish event entityType payload)
      (fun a b w w' => a = b ∧ SameButLookups w w') SameButLookups := fun event payload =>
    (publish_paired hlisteners (fun _ _ => True) event entityType payload).weaken
      (fun _ _ h => ⟨h, trivial⟩) (fun _ _ _ _ h => ⟨h.1, h.2.1⟩) fun _ _ h => h
  refine (hpublish _ _).bind fun payload _ => .of_fact ?_
  rintro rfl
  exact (hpublish _ _).bind fun _ _ => .pure fun _ _ h => h.2

/-! ## Steps -/

/-- The states of two runs are the same but for lookups, and what is in each cache is stored. -/
structure Attuned (cache cache' : CallCache) (w w' : Journaled (Surrounded ω)) : Prop where
  states : SameButLookups w w'
  left : Coherent cache w.state.store.tables
  right : Coherent cache' w'.state.store.tables

section

variable (hstore : gate.persistence = Surrounded.persistence undisturbed schema)
include hstore

lemma load_paired (entityType : String) (id : Json) :
    Paired Attuned SameButLookups Eq (gate.journaled.load entityType id)
      (gate.journaled.load entityType id) := by
  intro cache cache' w w' h
  -- one cache may hold the row and the other not, so the runs are not compared step by step: both
  -- return the row that is stored at the moment that the first run has reached
  refine .of_triples (load_upToLookups hstore w entityType id cache)
    (load_upToLookups hstore w entityType id cache') ⟨.refl w, h.left⟩ ⟨h.states.symm, h.right⟩
    ?_ ?_ ?_ ?_
  · rintro ⟨row, cache⟩ ⟨row', cache'⟩ v v' ⟨hrow, hv⟩ ⟨hrow', hv'⟩
    exact ⟨Option.some.inj (hrow.symm.trans hrow'), hv.1.trans hv'.1.symm, hv.2, hv'.2⟩
  · rintro f f' v v' ⟨⟨-, rfl⟩, hv⟩ ⟨⟨-, rfl⟩, hv'⟩
    exact ⟨rfl, hv.trans hv'.symm⟩
  · rintro ⟨row, cache⟩ v f v' ⟨hrow, -⟩ ⟨⟨hnone, -⟩, -⟩
    rw [hrow] at hnone
    cases hnone
  · rintro f v ⟨row, cache⟩ v' ⟨⟨hnone, -⟩, -⟩ ⟨hrow, -⟩
    rw [hrow] at hnone
    cases hnone

/-- A record is written and remembered alike, and what is in the caches is still stored. -/
lemma writeRemembered_paired (hid : ∀ entityType, schema.association? entityType "id" = none)
    {chain : Chain} (hread : chain ≠ .read) (r : EntityRecord) :
    Paired Attuned SameButLookups Eq (gate.journaled.writeRemembered chain r)
      (gate.journaled.writeRemembered chain r) := by
  intro cache cache' w w' h
  -- listeners may have put anything into the record, but its row is stored under its own id
  have hkeeps : Memory.KeepsId schema r := Memory.keepsId_of_undeclared (hid r.entityType)
  rw [writeRemembered_run, writeRemembered_run]
  rcases (writeRecord_paired hstore chain r).outcomes h.states with
    ⟨row, row', v, v', hrun, hrun', rfl, hv⟩ | ⟨text, v, v', hrun, hrun', hv⟩
  · rw [hrun, hrun']
    exact .returned ⟨rfl, hv, h.left.wrote (wrote_of_journaled hstore hread hrun) hkeeps,
      h.right.wrote (wrote_of_journaled hstore hread hrun') hkeeps⟩
  · rw [hrun, hrun']
    exact .failed _ hv

/-- What remains of the opening of a batch: its entities are looked up in advance or not. -/
lemma prefetchIf_upToLookups (hassign : ∀ entityType,
      schema.association? entityType "assignType" = none) (begun : Journaled (Surrounded ω))
    (wanted : Bool) (b : Batch) (action : Action) :
    Mutating.Triple (UpToLookups begun)
      (if wanted = true then do
        gate.journaled.prefetch b
        return action
      else return action)
      (fun opened cache w => opened = action ∧ UpToLookups begun cache w) fun _ _ => False := by
  split
  · exact (prefetch_upToLookups hstore hassign begun b).bind fun _ => .pure fun _ _ h => ⟨rfl, h⟩
  · exact .pure fun _ _ h => ⟨rfl, h⟩

/-- A batch is opened alike, whether its entities are looked up in advance or not. -/
lemma openBatch_paired (hassign : ∀ entityType,
      schema.association? entityType "assignType" = none) {entities : GateConfig}
    {config config' : EntityConfig} {b b' : Batch}
    (hb : Batch.Unaffected gate.registry "prePopulateEntities" config b config' b') :
    Paired Attuned SameButLookups
      (fun action action' => action.Agrees gate.registry action' ∧ action.chain ≠ .read)
      (gate.journaled.openBatch config b)
      ((gate.withConfig entities).journaled.openBatch config' b') := by
  have hfault : ∀ cache cache' (w w' : Journaled (Surrounded ω)),
      Attuned cache cache' w w' → SameButLookups w w' := fun _ _ _ _ h => h.states
  unfold openBatch
  rw [← hb.batch.chain, ← hb.batch.entries]
  refine Paired.bind (.ofDecision ((hb.rules.mutationRules hb.rulesIgnore b.chain).and_left
    fun _ => EntityConfig.chain_ne_read) hfault)
    fun rules rules' ⟨⟨hrules, hignores⟩, hwrites⟩ => ?_
  dsimp only
  refine Paired.andThen (.ofDecision (.of_eq (hb.checkAllowed hrules hignores)) hfault) fun _ => ?_
  refine Paired.andThen (.ofDecision (.of_eq (hb.checkSize hrules hignores (by decide) _)) hfault)
    fun _ => ?_
  refine Paired.bind (.ofDecision (hb.findToggled hrules hignores) hfault)
    fun wanted wanted' _ => ?_
  -- only one of the runs may look up in advance, so each is compared with the moment before
  intro cache cache' w w' h
  refine .of_triples (prefetchIf_upToLookups hstore hassign w (wanted.getD true) b _ cache)
    (prefetchIf_upToLookups hstore hassign w (wanted'.getD true) b' _ cache') ⟨.refl w, h.left⟩
    ⟨h.states.symm, h.right⟩ ?_ (fun _ _ _ _ h => h.elim) (fun _ _ _ _ _ h => h)
    (fun _ _ _ _ h => h.elim)
  rintro ⟨action, cache⟩ ⟨action', cache'⟩ v v' ⟨rfl, hv⟩ ⟨rfl, hv'⟩
  exact ⟨⟨hb.agrees hrules hignores, hwrites⟩, hv.1.trans hv'.1.symm, hv.2, hv'.2⟩

section

variable (hid : ∀ entityType, schema.association? entityType "id" = none)
  (hlisteners : ∀ l ∈ gate.events, ActsOnWorld l)
include hid hlisteners

/-- The steps of the two runs go side by side. -/
lemma journaled_abreast (entities : GateConfig) :
    gate.journaled.Abreast (· ≠ .read) Attuned SameButLookups
      (gate.withConfig entities).journaled := by
  have hpublish : ∀ event entityType payload, Paired Attuned SameButLookups Eq
      (ofEffect (gate.journaled.publish event entityType payload))
      (ofEffect (gate.journaled.publish event entityType payload)) := by
    intro event entityType payload
    refine .ofEffect fun cache cache' => (publish_paired hlisteners
      (fun m m' => Coherent cache m.tables ∧ Coherent cache' m'.tables) event entityType
      payload).weaken (fun _ _ h => ⟨h.states, h.left, h.right⟩)
      (fun _ _ _ _ ⟨heq, hstates, hleft, hright⟩ => ⟨heq, hstates, hleft, hright⟩) fun _ _ h => h
  refine ⟨rfl, rfl, rfl, fun _ _ _ _ h => h.states, load_paired hstore,
    fun event _ => hpublish event, ?_⟩
  intro action action' r hread hentityType hchain
  rw [persist_eq, persist_eq, ← hentityType, ← hchain]
  refine (hpublish _ _ _).andThen fun payload => ?_
  refine (writeRemembered_paired hstore hid hread _).andThen fun row => ?_
  exact (hpublish _ _ _).andThen fun _ => .pure rfl

/-! ## Mutations -/

variable (hassign : ∀ entityType, schema.association? entityType "assignType" = none)
  {entities : GateConfig} (hconfig : gate.config.Toggled "prePopulateEntities" entities)
  (hignores : gate.config.Ignores gate.registry "prePopulateEntities")
include hassign hconfig hignores

/-- A batch that is run and flushed comes to the same. -/
lemma runAndFlush_paired {p p' : Plan}
    (hp : p.Unaffected gate.registry "prePopulateEntities" p') :
    Effect.Paired (fun w w' => SameButLookups w w' ∧ w.state.store.tables.WellKeyed)
      (gate.journaled.runAndFlush p.config p.batch p.flush)
      ((gate.withConfig entities).journaled.runAndFlush p'.config p'.batch p'.flush)
      (fun a b w w' => a = b ∧ SameButLookups w w') SameButLookups := by
  have hlevels : p'.batch.levels = p.batch.levels := by
    rw [Batch.levels, ← hp.batch.batch.entries]
    rfl
  have hbatch := (journaled_abreast hstore hid hlisteners entities).runBatch
    (fun target => (hconfig target).and_left (hignores target))
    (fun h b => h.1.checkReadChain (.refl b))
    (fun h => .nested h.1 h.2)
    (fun hb => ⟨hb.batch.entries, hb.batch.frontEnd, openBatch_paired hstore hassign hb⟩)
    (p.batch.levels + gate.addedLevels) hp.batch
  have hstates : ∀ w w' : Journaled (Surrounded ω),
      (∃ cache cache', Attuned cache cache' w w') → SameButLookups w w' := by
    rintro w w' ⟨_, _, h⟩
    exact h.states
  unfold runAndFlush
  rw [hlevels, ← hp.flush]
  refine (hbatch.withoutCache.weaken (fun w w' h => ?_) (fun _ _ _ _ h => h) fun _ _ h => h).bind
    fun records records' => .of_fact ?_
  · -- both caches are empty at the beginning
    exact ⟨h.1, .ofEmpty h.2, .ofEmpty (h.1.store.tables ▸ h.2)⟩
  · rintro rfl
    split
    · have hflush := Effect.Paired.ofStore (flush_paired hstore)
      exact (hflush.weaken hstates (fun _ _ _ _ h => h) fun _ _ h => h).bind
        fun _ _ => .pure fun _ _ h => ⟨rfl, h⟩
    · exact .pure fun w w' h => ⟨rfl, hstates w w' h⟩

/-- A plan that is performed comes to the same. -/
lemma perform_paired {p p' : Plan} (hp : p.Unaffected gate.registry "prePopulateEntities" p') :
    Effect.Paired (fun w w' => SameButLookups w w' ∧ w.state.store.tables.WellKeyed)
      (gate.journaled.perform p) ((gate.withConfig entities).journaled.perform p')
      (fun a b w w' => a = b ∧ SameButLookups w w') SameButLookups := by
  have hrun := runAndFlush_paired hstore hid hlisteners hassign hconfig hignores hp
  unfold perform
  rw [← hp.transaction]
  split
  · exact inTransaction_paired (begin_paired hstore) hrun (fun _ _ => .of_fact fun heq =>
      (commit_paired hstore).weaken (fun _ _ h => h) (fun _ _ _ _ h => ⟨heq, h⟩) fun _ _ h => h)
      fun _ _ h => (rollback_paired hstore).states h
  · exact hrun

/-- So does what a plan leads to. -/
lemma carryOut_paired {p p' : Plan} (hp : p.Unaffected gate.registry "prePopulateEntities" p')
    (entityType : String) :
    Effect.Paired (fun w w' => SameButLookups w w' ∧ w.state.store.tables.WellKeyed)
      (gate.journaled.carryOut entityType p)
      ((gate.withConfig entities).journaled.carryOut entityType p')
      (fun a b w w' => a = b ∧ SameButLookups w w') SameButLookups := by
  refine (perform_paired hstore hid hlisteners hassign hconfig hignores hp).bind
    fun records _ => .of_fact ?_
  rintro rfl
  exact (toArray_paired hlisteners entityType _).bind fun _ _ => .pure fun _ _ h => ⟨rfl, h⟩

end

end

/-- A mutation comes to the same whether it looks its entities up in advance or not: its outcome is
the same, be it the records or the fault, and so are the rows and the ids that are generated.  Of
what its collaborators are asked for, only lookups differ. -/
theorem prefetching_unseen (gate : Gate (Surrounded ω)) (schema : Schema)
    (hstore : gate.persistence = Surrounded.persistence undisturbed schema)
    (hlisteners : ∀ l ∈ gate.events, ActsOnWorld l)
    (hid : ∀ entityType, schema.association? entityType "id" = none)
    (hassign : ∀ entityType, schema.association? entityType "assignType" = none)
    {config' : GateConfig} (hconfig : gate.config.Toggled "prePopulateEntities" config')
    (hignores : gate.config.Ignores gate.registry "prePopulateEntities")
    {overrides overrides' : CallOptions}
    (hoverrides : overrides.Toggled "prePopulateEntities" overrides')
    (hcall : overrides.Ignores gate.registry "prePopulateEntities") (entityType : String)
    (chain : Chain) (params : Json) (frontEnd : FrontEndOptions) {s : Surrounded ω}
    (hkeyed : s.store.tables.WellKeyed) :
    ∃ result w w',
      (gate.journaled.mutate entityType chain params overrides frontEnd).outcome (.opening s) =
        (result, w) ∧
      ((gate.withConfig config').journaled.mutate entityType chain params overrides'
        frontEnd).outcome (.opening s) = (result, w') ∧
      (gate.mutate entityType chain params overrides frontEnd).outcome s = (result, w.state) ∧
      ((gate.withConfig config').mutate entityType chain params overrides' frontEnd).outcome s =
        (result, w'.state) ∧
      SameButLookups w w' := by
  have hruns : ∃ result w w',
      (gate.journaled.mutate entityType chain params overrides frontEnd).outcome (.opening s) =
        (result, w) ∧
      ((gate.withConfig config').journaled.mutate entityType chain params overrides'
        frontEnd).outcome (.opening s) = (result, w') ∧ SameButLookups w w' := by
    rw [Effect.outcome, Effect.outcome, mutate_run, mutate_run, journaled_plan, journaled_plan]
    have hplans := plan_unaffected hconfig hignores hoverrides hcall (by decide) entityType chain
      params frontEnd
    generalize gate.plan entityType chain params overrides frontEnd = plan at hplans ⊢
    generalize (gate.withConfig config').plan entityType chain params overrides' frontEnd =
      plan' at hplans ⊢
    cases hplans with
    | refused f => exact ⟨.error f, _, _, rfl, rfl, .refl _⟩
    | answered hp =>
      rcases (carryOut_paired hstore hid hlisteners hassign hconfig hignores hp
        entityType).outcomes (s := .opening s) (t := .opening s) ⟨.refl _, hkeyed⟩ with
        ⟨records, _, w, w', hrun, hrun', rfl, hw⟩ | ⟨f, w, w', hrun, hrun', hw⟩
      · exact ⟨.ok records, w, w', hrun, hrun', hw⟩
      · exact ⟨.error f, w, w', hrun, hrun', hw⟩
  obtain ⟨result, w, w', hrun, hrun', hw⟩ := hruns
  exact ⟨result, w, w', hrun, hrun', mutate_of_journaled hrun, mutate_of_journaled hrun', hw⟩

/-! ## Albums in a shop -/

/-- Rules under which every field may be set and every chain run; the name is trimmed. -/
def shopRules : MutationRules :=
  { (default : MutationRules) with
    permissions := { (default : Node) with
      permissive := some (.literal (.bool true))
      fields := .ofList [("name", { (default : Layer) with
        hooks := { (default : Hooks) with
          mutate := some (.call "trim" [.fromContext "value"]) } })] } }

/-- The configuration of a shop with albums and their artists. -/
def shopConfig : GateConfig :=
  let rules : EntityConfig :=
    { (default : EntityConfig) with create := shopRules, update := shopRules, delete := shopRules }
  ⟨.ofList [("album", rules), ("artist", rules)]⟩

/-- The configuration of the shop, with entities looked up in advance or not. -/
def shopPrefetching (on : Bool) : GateConfig :=
  shopConfig.withOption "prePopulateEntities" (.literal (.bool on))

/-- Each album has an artist, and each artist albums. -/
def shopAssociations : Table (List Association) :=
  .ofList [("album", [⟨"artist", "artist", false⟩]), ("artist", [⟨"albums", "album", true⟩])]

/-- A gate to the shop, which counts the rows that are written. -/
def shop : Gate (Surrounded Nat) where
  config := shopPrefetching true
  registry := .standard
  persistence := Surrounded.persistence undisturbed (.ofTable shopAssociations)
  validator := fun _ _ => []
  events := [countsRows]
  addedLevels := 0
  bareLevels := 0

/-- Two albums and their artist. -/
def inShop : Surrounded Nat :=
  ⟨(Memory.seed "album" [.obj [("artist", .str "joni"), ("id", .str "al1")],
    .obj [("artist", .str "joni"), ("id", .str "al2"), ("name", .str "Hejira?")]]
      (Memory.seed "artist" [.obj [("albums", .arr [.str "al1", .str "al2"]),
        ("id", .str "joni")]] .empty).2).2, 0⟩

/-- An update of the first album, which by way of its artist gives the second one a name, and after
that of the year of the second one. -/
def nameAndYear : Json :=
  .obj [("al1", .obj [("artist", .obj [("update", .obj [("joni", .obj [("albums",
    .obj [("update", .obj [("al2", .obj [("name", .str " Hejira ")])])])])])])]),
    ("al2", .obj [("year", .int 1976)])]

/-- What becomes of the shop, with the option set in the configuration and for the call. -/
def nameAndYearWith (on : Bool) : Except Fault (List EntityRecord) × Surrounded Nat :=
  ((shop.withConfig (shopPrefetching on)).mutate "album" .update nameAndYear
    (.withOption default "prePopulateEntities" (.literal (.bool on))) default).outcome inShop

/-- Trimming the value reads no option. -/
lemma trim_ignores (key : String) :
    (Setting.call "trim" [.fromContext "value"]).Ignores .standard key := by
  have hresolve : ∀ ctx : Context,
      (Setting.call "trim" [.fromContext "value"]).resolve .standard ctx =
        .ok (Callable.onText Text.trim ((Json.lookup "value" ctx.extras).getD .null)) := by
    intro ctx
    have hlookup : ctx.lookup "value" = Json.lookup "value" ctx.extras := by
      have hsplit : Text.split '.' "value" = ["value"] := by decide
      rw [Context.lookup, hsplit]
      exact Option.bind_fun_some _
    rw [← hlookup]
    rfl
  intro ctx ctx' h
  rw [hresolve, hresolve, h.extras]

lemma shopRules_ignores (key : String) : shopRules.Ignores .standard key where
  permissions := by
    have hempty : (default : Layer).Ignores .standard key := .empty
    have htrue : Ignored .standard key (some (.literal (.bool true))) := by
      rintro _ ⟨⟩
      exact Setting.ignores_literal _
    refine ⟨⟨ignored_none, htrue, hempty.entries, hempty.hooks⟩, fun entry hentry => ?_⟩
    obtain rfl := List.mem_singleton.mp hentry
    refine ⟨ignored_none, ignored_none, hempty.entries, ⟨ignored_none, ?_, ignored_none,
      ignored_none⟩⟩
    rintro _ ⟨⟩
    exact trim_ignores key
  options := fun _ hentry => nomatch hentry

lemma shopConfig_ignores (key : String) : shopConfig.Ignores .standard key := by
  intro entityType entity hentity
  have hrules : entity.create = shopRules ∧ entity.update = shopRules ∧
      entity.delete = shopRules := by
    unfold GateConfig.entity at hentity
    split at hentity
    · rename_i own hown
      cases hentity
      have hmem := Table.mem_of_get? hown
      rcases List.mem_cons.mp hmem with h | h
      · cases h
        exact ⟨rfl, rfl, rfl⟩
      · cases List.mem_singleton.mp h
        exact ⟨rfl, rfl, rfl⟩
    · cases hentity
  obtain ⟨hcreate, hupdate, hdelete⟩ := hrules
  have hignores := shopRules_ignores key
  exact ⟨hcreate ▸ hignores, hupdate ▸ hignores, hdelete ▸ hignores⟩

/-- The second album is looked up in advance before it gets a name, and without that only when its
own entry comes; either way its year is set in the row with the name. -/
theorem nameAndYear_alike :
    (nameAndYearWith true).1.isOk = true ∧
      (nameAndYearWith true).1 = (nameAndYearWith false).1 ∧
      (nameAndYearWith true).2.store.SameRows (nameAndYearWith false).2.store ∧
      (nameAndYearWith true).2.store.calls = ["begin", "find_in:album:2", "find_in:artist:1",
        "update:album", "update:artist", "update:album", "update:album", "commit"] ∧
      (nameAndYearWith false).2.store.calls = ["begin", "find_in:album:1", "find_in:artist:1",
        "find_in:album:1", "update:album", "update:artist", "update:album", "update:album",
        "commit"] := by
  have hlisteners : ∀ l ∈ shop.events, ActsOnWorld l := by
    intro l hl
    obtain rfl := List.mem_singleton.mp hl
    exact fun _ _ payload => ⟨fun n => (.ok payload, n + 1), fun _ => rfl⟩
  obtain ⟨result, w, w', -, -, hon, hoff, hw⟩ := prefetching_unseen shop _ rfl hlisteners
    (Schema.association?_ofTable_eq_none (by decide))
    (Schema.association?_ofTable_eq_none (by decide))
    (shopConfig.toggled_withOption ⟨true, rfl⟩ ⟨false, rfl⟩)
    ((shopConfig_ignores _).withOption (Setting.ignores_literal _))
    (CallOptions.toggled_withOption default ⟨true, rfl⟩ ⟨false, rfl⟩)
    ⟨fun _ h => (nomatch h), Table.forall_insert (fun _ h => nomatch h) _
      (Setting.ignores_literal _)⟩ "album" .update nameAndYear default (s := inShop)
    (Memory.seed_wellKeyed (Memory.seed_wellKeyed Rows.wellKeyed_empty))
  have hwith : nameAndYearWith true = (result, w.state) := hon
  have hwithout : nameAndYearWith false = (result, w'.state) := hoff
  refine ⟨by decide +kernel, ?_, ?_, by decide +kernel, by decide +kernel⟩
  · rw [hwith, hwithout]
  · rw [hwith, hwithout]
    exact hw.store

end Gate

end EntityGate
