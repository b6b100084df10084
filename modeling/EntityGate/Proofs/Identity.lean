/-
# Requests cannot forge ids

An entity that is created gets its id from the store, and an entity that exists keeps the id that it
was loaded with.  To say so of every record that is handed to the store, the journal of a mutation
is kept with labels: each happening bears the entry whose record is being written, with the row that
was loaded for it.  The labels are only written and never read, so the happenings are those of the
journal.

An id may stand among the params, come out of a hook or be passed on by a listener.  It becomes a
field at most, and the store puts the id of the record in its place.
-/
import EntityGate.Proofs.Rows
import EntityGate.Proofs.Tasks

namespace EntityGate

open Mutating (Triple Returns)

/-! ## A journal with labels -/

/-- A state with a journal whose happenings bear a label. -/
structure Labelled (τ σ : Type) where
  state : σ
  /-- The label for what happens next. -/
  label : Option τ
  lines : List (Option τ × Happening)

namespace Labelled

variable {τ σ α ε : Type}

/-- The beginning of a journal. -/
def opening (s : σ) : Labelled τ σ := ⟨s, none, []⟩

/-- The state in which something has happened. -/
def happened (w : Labelled τ σ) (s : σ) (h : Happening) : Labelled τ σ :=
  { w with state := s, lines := w.lines ++ [(w.label, h)] }

/-- Run something on the state, and note in the journal whether it answered. -/
def noting (note : Bool → Happening) (run : ExceptT ε (StateM σ) α) :
    ExceptT ε (StateM (Labelled τ σ)) α := fun w =>
  match run w.state with
  | (.ok a, s) => (.ok a, w.happened s (note true))
  | (.error e, s) => (.error e, w.happened s (note false))

/-- The store with a journal. -/
def persistence (p : Persistence σ) : Persistence (Labelled τ σ) where
  execute := fun q => noting (.called (.execute q)) (p.execute q)
  executePaginated := fun q fetchJoin returnCount =>
    noting (.called (.executePaginated q fetchJoin returnCount))
      (p.executePaginated q fetchJoin returnCount)
  findIn := fun entityType ids =>
    noting (.called (.findIn entityType ids)) (p.findIn entityType ids)
  insert := fun r => noting (.called (.insert r)) (p.insert r)
  update := fun r => noting (.called (.update r)) (p.update r)
  remove := fun r => noting (.called (.remove r)) (p.remove r)
  schema := p.schema
  begin := noting (.called .begin) p.begin
  commit := noting (.called .commit) p.commit
  rollback := noting (.called .rollback) p.rollback
  flush := noting (.called .flush) p.flush

/-- A listener with a journal. -/
def subscription (s : Subscription σ) : Subscription (Labelled τ σ) where
  event := s.event
  listener := fun event entityType payload =>
    noting (.heard event entityType) (s.listener event entityType payload)

/-- Run a part of a mutation whose happenings bear a label. -/
def under (label : τ) (p : Mutating (Labelled τ σ) α) : Mutating (Labelled τ σ) α :=
  fun cache w =>
    let (result, w) := p cache { w with label := some label }
    (result, { w with label := none })

end Labelled

namespace Gate

variable {σ : Type} (gate : Gate σ)

/-- The gate with labels in its journal. -/
def labelled (τ : Type) : Gate (Labelled τ σ) where
  config := gate.config
  registry := gate.registry
  persistence := Labelled.persistence gate.persistence
  validator := gate.validator
  events := gate.events.map Labelled.subscription
  addedLevels := gate.addedLevels
  bareLevels := gate.bareLevels

/-- A journal tells the same with labels and without. -/
def Tells {τ : Type} (w : Labelled τ σ) (w' : Journaled σ) : Prop :=
  w.state = w'.state ∧ w.lines.map Prod.snd = w'.journal

lemma noting_tells {τ ε α : Type} (note : Bool → Happening) (run : ExceptT ε (StateM σ) α) :
    EntityGate.Alike Tells (Labelled.noting (τ := τ) note run) (Journaled.noting note run) := by
  rintro w w' ⟨hstate, hlines⟩
  unfold Labelled.noting Journaled.noting
  rw [hstate]
  cases run w'.state with
  | mk result s =>
    cases result
    all_goals
      refine ⟨rfl, rfl, ?_⟩
      show (w.lines ++ [_]).map Prod.snd = _
      rw [List.map_append, hlines]
      rfl

/-- A gate with labels in its journal works like the one without. -/
theorem labelled_alike (τ : Type) : (gate.labelled τ).Alike Tells gate.journaled where
  config := rfl
  registry := rfl
  validator := rfl
  schema := rfl
  addedLevels := rfl
  bareLevels := rfl
  findIn _ _ := noting_tells _ _
  insert _ := noting_tells _ _
  update _ := noting_tells _ _
  remove _ := noting_tells _ _
  begin := noting_tells _ _
  commit := noting_tells _ _
  rollback := noting_tells _ _
  flush := noting_tells _ _
  events := by
    refine List.forall₂_map_left_iff.mpr (List.forall₂_map_right_iff.mpr
      (List.forall₂_same.mpr fun l _ => ?_))
    exact ⟨rfl, fun event entityType payload => noting_tells _ _⟩

/-! ## What is taken in -/

/-- The row that is loaded for an entry; nothing is loaded for one that creates its entity. -/
def loadFor (action : Action) (e : Entry) : Mutating σ (Option Json) := do
  if action.chain = .create then return none
  else match e.id with
    | none => throw (.invalidParams (.unidentified action.chain.name action.entityType))
    | some id => return some (← gate.load action.entityType id)

end Gate

/-- The record that an entry starts from, by the row that was loaded for it. -/
def Action.startOf (action : Action) (e : Entry) : Option Json → EntityRecord
  | none => .ofType action.entityType
  | some row =>
    let r := EntityRecord.ofRow action.entityType row
    { r.withFields r.fields with id := some ((row.get? "id").getD (e.id.getD .null)) }

/-- The entry whose record is being written, and the row that was loaded for it. -/
structure Intake where
  action : Action
  entry : Entry
  loaded : Option Json

namespace Gate

open Mutating (ofDecision)

variable {σ : Type} (gate : Gate σ)

/-- An entry starts from the row that is loaded for it. -/
lemma startRecord_eq (action : Action) (e : Entry) :
    gate.startRecord action e = (do return action.startOf e (← gate.loadFor action e)) := by
  have hid : ∀ row : Json, Json.lookup "id" (row.fields?.getD []) = row.get? "id" := by
    intro row
    cases row <;> rfl
  unfold startRecord loadFor
  split
  · rw [pure_bind]
    rfl
  · cases he : e.id with
    | none => rfl
    | some id =>
      dsimp only
      rw [bind_assoc]
      refine bind_congr fun row => ?_
      rw [pure_bind, Action.startOf, ← hid, he]
      rfl

/-- Bind an entry and write its record, with the entry and the row that was loaded for it as the
label. -/
def takeIn (run : String → Chain → Entry → Mutating (Labelled Intake σ) EntityRecord)
    (action : Action) (e : Entry) : Mutating (Labelled Intake σ) EntityRecord := do
  let loaded ← (gate.labelled Intake).loadFor action e
  let r ← e.members.foldlM (fun r (field, v) =>
    (gate.labelled Intake).bindMember run action r field v) (action.startOf e loaded)
  let r ← ofDecision (r.prepared gate.registry gate.validator action)
  Labelled.under ⟨action, e, loaded⟩ ((gate.labelled Intake).persist action r)

/-- Run the batch of a plan with labels. -/
def runTakingIn (p : Plan) : Mutating (Labelled Intake σ) (List EntityRecord) :=
  (gate.labelled Intake).runBatchWith gate.takeIn (p.batch.levels + gate.addedLevels) p.config
    p.batch

/-- The journal of a mutation with labels; without a plan, nothing happens. -/
def intakes (entityType : String) (chain : Chain) (params : Json) (overrides : CallOptions)
    (frontEnd : FrontEndOptions) (s : σ) : List (Option Intake × Happening) :=
  match gate.plan entityType chain params overrides frontEnd with
  | .error _ => []
  | .ok p =>
    ((gate.labelled Intake).carryOutWith (gate.runTakingIn p) entityType p (.opening s)).2.lines

/-! ### The journal -/

variable {gate}

lemma takeIn_alike {run : String → Chain → Entry → Mutating (Labelled Intake σ) EntityRecord}
    {run' : String → Chain → Entry → Mutating (Journaled σ) EntityRecord}
    (hrun : ∀ target chain e, Mutating.Alike Tells (run target chain e) (run' target chain e))
    (action : Action) (e : Entry) :
    Mutating.Alike Tells (gate.takeIn run action e) (gate.journaled.bindEntry run' action e) := by
  have h := gate.labelled_alike Intake
  have hload : Mutating.Alike Tells ((gate.labelled Intake).loadFor action e)
      (gate.journaled.loadFor action e) := by
    unfold loadFor
    split
    · exact .pure _
    · split
      · exact .throw _
      · exact (h.load _ _).bind fun row => .pure _
  unfold bindEntry
  rw [startRecord_eq, bind_assoc]
  refine hload.bind fun loaded => ?_
  rw [pure_bind]
  refine Mutating.Alike.bind ?_ fun bound => ?_
  · exact .foldlM (fun r member => h.bindMember hrun action r member.1 member.2) e.members _
  refine (Mutating.Alike.ofDecision _).bind fun ready => ?_
  -- the label is not seen by the gate, so only the lines differ
  intro cache w w' hw
  exact h.persist action ready cache { w with label := some ⟨action, e, loaded⟩ } w' hw

/-- A batch that is run with labels does what it does without. -/
theorem runTakingIn_alike (levels : Nat) : ∀ config b, Mutating.Alike Tells
    ((gate.labelled Intake).runBatchWith gate.takeIn levels config b)
    (gate.journaled.runBatch levels config b) := by
  have h := gate.labelled_alike Intake
  induction levels with
  | zero =>
    intro config b
    exact .throw _
  | succ levels ih =>
    intro config b
    rw [runBatchWith_succ, runBatch_succ]
    exact (h.openBatch config b).bind fun action =>
      .mapM (takeIn_alike (h.runEntry ih b.frontEnd) action) b.entries

variable (gate) in
/-- What happens in a mutation is what its journal tells. -/
theorem map_snd_intakes (entityType : String) (chain : Chain) (params : Json)
    (overrides : CallOptions) (frontEnd : FrontEndOptions) (s : σ) :
    (gate.intakes entityType chain params overrides frontEnd s).map Prod.snd =
      ((gate.journaled.mutate entityType chain params overrides frontEnd).outcome
        (.opening s)).2.journal := by
  rw [Effect.outcome, mutate_run, journaled_plan, intakes]
  cases gate.plan entityType chain params overrides frontEnd with
  | error f => rfl
  | ok p =>
    have hrun : Mutating.Alike Tells (gate.runTakingIn p) (gate.journaled.runBatch
        (p.batch.levels + gate.addedLevels) p.config p.batch) := runTakingIn_alike _ _ _
    have htells := (gate.labelled_alike Intake).carryOutWith hrun entityType p (.opening s)
      (.opening s) ⟨rfl, rfl⟩
    exact htells.2.2

end Gate

/-! ## What may be written under a label -/

namespace Labelled

open Gate

variable {τ σ : Type} {gate : Gate σ}

/-- Every write among the lines of a labelled journal satisfies an assertion about its label, and
the label for what happens next is known. -/
def Writes (P : Option τ → Chain → EntityRecord → Prop) (label : Option τ)
    (w : Labelled τ σ) : Prop :=
  w.label = label ∧
    ∀ line ∈ w.lines, ∀ chain r, line.2.write? = some (chain, r) → P line.1 chain r

variable {P : Option τ → Chain → EntityRecord → Prop}

/-- What is noted keeps the assertion if it holds of what is written. -/
lemma noting_writes {ε α : Type} {label : Option τ} {note : Bool → Happening}
    (hnote : ∀ answered chain r, (note answered).write? = some (chain, r) → P label chain r)
    (run : ExceptT ε (StateM σ) α) : StateKept (Writes P label) (noting note run) := by
  rintro w ⟨hlabel, hlines⟩
  unfold noting
  cases run w.state with
  | mk result s =>
    cases result
    all_goals
      refine ⟨hlabel, fun line hline => ?_⟩
      rcases List.mem_append.mp hline with hline | hline
      · exact hlines line hline
      · rw [List.mem_singleton.mp hline, hlabel]
        exact hnote _

/-- What is no write may always be noted. -/
lemma noting_aside {ε α : Type} {label : Option τ} {note : Bool → Happening}
    (hnote : ∀ answered, (note answered).write? = none) (run : ExceptT ε (StateM σ) α) :
    StateKept (Writes P label) (noting note run) := by
  refine noting_writes (fun answered chain r hwrite => ?_) run
  rw [hnote] at hwrite
  cases hwrite

/-- A listener only notes that it was heard. -/
lemma listener_writes {label : Option τ} {l : Subscription (Labelled τ σ)}
    (hl : l ∈ (gate.labelled τ).events) (event : Event) (entityType : String) (payload : Json) :
    StateKept (Writes P label) (l.listener event entityType payload) := by
  obtain ⟨own, -, rfl⟩ := List.mem_map.mp hl
  exact noting_aside (fun _ => rfl) _

/-- Lookups and listeners write nothing. -/
lemma keepsLookups (gate : Gate σ) (P : Option τ → Chain → EntityRecord → Prop)
    (label : Option τ) : (gate.labelled τ).KeepsLookups (fun _ => Writes P label)
      fun _ => Writes P label := by
  have hfinds : (gate.labelled τ).KeepsFinds (fun _ => Writes P label) fun _ => Writes P label :=
    keepsFinds_of_findIn fun _ _ => noting_aside (fun _ => rfl) _
  refine ⟨hfinds.load, hfinds.fetch, fun event _ entityType payload => ?_, hfinds.fault⟩
  exact .ofEffect fun _ =>
    publish_keeps (fun _ hl => listener_writes hl event) entityType payload

/-- A record that is persisted under a label is handed to the store once, with the fields that the
listeners leave it. -/
lemma persist_under {label : τ} {action : Action} {r : EntityRecord}
    (h : ∀ fields, P (some label) action.chain { r with fields }) :
    Triple (fun _ => Writes P none)
      (under label ((gate.labelled τ).persist action r))
      (fun _ _ => Writes P none) fun _ => Writes P none := by
  have hpublish : ∀ event payload, Effect.Triple (Writes P (some label))
      ((gate.labelled τ).publish event action.entityType payload)
      (fun _ => Writes P (some label)) fun _ => Writes P (some label) :=
    fun event => publish_keeps (fun _ hl => listener_writes hl event) action.entityType
  have hpersist : Triple (fun _ => Writes P (some label)) ((gate.labelled τ).persist action r)
      (fun _ _ => Writes P (some label)) fun _ => Writes P (some label) := by
    refine persist_keeps (hpublish _) (hpublish _) fun fields => writeRecord_kept ?_ ?_ ?_
    all_goals
      intro hchain
      refine noting_writes (fun answered chain r' hwrite => ?_) _
      cases hwrite
      rw [← hchain]
      exact h fields
  -- the label is taken off at the end, whatever comes out
  intro cache w hw
  have hrun := hpersist cache { w with label := some label } ⟨rfl, hw.2⟩
  have hunder : (under label ((gate.labelled τ).persist action r)).run cache w =
      ((((gate.labelled τ).persist action r).run cache { w with label := some label }).1,
        { (((gate.labelled τ).persist action r).run cache { w with label := some label }).2 with
          label := none }) := rfl
  rw [hunder]
  cases hend : ((gate.labelled τ).persist action r).run cache { w with label := some label } with
  | mk result w' =>
    rw [hend] at hrun
    cases result <;> exact ⟨rfl, hrun.2⟩

/-- Around its batch, a mutation writes nothing. -/
lemma carryOutWith_writes (gate : Gate σ) {label : Option τ}
    {run : Mutating (Labelled τ σ) (List EntityRecord)}
    (hrun : Triple (fun _ => Writes P label) run (fun _ _ => Writes P label)
      fun _ => Writes P label) (entityType : String) (p : Plan) :
    StateKept (Writes P label) ((gate.labelled τ).carryOutWith run entityType p) := by
  have hperform : Effect.Triple (Writes P label) ((gate.labelled τ).performWith run p)
      (fun _ => Writes P label) fun _ => Writes P label :=
    performWith_triple hrun (fun _ hw => hw) (fun _ _ hw => hw) (noting_aside (fun _ => rfl) _)
      (fun _ => noting_aside (fun _ => rfl) _) (fun _ => noting_aside (fun _ => rfl) _)
      (noting_aside (fun _ => rfl) _)
  exact .of_triple <| carryOutWith_triple hperform (fun _ _ hw => hw)
    fun _ hl event _ _ entityType payload => listener_writes hl event entityType payload

end Labelled

/-! ## Ids -/

namespace Memory

/-- The row of an entity was stored under an id: it holds the id, it is found under it, and all
other rows are where they were. -/
structure Stores (entityType : String) (id row : Json) (m m' : Memory) : Prop where
  holds : row.get? "id" = some id
  found : m'.row? entityType id = some row
  others : ∀ entityType' key, ¬(entityType' = entityType ∧ key = idKey id) →
    m'.tables.at? entityType' key = m.tables.at? entityType' key

lemma Wrote.stores {schema : Schema} {r : EntityRecord} {m m' : Memory} {row : Json}
    {chain : Chain} (h : Wrote schema r m row m' chain) (hkept : chain ≠ .delete)
    (hkeeps : KeepsId schema r) {id : Json} (hid : row.get? "id" = some id) :
    Stores r.entityType id row m m' := by
  obtain ⟨own, hown, hrows⟩ := h.at? hkeeps
  rw [hid] at hown
  cases hown
  refine ⟨hid, ?_, fun entityType' key hother => ?_⟩
  · rw [row?_eq, hrows, if_pos ⟨rfl, rfl⟩, if_neg hkept]
  · rw [hrows, if_neg hother]

/-- A record without an id is stored under a generated one. -/
lemma stores_of_insert {schema : Schema} {r : EntityRecord} {m m' : Memory} {row : Json}
    (hid : r.id = none) (hkeeps : KeepsId schema r) (h : insert schema r m = (.ok row, m')) :
    Stores r.entityType m.nextId row m m' := by
  have hrow : rowOf schema r m.nextId = .ok row := by
    rw [insert, hid] at h
    dsimp only [newId, logged] at h
    split at h
    · cases h
    · rename_i row' hrow
      split at h
      · cases h
      · cases h
        exact hrow
  exact (wrote_of_insert h).stores (by decide) hkeeps (hkeeps _ _ hrow)

/-- A record with an id is stored under it. -/
lemma stores_of_update {schema : Schema} {r : EntityRecord} {m m' : Memory} {row id : Json}
    (hid : r.id = some id) (hkeeps : KeepsId schema r) (h : update schema r m = (.ok row, m')) :
    Stores r.entityType id row m m' := by
  have hwrote := wrote_of_update h
  cases hwrote with
  | update own hown hrow hold htables =>
    rw [hid] at hown
    cases hown
    exact (wrote_of_update h).stores (by decide) hkeeps (hkeeps _ _ hrow)

end Memory

/-- The id of a record that is handed to the store for an entry, and what becomes of it in memory.
A record that is created has no id, so it is stored under a generated one; all others have the id
of the row that was loaded for the entry, and are stored under it.  If the row should hold no id,
it is the one that it was asked for under. -/
structure Intake.Unforged (i : Intake) (chain : Chain) (r : EntityRecord) : Prop where
  sameChain : chain = i.action.chain
  sameType : r.entityType = i.action.entityType
  created : chain = .create → r.id = none
  loaded : chain ≠ .create → ∃ id row, i.entry.id = some id ∧ i.loaded = some row ∧
    r.id = some ((row.get? "id").getD id)
  inserted : chain = .create → ∀ schema m row m', Memory.insert schema r m = (.ok row, m') →
    Memory.Stores r.entityType m.nextId row m m'
  updated : chain = .update → ∀ schema m row m', Memory.update schema r m = (.ok row, m') →
    ∃ id, r.id = some id ∧ Memory.Stores r.entityType id row m m'

/-- What is loaded for an entry: nothing if its entity is created, else the row of the id that it
names. -/
def Action.Loads (action : Action) (e : Entry) (loaded : Option Json) : Prop :=
  (action.chain = .create ∧ loaded = none) ∨
    (action.chain ≠ .create ∧ ∃ id row, e.id = some id ∧ loaded = some row)

namespace Gate

variable {σ : Type} {gate : Gate σ}

lemma loadFor_returns (action : Action) (e : Entry) :
    Returns (gate.loadFor action e) (action.Loads e) := by
  unfold loadFor
  split
  · rename_i hcreate
    exact .pure (.inl ⟨hcreate, rfl⟩)
  · rename_i hloads
    cases he : e.id with
    | none => exact .throw fun _ _ _ => trivial
    | some id => exact .after _ fun row => .pure (.inr ⟨hloads, id, row, he, rfl⟩)

lemma KeepsFinds.loadFor {inv : CallCache → σ → Prop} {fail : Fault → σ → Prop}
    (h : gate.KeepsFinds inv fail) (action : Action) (e : Entry) :
    Triple inv (gate.loadFor action e) (fun _ => inv) fail := by
  unfold Gate.loadFor
  split
  · exact .keep _
  · split
    · exact h.throw _
    · exact (h.load _ _).bind fun row => .keep _

/-- The record that an entry starts from is of its type and has no changes. -/
lemma startOf_same (action : Action) (e : Entry) (loaded : Option Json) :
    (action.startOf e loaded).entityType = action.entityType ∧
      (action.startOf e loaded).changes = [] := by
  cases loaded <;> exact ⟨rfl, rfl⟩

/-- Whatever fields it is sent with, a record that was made for an entry is not forged: its members
and its hooks leave the id alone, and none of its changes is one of the id. -/
lemma Makes.unforged {action : Action} {e : Entry} {loaded : Option Json}
    {bound ready : EntityRecord} (h : gate.Makes action e (action.startOf e loaded) bound ready)
    (hloads : action.Loads e loaded) (fields : List (String × Json)) :
    (Intake.mk action e loaded).Unforged action.chain { ready with fields } := by
  -- fields come and go, but the id is the one that the entry started with
  have hid : ready.id = (action.startOf e loaded).id :=
    (EntityRecord.prepared_sameBut h.prepared).sameId.trans h.advanced.sameId
  have hkeeps : ∀ schema, Memory.KeepsId schema { ready with fields } :=
    fun schema => Memory.keepsId_of_changes fun c hc => h.relation_ne_id hc
  have hcreated : action.chain = .create → ready.id = none := by
    intro hcreate
    rcases hloads with ⟨-, rfl⟩ | ⟨hloads, -⟩
    · exact hid
    · exact absurd hcreate hloads
  have hloaded : action.chain ≠ .create → ∃ id row, e.id = some id ∧ loaded = some row ∧
      ready.id = some ((row.get? "id").getD id) := by
    intro hkept
    rcases hloads with ⟨hcreate, -⟩ | ⟨-, id, row, he, rfl⟩
    · exact absurd hcreate hkept
    · refine ⟨id, row, he, rfl, hid.trans ?_⟩
      rw [Action.startOf, he]
      rfl
  refine ⟨rfl, h.readyType, hcreated, hloaded, ?_, ?_⟩
  · intro hcreate schema m row m' hinsert
    exact Memory.stores_of_insert (hcreated hcreate) (hkeeps schema) hinsert
  · intro hupdate schema m row m' hrun
    obtain ⟨id, old, -, -, hold⟩ := hloaded (by rw [hupdate]; decide)
    exact ⟨_, hold, Memory.stores_of_update hold (hkeeps schema) hrun⟩

/-- What is written under an intake is not forged; nothing is written without one. -/
def UnforgedUnder (label : Option Intake) (chain : Chain) (r : EntityRecord) : Prop :=
  ∃ i, label = some i ∧ i.Unforged chain r

/-- Nothing with a forged id was written so far, and no record is being written. -/
abbrev NoneForged (w : Labelled Intake σ) : Prop := w.Writes UnforgedUnder none

/-- An entry writes no record with a forged id, if the entries of its chain requests do not. -/
lemma takeIn_unforged {run : String → Chain → Entry → Mutating (Labelled Intake σ) EntityRecord}
    (hrun : ∀ target chain e, Triple (fun _ => NoneForged) (run target chain e)
      (fun _ _ => NoneForged) fun _ => NoneForged)
    (action : Action) (e : Entry) :
    Triple (fun _ => NoneForged) (gate.takeIn run action e)
      (fun _ _ => NoneForged) fun _ => NoneForged := by
  have hlookups := Labelled.keepsLookups gate UnforgedUnder none
  refine ((loadFor_returns action e).and (hlookups.finds.loadFor action e)).bind
    fun loaded => .of_fact fun hloads => ?_
  refine ((bindMembers_returns e _).and (hlookups.bindMembers hrun action e.members _)).bind
    fun bound => .of_fact fun hadvanced => ?_
  refine (Triple.decided hlookups.fault).bind fun ready => .of_fact fun hready => ?_
  obtain ⟨htype, hchanges⟩ := startOf_same action e loaded
  have hmakes : (gate.labelled Intake).Makes action e (action.startOf e loaded) bound ready :=
    ⟨htype, hchanges, hadvanced, hready⟩
  exact Labelled.persist_under fun fields => ⟨_, rfl, hmakes.unforged hloads fields⟩

/-- Ids cannot be forged, whatever a mutation asks for and whatever its hooks and its listeners
return: each record that is handed to the store is written for an entry, without an id if it is
created, and otherwise with the id of the row that was loaded for the entry.  The labels stand in
the journal of the mutation. -/
theorem ids_unforged (gate : Gate σ) (entityType : String) (chain : Chain) (params : Json)
    (overrides : CallOptions) (frontEnd : FrontEndOptions) (s : σ) :
    (gate.intakes entityType chain params overrides frontEnd s).map Prod.snd =
      ((gate.journaled.mutate entityType chain params overrides frontEnd).outcome
        (.opening s)).2.journal ∧
    ∀ line ∈ gate.intakes entityType chain params overrides frontEnd s,
      ∀ chain r, line.2.write? = some (chain, r) →
        ∃ i, line.1 = some i ∧ i.Unforged chain r := by
  refine ⟨gate.map_snd_intakes entityType chain params overrides frontEnd s, ?_⟩
  intro line hline
  rw [intakes] at hline
  split at hline
  · cases hline
  · rename_i p hplan
    have hrun : Triple (fun _ => NoneForged) (gate.runTakingIn p)
        (fun _ _ => NoneForged) fun _ => NoneForged :=
      (Labelled.keepsLookups gate UnforgedUnder none).runBatchWith
        (fun _ _ action e _ hrun => takeIn_unforged hrun action e) _ _ _
    have hall := Labelled.carryOutWith_writes gate hrun entityType p (.opening s)
      ⟨rfl, by simp [Labelled.opening]⟩
    exact hall.2 line hline

/-- The artist and her album ask for ids of their own, and are inserted without. -/
example : ((artists.intakes "artist" .create
      (.obj [("albums", .obj [("create", .arr [.obj [("id", .str "one")]])]), ("id", .str "ann")])
      default default .empty).filterMap
      fun line => line.2.write?.map fun write => (write.1, write.2.entityType, write.2.id.isNone)) =
    [(.create, "album", true), (.create, "artist", true)] := by
  decide +kernel

end Gate

end EntityGate
