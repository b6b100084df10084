/-
# The tasks of a mutation

A task is an entry together with its place in the mutation: it is one of the entries of the call,
or an entry of a chain request in the entry of another task.  The batch that a task is run in
follows from its place.

`Gate.runTasks` runs a batch as `Gate.runBatch` does and keeps in view which task is run; what is
done to write the record of a task may then depend on the task.  If it does not, it is the same
run.
-/
import EntityGate.Proofs.Simulation
import EntityGate.Proofs.Steps

namespace EntityGate

open Mutating (ofDecision)

/-- An entry and its place in a mutation. -/
inductive Task where
  /-- An entry of the batch of the call. -/
  | ofCall (b : Batch) (e : Entry)
  /-- An entry of a chain request in the entry of another task. -/
  | ofChain (parent : Task) (c : ChainEntry)

namespace Task

/-- The entry of a task. -/
def entry : Task → Entry
  | ofCall _ e => e
  | ofChain _ c => c.entry

/-- The batch that a task is run in. -/
def batch : Task → Batch
  | ofCall b _ => b
  | ofChain parent c => .nested c.association.target c.chain c.entry parent.batch.frontEnd

/-- The type of the entity of a task. -/
def entityType (t : Task) : String := t.batch.entityType

/-- What happens to the entity of a task. -/
def chain (t : Task) : Chain := t.batch.chain

/-- Whether a task is one of the call. -/
def isTop : Task → Bool
  | ofCall .. => true
  | ofChain .. => false

/-- The permissions that a task is checked against, under the rules of its type: those of the rules,
and for a task of the call also those of the call, on top. -/
def node (rules : MutationRules) : Task → Node
  | ofCall b _ => match b.overrides.mutationPermissions with
    | some top => rules.permissions.merge top
    | none => rules.permissions
  | ofChain .. => rules.permissions

lemma node_ofBatch (rules : MutationRules) (t : Task) :
    (Action.ofBatch rules t.batch).node = t.node rules := by
  cases t <;> rfl

end Task

/-- The tasks of a call. -/
def Batch.tasks (b : Batch) : List Task := b.entries.map (.ofCall b)

lemma Batch.map_entry_tasks (b : Batch) : b.tasks.map Task.entry = b.entries := by
  rw [Batch.tasks, List.map_map]
  exact List.map_id _

namespace Gate

variable {σ τ : Type} (gate : Gate σ)

/-- Bind the entry of a task and write its record with `persist`; `run` runs the entries of its
chain requests. -/
def bindTask (persist : Task → Action → EntityRecord → Mutating σ EntityRecord)
    (run : Task → ChainEntry → Mutating σ EntityRecord) (action : Action) (t : Task) :
    Mutating σ EntityRecord := do
  let r ← gate.startRecord action t.entry
  let r ← t.entry.members.foldlM (fun r (field, v) =>
    gate.bindMemberWith (run t) action r field v) r
  let r ← ofDecision (r.prepared gate.registry gate.validator action)
  persist t action r

/-- Run an entry of a chain request; `next` runs its task. -/
def runChainEntry (next : EntityConfig → Batch → List Task → Mutating σ (List EntityRecord))
    (frontEnd : FrontEndOptions) (t : Task) (c : ChainEntry) : Mutating σ EntityRecord :=
  gate.runEntry (fun config b => next config b [.ofChain t c]) frontEnd c.association.target
    c.chain c.entry

/-- Run a batch, whose entries are those of some tasks, and write their records with `persist`. -/
def runTasks (persist : Task → Action → EntityRecord → Mutating σ EntityRecord) :
    Nat → EntityConfig → Batch → List Task → Mutating σ (List EntityRecord)
  | 0, _, _, _ => throw .nestedTooDeeply
  | levels + 1, config, b, tasks => do
    let action ← gate.openBatch config b
    tasks.mapM (gate.bindTask persist (gate.runChainEntry (runTasks persist levels) b.frontEnd)
      action)

/-- The action that a task is checked as: it follows from the rules of the type of the task, and it
is allowed, or at least nothing is said about it. -/
structure ActsFor (t : Task) (action : Action) : Prop where
  rules : ∃ config rules, gate.config.entity t.entityType = .ok config ∧
    config.mutationRules t.chain = .ok rules ∧ action = Action.ofBatch rules t.batch ∧
    action.node = t.node rules
  allowed : ∃ answer, Resolve.bool? gate.registry action.ctx "allowed" action.node.allowed =
    .ok answer ∧ answer ≠ some false

variable {gate}

/-! ## Actions of tasks -/

namespace ActsFor

variable {t : Task} {action : Action} (h : gate.ActsFor t action)
include h

lemma sameType : action.entityType = t.entityType := by
  obtain ⟨-, rules, -, -, rfl, -⟩ := h.rules
  rfl

lemma sameChain : action.chain = t.chain := by
  obtain ⟨-, rules, -, -, rfl, -⟩ := h.rules
  rfl

end ActsFor

/-- The action of the batch of a task is one for the task if it is allowed. -/
lemma actsFor_of_checkAllowed {t : Task} {config : EntityConfig} {rules : MutationRules}
    (hconfig : gate.config.entity t.entityType = .ok config)
    (hrules : config.mutationRules t.chain = .ok rules)
    (hallowed : (Action.ofBatch rules t.batch).checkAllowed gate.registry = .ok ()) :
    gate.ActsFor t (Action.ofBatch rules t.batch) := by
  refine ⟨⟨config, rules, hconfig, hrules, rfl, t.node_ofBatch rules⟩, ?_⟩
  obtain ⟨answer, hanswer, h⟩ := Decision.bind_eq_ok.mp hallowed
  refine ⟨answer, hanswer, ?_⟩
  rintro rfl
  cases h

/-- A batch that is opened has an action that is allowed, and it is no batch that reads. -/
lemma openBatch_triple {inv : CallCache → σ → Prop} {fail : Fault → σ → Prop}
    (h : gate.KeepsFinds inv fail) {config : EntityConfig} {b : Batch}
    (hconfig : gate.config.entity b.entityType = .ok config) :
    Mutating.Triple inv (gate.openBatch config b) (fun action cache s =>
      (∀ t : Task, t.batch = b → gate.ActsFor t action ∧ t.chain ≠ .read) ∧ inv cache s) fail := by
  refine (h.openBatch config b).weaken (fun _ _ hs => hs) ?_ fun _ _ hs => hs
  rintro action cache s ⟨⟨rules, hrules, rfl, hallowed⟩, hs⟩
  refine ⟨?_, hs⟩
  rintro t rfl
  exact ⟨actsFor_of_checkAllowed hconfig hrules hallowed, EntityConfig.chain_ne_read hrules⟩

/-- What holds after an entry of a chain request was run: an entry that is only read is looked up,
and for each other one its task is run in its batch. -/
lemma runChainEntry_triple {pre post : CallCache → σ → Prop} {fail : Fault → σ → Prop}
    {next : EntityConfig → Batch → List Task → Mutating σ (List EntityRecord)}
    {frontEnd : FrontEndOptions} {t : Task} {c : ChainEntry} (h : gate.KeepsFinds pre fail)
    (hfault : ∀ f cache s, post cache s → fail f s)
    (hread : c.chain = .read → ∀ cache s, pre cache s → post cache s)
    (hnext : ∀ config, gate.config.entity c.association.target = .ok config → c.chain ≠ .read →
      Mutating.Triple pre (next config (.nested c.association.target c.chain c.entry frontEnd)
        [.ofChain t c]) (fun _ => post) fail) :
    Mutating.Triple pre (gate.runChainEntry next frontEnd t c) (fun _ => post) fail := by
  refine (Mutating.Triple.decided h.fault).bind fun config => .of_fact fun hconfig => ?_
  dsimp only
  split
  · rename_i hchain
    refine (h.ofDecision _).bind fun _ => ?_
    split
    · exact .throw (h.fault _)
    · exact (h.load _ _).bind fun row => .pure (hread hchain)
  · rename_i hchain
    refine (hnext config hconfig hchain).bind fun records => ?_
    split
    · exact .keep _
    · exact .throw (hfault _)

/-! ## The run of a batch, task by task -/

lemma runEntry_congr {next next' : EntityConfig → Batch → Mutating σ (List EntityRecord)}
    {frontEnd : FrontEndOptions} {target : String} {chain : Chain} {e : Entry}
    (h : ∀ config, next config (.nested target chain e frontEnd) =
      next' config (.nested target chain e frontEnd)) :
    gate.runEntry next frontEnd target chain e = gate.runEntry next' frontEnd target chain e := by
  unfold runEntry
  simp only [h]

/-- Run task by task, a batch runs as it does otherwise. -/
theorem runTasks_eq_runBatch (levels : Nat) : ∀ config b tasks, tasks.map Task.entry = b.entries →
    gate.runTasks (fun _ => gate.persist) levels config b tasks =
      gate.runBatch levels config b := by
  induction levels with
  | zero =>
    intro config b tasks _
    rfl
  | succ levels ih =>
    intro config b tasks hentries
    have hchain : ∀ t c, gate.runChainEntry (gate.runTasks (fun _ => gate.persist) levels)
        b.frontEnd t c = gate.runEntry (gate.runBatch levels) b.frontEnd c.association.target
          c.chain c.entry :=
      fun t c => runEntry_congr fun config => ih config _ [.ofChain t c] rfl
    have hbind : ∀ action t, gate.bindTask (fun _ => gate.persist)
        (gate.runChainEntry (gate.runTasks (fun _ => gate.persist) levels) b.frontEnd) action t =
          gate.bindEntry (gate.runEntry (gate.runBatch levels) b.frontEnd) action t.entry := by
      intro action t
      unfold bindTask bindEntry
      rw [bindMember_eq, funext (hchain t)]
    rw [runTasks, runBatch_succ, ← hentries]
    refine bind_congr fun action => ?_
    rw [List.mapM_map, funext (hbind action)]
    rfl

namespace Alike

variable {R : σ → τ → Prop} {gate' : Gate τ} (h : gate.Alike R gate')
include h

variable {persist : Task → Action → EntityRecord → Mutating σ EntityRecord}
  {persist' : Task → Action → EntityRecord → Mutating τ EntityRecord}
  (hpersist : ∀ t action r, Mutating.Alike R (persist t action r) (persist' t action r))
include hpersist

lemma bindTask {run : Task → ChainEntry → Mutating σ EntityRecord}
    {run' : Task → ChainEntry → Mutating τ EntityRecord}
    (hrun : ∀ t c, Mutating.Alike R (run t c) (run' t c)) (action : Action) (t : Task) :
    Mutating.Alike R (gate.bindTask persist run action t)
      (gate'.bindTask persist' run' action t) := by
  unfold Gate.bindTask
  rw [h.registry, h.validator]
  refine (h.startRecord action t.entry).bind fun r => ?_
  refine Mutating.Alike.bind ?_ fun r => ?_
  · exact .foldlM (fun r member => h.bindMemberWith (hrun t) action r member.1 member.2)
      t.entry.members r
  · exact (Mutating.Alike.ofDecision _).bind fun r => hpersist t action r

/-- Tasks run alike at gates that work alike if their records are written alike. -/
theorem runTasks (levels : Nat) : ∀ config b tasks,
    Mutating.Alike R (gate.runTasks persist levels config b tasks)
      (gate'.runTasks persist' levels config b tasks) := by
  induction levels with
  | zero =>
    intro config b tasks
    exact .throw _
  | succ levels ih =>
    intro config b tasks
    refine (h.openBatch config b).bind fun action => .mapM (fun t => ?_) tasks
    refine h.bindTask hpersist (fun t c => ?_) action t
    exact h.runEntry (fun config b => ih config b [.ofChain t c]) b.frontEnd c.association.target
      c.chain c.entry

end Alike

/-! ## The mutation around its batch -/

section

variable (gate)

/-- Run the batch of a plan by `run`, and flush it. -/
def flushAfter (run : Mutating σ (List EntityRecord)) (p : Plan) :
    Effect σ (List EntityRecord) := do
  let records ← run.withoutCache
  if p.flush then Effect.ofStore gate.persistence.flush
  return records

/-- Run a plan, its batch by `run`. -/
def performWith (run : Mutating σ (List EntityRecord)) (p : Plan) :
    Effect σ (List EntityRecord) :=
  if p.transaction then gate.inTransaction (gate.flushAfter run p) else gate.flushAfter run p

/-- What a plan leads to if its batch is run by `run`. -/
def carryOutWith (run : Mutating σ (List EntityRecord)) (entityType : String) (p : Plan) :
    Effect σ (List EntityRecord) := do
  let records ← gate.performWith run p
  let _ ← gate.toArray entityType (records.map EntityRecord.toRow)
  return records

lemma carryOut_eq (entityType : String) (p : Plan) :
    gate.carryOut entityType p = gate.carryOutWith
      (gate.runBatch (p.batch.levels + gate.addedLevels) p.config p.batch) entityType p := rfl

end

lemma Alike.carryOutWith {R : σ → τ → Prop} {gate' : Gate τ} (h : gate.Alike R gate')
    {run : Mutating σ (List EntityRecord)} {run' : Mutating τ (List EntityRecord)}
    (hrun : Mutating.Alike R run run') (entityType : String) (p : Plan) :
    EntityGate.Alike R (gate.carryOutWith run entityType p)
      (gate'.carryOutWith run' entityType p) := by
  have hflush : EntityGate.Alike R (gate.flushAfter run p) (gate'.flushAfter run' p) := by
    refine hrun.withoutCache.bind fun records => ?_
    split
    · exact h.flush.ofStore.bind fun _ => .pure _
    · exact .pure _
  refine EntityGate.Alike.bind ?_ fun records => (h.toArray _ _).bind fun _ => .pure _
  unfold performWith
  split
  · exact h.inTransaction hflush
  · exact hflush

/-- What holds after a plan was run, from what holds after its batch: the calls around the
transaction and the flush have to keep it. -/
lemma performWith_withoutCache_triple {run : Mutating σ (List EntityRecord)} {p : Plan}
    {pre fail : σ → Prop} {post : List EntityRecord → σ → Prop}
    (hrun : Effect.Triple pre run.withoutCache post fun _ => fail)
    (hpre : ∀ s, pre s → fail s) (hpost : ∀ records s, post records s → fail s)
    (hbegin : StateKept pre gate.persistence.begin)
    (hflush : ∀ records, StateKept (post records) gate.persistence.flush)
    (hcommit : ∀ records, StateKept (post records) gate.persistence.commit)
    (hrollback : StateKept fail gate.persistence.rollback) :
    Effect.Triple pre (gate.performWith run p) post fun _ => fail := by
  have hbody : Effect.Triple pre (gate.flushAfter run p) post fun _ => fail := by
    refine hrun.bind fun records => ?_
    dsimp only
    split
    · exact ((hflush records).store.weaken (fun _ hs => hs) (fun _ _ hs => hs)
        fun _ s hs => hpost records s hs).bind fun _ => .pure fun _ hs => hs
    · exact .pure fun _ hs => hs
  unfold performWith
  split
  · exact inTransaction_keeps hpre hpost hbegin hbody hcommit hrollback
  · exact hbody

/-- The same, where nothing is said about the cache. -/
lemma performWith_triple {run : Mutating σ (List EntityRecord)} {p : Plan} {pre fail : σ → Prop}
    {post : List EntityRecord → σ → Prop}
    (hrun : Mutating.Triple (fun _ => pre) run (fun records _ => post records) fun _ => fail)
    (hpre : ∀ s, pre s → fail s) (hpost : ∀ records s, post records s → fail s)
    (hbegin : StateKept pre gate.persistence.begin)
    (hflush : ∀ records, StateKept (post records) gate.persistence.flush)
    (hcommit : ∀ records, StateKept (post records) gate.persistence.commit)
    (hrollback : StateKept fail gate.persistence.rollback) :
    Effect.Triple pre (gate.performWith run p) post fun _ => fail :=
  performWith_withoutCache_triple (hrun.withoutCache.weaken (fun _ hs => hs)
    (fun _ _ hs => hs.elim fun _ h => h) fun _ _ hs => hs) hpre hpost hbegin hflush hcommit
    hrollback

/-- What holds after a mutation, from what holds after its plan was run: the listeners around the
return have to keep it. -/
theorem carryOutWith_triple {run : Mutating σ (List EntityRecord)} {entityType : String} {p : Plan}
    {pre fail : σ → Prop} {post : List EntityRecord → σ → Prop}
    (hperform : Effect.Triple pre (gate.performWith run p) post fun _ => fail)
    (hpost : ∀ records s, post records s → fail s)
    (hlistener : ∀ l ∈ gate.events, ∀ event ∈ Event.closing, ∀ records entityType payload,
      StateKept (post records) (l.listener event entityType payload)) :
    Effect.Triple pre (gate.carryOutWith run entityType p) post fun _ => fail := by
  refine hperform.bind fun records => ?_
  have hshow : Effect.Triple (post records)
      (gate.toArray entityType (records.map EntityRecord.toRow)) (fun _ => post records)
      fun _ => post records :=
    toArray_keeps (fun l hl event hevent => hlistener l hl event hevent records) entityType _
  exact (hshow.weaken (fun _ hs => hs) (fun _ _ hs => hs) fun _ => hpost records).bind fun _ =>
    .pure fun _ hs => hs

end Gate

end EntityGate
