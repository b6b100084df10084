/-
# Every write is authorized

A ledger is a journal that tells for each happening which task was being written when it
happened.  It is kept by a run of the mutation task by task, over a state with the ledger; the run
only writes it and never reads it, so the happenings of the ledger are those of the journal.

Listeners may replace chain requests and values once a mutation has been verified, and so bring
about tasks that verification has not seen.  But a task is only run if its action is allowed, and
if the action of its parent allows its chain and its assignment; its fields are checked when they
are bound, and a change is only added if its assignment is allowed.  So whatever listeners do,
each write of the ledger belongs to a task that is authorized.
-/
import EntityGate.Proofs.Binding
import EntityGate.Proofs.Tasks

namespace EntityGate

open Mutating (Triple)

/-! ## Ledgers -/

/-- Something that happened, and the task whose record was being written at that time. -/
structure LedgerLine where
  task : Option Task
  happening : Happening

/-- A state with a ledger. -/
structure Ledgered (σ : Type) where
  state : σ
  /-- The task whose record is being written. -/
  task : Option Task
  lines : List LedgerLine

namespace Ledgered

variable {σ α ε : Type}

/-- The beginning of a ledger. -/
def opening (s : σ) : Ledgered σ := ⟨s, none, []⟩

/-- Run something on the state, and note in the ledger whether it answered. -/
def noting (note : Bool → Happening) (run : ExceptT ε (StateM σ) α) :
    ExceptT ε (StateM (Ledgered σ)) α := fun w =>
  match run w.state with
  | (.ok a, s) => (.ok a, { w with state := s, lines := w.lines ++ [⟨w.task, note true⟩] })
  | (.error e, s) => (.error e, { w with state := s, lines := w.lines ++ [⟨w.task, note false⟩] })

/-- The store with a ledger. -/
def persistence (p : Persistence σ) : Persistence (Ledgered σ) where
  execute := fun q => noting (.called (.execute q)) (p.execute q)
  executePaginated := fun q fetchJoin returnCount =>
    noting (.called (.executePaginated q fetchJoin returnCount))
      (p.executePaginated q fetchJoin returnCount)
  findIn := fun entityType ids =>
    noting (.called (.findIn entityType ids)) (p.findIn entityType ids)
  insert := fun r => noting (.called (.insert r)) (p.insert r)
  update := fun r => noting (.called (.update r)) (p.update r)
  remove := fun r => noting (.called (.remove r)) (p.remove r)
  schema := p.schema
  begin := noting (.called .begin) p.begin
  commit := noting (.called .commit) p.commit
  rollback := noting (.called .rollback) p.rollback
  flush := noting (.called .flush) p.flush

/-- A listener with a ledger. -/
def subscription (s : Subscription σ) : Subscription (Ledgered σ) where
  event := s.event
  listener := fun event entityType payload =>
    noting (.heard event entityType) (s.listener event entityType payload)

/-- Run a part of a mutation while the record of a task is being written. -/
def writing (t : Task) (p : Mutating (Ledgered σ) α) : Mutating (Ledgered σ) α := fun cache w =>
  let (result, w) := p cache { w with task := some t }
  (result, { w with task := none })

end Ledgered

namespace Gate

variable {σ : Type} (gate : Gate σ)

/-- The gate with a ledger. -/
def ledgered : Gate (Ledgered σ) where
  config := gate.config
  registry := gate.registry
  persistence := Ledgered.persistence gate.persistence
  validator := gate.validator
  events := gate.events.map Ledgered.subscription
  addedLevels := gate.addedLevels
  bareLevels := gate.bareLevels

/-- Write the record of a task, and have the ledger tell so. -/
def persistLedgered (t : Task) (action : Action) (r : EntityRecord) :
    Mutating (Ledgered σ) EntityRecord :=
  Ledgered.writing t (gate.ledgered.persist action r)

/-- Run the batch of a plan with a ledger. -/
def runLedgered (p : Plan) : Mutating (Ledgered σ) (List EntityRecord) :=
  gate.ledgered.runTasks gate.persistLedgered (p.batch.levels + gate.addedLevels) p.config p.batch
    p.batch.tasks

/-- The ledger of a mutation; without a plan, nothing happens. -/
def ledger (entityType : String) (chain : Chain) (params : Json) (overrides : CallOptions)
    (frontEnd : FrontEndOptions) (s : σ) : List LedgerLine :=
  match gate.plan entityType chain params overrides frontEnd with
  | .error _ => []
  | .ok p =>
    (gate.ledgered.carryOutWith (gate.runLedgered p) entityType p (.opening s)).2.lines

/-! ### The ledger and the journal -/

/-- A ledger and a journal of one state tell the same. -/
def Agrees (w : Ledgered σ) (w' : Journaled σ) : Prop :=
  w.state = w'.state ∧ w.lines.map LedgerLine.happening = w'.journal

lemma noting_agrees {ε α : Type} (note : Bool → Happening) (run : ExceptT ε (StateM σ) α) :
    EntityGate.Alike Agrees (Ledgered.noting note run) (Journaled.noting note run) := by
  rintro w w' ⟨hstate, hlines⟩
  unfold Ledgered.noting Journaled.noting
  rw [hstate]
  cases run w'.state with
  | mk result s =>
    cases result
    all_goals
      refine ⟨rfl, rfl, ?_⟩
      rw [List.map_append, hlines]
      rfl

/-- A gate with a ledger works like the gate with a journal. -/
theorem ledgered_alike : gate.ledgered.Alike Agrees gate.journaled where
  config := rfl
  registry := rfl
  validator := rfl
  schema := rfl
  addedLevels := rfl
  bareLevels := rfl
  findIn _ _ := noting_agrees _ _
  insert _ := noting_agrees _ _
  update _ := noting_agrees _ _
  remove _ := noting_agrees _ _
  begin := noting_agrees _ _
  commit := noting_agrees _ _
  rollback := noting_agrees _ _
  flush := noting_agrees _ _
  events := by
    refine List.forall₂_map_left_iff.mpr (List.forall₂_map_right_iff.mpr
      (List.forall₂_same.mpr fun l _ => ?_))
    exact ⟨rfl, fun event entityType payload => noting_agrees _ _⟩

lemma persistLedgered_alike (t : Task) (action : Action) (r : EntityRecord) :
    Mutating.Alike Agrees (gate.persistLedgered t action r)
      (gate.journaled.persist action r) :=
  fun cache w w' h => gate.ledgered_alike.persist action r cache { w with task := some t } w' h

/-- The happenings of the ledger of a mutation are those of its journal. -/
theorem map_happening_ledger (entityType : String) (chain : Chain) (params : Json)
    (overrides : CallOptions) (frontEnd : FrontEndOptions) (s : σ) :
    (gate.ledger entityType chain params overrides frontEnd s).map LedgerLine.happening =
      ((gate.journaled.mutate entityType chain params overrides frontEnd).outcome
        (.opening s)).2.journal := by
  rw [Effect.outcome, mutate_run, journaled_plan, ledger]
  cases gate.plan entityType chain params overrides frontEnd with
  | error f => rfl
  | ok p =>
    have hrun : Mutating.Alike Agrees (gate.runLedgered p) (gate.journaled.runBatch
        (p.batch.levels + gate.addedLevels) p.config p.batch) := by
      rw [← runTasks_eq_runBatch _ _ _ p.batch.tasks p.batch.map_entry_tasks]
      exact gate.ledgered_alike.runTasks gate.persistLedgered_alike _ _ _ _
    have hagrees := gate.ledgered_alike.carryOutWith hrun entityType p (.opening s) (.opening s)
      ⟨rfl, rfl⟩
    exact hagrees.2.2

/-! ## Authorized tasks -/

/-- How tasks come about with permission.  A task of the call has an action that is allowed.  A
task of a chain request has one as well, and its parent came about with permission: the relation is
a member of the parent's entry, and the action of the parent allows the chain and the assignment on
it. -/
inductive Sanctioned (b : Batch) : Task → Action → Prop where
  | ofCall {e : Entry} {action : Action} (he : e ∈ b.entries)
      (hacts : gate.ActsFor (.ofCall b e) action) : Sanctioned b (.ofCall b e) action
  | ofChain {parent : Task} {above action : Action} {c : ChainEntry}
      (hparent : Sanctioned b parent above)
      (hmember : c.association.name ∈ parent.entry.members.map Prod.fst)
      (hrelation : gate.persistence.schema.association? parent.entityType c.association.name =
        some c.association)
      (hopens : above.Opens gate.registry c)
      (hacts : gate.ActsFor (.ofChain parent c) action) : Sanctioned b (.ofChain parent c) action

/-- The members under some names that are no relations have passed the check of their field. -/
def Checked (action : Action) (names : List String) : Prop :=
  ∀ field ∈ names, gate.persistence.schema.association? action.entityType field = none →
    action.checkField gate.registry field = .ok ()

/-- All changes of a record are allowed. -/
def ChangesAllowed (action : Action) (r : EntityRecord) : Prop :=
  ∀ c ∈ r.changes, action.relationAllows gate.registry .assign c.relation c.assign.name = .ok true

/-- A write belongs to a task of the call with the batch `b` that came about with permission: it is
of the type and the chain of the task, all fields that the entry of the task names have passed their
check, unless it is deleted, and all changes that are handed to the store are allowed. -/
structure Authorized (b : Batch) (t : Task) (action : Action) (chain : Chain) (r : EntityRecord) :
    Prop where
  sanctioned : gate.Sanctioned b t action
  sameChain : chain = t.chain
  sameType : r.entityType = t.entityType
  fields : t.chain ≠ .delete → gate.Checked action (t.entry.members.map Prod.fst)
  changes : gate.ChangesAllowed action r

/-- A line of a ledger is authorized if it is no write or an authorized one, on behalf of the task
that the line names. -/
def LineAuthorized (b : Batch) (line : LedgerLine) : Prop :=
  ∀ chain r, line.happening.write? = some (chain, r) →
    ∃ t action, line.task = some t ∧ gate.Authorized b t action chain r

variable {gate} {b : Batch}

/-! ### Lines -/

/-- All lines of a ledger are authorized. -/
def AllAuthorized (gate : Gate σ) (b : Batch) (w : Ledgered σ) : Prop :=
  ∀ line ∈ w.lines, gate.LineAuthorized b line

/-- All lines of a ledger are authorized, and the record of a task is being written. -/
def WritingAuthorized (gate : Gate σ) (b : Batch) (t : Task) (w : Ledgered σ) : Prop :=
  w.task = some t ∧ gate.AllAuthorized b w

lemma lineAuthorized_of_no_write {line : LedgerLine} (h : line.happening.write? = none) :
    gate.LineAuthorized b line := by
  intro chain r hwrite
  rw [h] at hwrite
  cases hwrite

lemma noting_authorized {ε α : Type} {note : Bool → Happening} (run : ExceptT ε (StateM σ) α)
    {w : Ledgered σ} (hnote : ∀ answered, gate.LineAuthorized b ⟨w.task, note answered⟩)
    (hw : gate.AllAuthorized b w) : gate.AllAuthorized b (Ledgered.noting note run w).2 := by
  unfold Ledgered.noting
  cases run w.state with
  | mk result s =>
    cases result
    all_goals
      intro line hline
      rcases List.mem_append.mp hline with hline | hline
      · exact hw line hline
      · rw [List.mem_singleton.mp hline]
        exact hnote _

lemma noting_task {ε α : Type} (note : Bool → Happening) (run : ExceptT ε (StateM σ) α)
    (w : Ledgered σ) : (Ledgered.noting note run w).2.task = w.task := by
  unfold Ledgered.noting
  cases run w.state with
  | mk result s => cases result <;> rfl

/-- What is noted in between keeps the ledger authorized if it is no write. -/
lemma noting_aside {ε α : Type} {note : Bool → Happening}
    (hnote : ∀ answered, (note answered).write? = none) (run : ExceptT ε (StateM σ) α) :
    StateKept (AllAuthorized gate b) (Ledgered.noting note run) :=
  fun _ hw => noting_authorized run (fun answered => lineAuthorized_of_no_write (hnote answered)) hw

/-- What is noted while a record is written keeps the ledger authorized if it is authorized for the
task of the record. -/
lemma noting_writing {ε α : Type} {t : Task} {note : Bool → Happening}
    (hnote : ∀ answered, gate.LineAuthorized b ⟨some t, note answered⟩)
    (run : ExceptT ε (StateM σ) α) :
    StateKept (WritingAuthorized gate b t) (Ledgered.noting note run) := by
  rintro w ⟨htask, hw⟩
  refine ⟨(noting_task note run w).trans htask, noting_authorized run (fun answered => ?_) hw⟩
  rw [htask]
  exact hnote answered

/-- Lookups and listeners keep the ledger authorized. -/
lemma ledgered_keepsLookups (gate : Gate σ) (b : Batch) :
    gate.ledgered.KeepsLookups (fun _ => AllAuthorized gate b) fun _ => AllAuthorized gate b := by
  have hfinds : gate.ledgered.KeepsFinds (fun _ => AllAuthorized gate b)
      fun _ => AllAuthorized gate b :=
    keepsFinds_of_findIn fun _ _ => noting_aside (fun _ => rfl) _
  refine ⟨hfinds.load, hfinds.fetch, fun event _ entityType payload => ?_, hfinds.fault⟩
  refine .ofEffect fun _ => publish_keeps (fun l hl entityType payload => ?_) entityType payload
  obtain ⟨own, -, rfl⟩ := List.mem_map.mp hl
  exact noting_aside (fun _ => rfl) _

/-- Writing an authorized record keeps the ledger authorized, also if listeners replace its
fields. -/
lemma persistLedgered_keeps {t : Task} {action : Action} {r : EntityRecord}
    (h : gate.Authorized b t action action.chain r) :
    Triple (fun _ => AllAuthorized gate b) (gate.persistLedgered t action r)
      (fun _ _ => AllAuthorized gate b) fun _ => AllAuthorized gate b := by
  have hline : ∀ fields call, (∀ answered, (Happening.called call answered).write? =
      some (action.chain, { r with fields })) →
      ∀ answered, gate.LineAuthorized b ⟨some t, .called call answered⟩ := by
    intro fields call hcall answered chain r' hwrite
    rw [hcall] at hwrite
    cases hwrite
    exact ⟨t, action, rfl, h.sanctioned, h.sameChain, h.sameType, h.fields, h.changes⟩
  have hpublish : ∀ event payload, Effect.Triple (WritingAuthorized gate b t)
      (gate.ledgered.publish event action.entityType payload)
      (fun _ => WritingAuthorized gate b t) fun _ => WritingAuthorized gate b t := by
    refine fun event => publish_keeps (fun l hl entityType payload => ?_) action.entityType
    obtain ⟨own, -, rfl⟩ := List.mem_map.mp hl
    exact noting_writing (fun _ => lineAuthorized_of_no_write rfl) _
  have hpersist : Triple (fun _ => WritingAuthorized gate b t) (gate.ledgered.persist action r)
      (fun _ _ => WritingAuthorized gate b t) fun _ => WritingAuthorized gate b t := by
    refine persist_keeps (hpublish _) (hpublish _) fun fields => writeRecord_kept ?_ ?_ ?_
    all_goals
      intro hchain
      exact noting_writing (hline fields _ fun answered => by rw [hchain]; rfl) _
  intro cache w hw
  have hrun := hpersist cache { w with task := some t } ⟨rfl, hw⟩
  have hwriting : (gate.persistLedgered t action r).run cache w =
      (((gate.ledgered.persist action r).run cache { w with task := some t }).1,
        { ((gate.ledgered.persist action r).run cache { w with task := some t }).2 with
          task := none }) := rfl
  rw [hwriting]
  cases hend : (gate.ledgered.persist action r).run cache { w with task := some t } with
  | mk result w' =>
    rw [hend] at hrun
    cases result <;> exact hrun.2

/-! ### Records -/

/-- What is known of a record once the members under some names have been taken in. -/
structure BoundSoFar (gate : Gate σ) (action : Action) (names : List String) (r : EntityRecord) :
    Prop where
  sameType : r.entityType = action.entityType
  fields : action.chain ≠ .delete → gate.Checked action names
  changes : gate.ChangesAllowed action r

/-- One more member, which may change a record only in ways that are allowed and, if it is no
relation, has passed the check of its field. -/
lemma BoundSoFar.snoc {action : Action} {names : List String} {field : String}
    {r r' : EntityRecord} (h : gate.BoundSoFar action names r)
    (htype : r'.entityType = r.entityType) (hchanges : gate.ChangesAllowed action r')
    (hcheck : action.chain ≠ .delete →
      gate.persistence.schema.association? action.entityType field = none →
      action.checkField gate.registry field = .ok ()) :
    gate.BoundSoFar action (names ++ [field]) r' := by
  refine ⟨htype.trans h.sameType, fun hdelete f hf hnone => ?_, hchanges⟩
  rcases List.mem_append.mp hf with hf | hf
  · exact h.fields hdelete f hf hnone
  · rw [List.mem_singleton.mp hf] at hnone ⊢
    exact hcheck hdelete hnone

lemma ChangesAllowed.addChange {action : Action} {r : EntityRecord}
    (h : gate.ChangesAllowed action r) {c : Change}
    (hc : action.relationAllows gate.registry .assign c.relation c.assign.name = .ok true) :
    gate.ChangesAllowed action (r.addChange c) := by
  intro c' hc'
  rcases List.mem_append.mp hc' with hc' | hc'
  · exact h c' hc'
  · rw [List.mem_singleton.mp hc']
    exact hc

/-- What comes out of an entry is attached by an assignment that was allowed when the entry was
opened. -/
lemma ChangesAllowed.attach {action : Action} {r : EntityRecord}
    (h : gate.ChangesAllowed action r) {c : ChainEntry} (hopens : action.Opens gate.registry c)
    (child : EntityRecord) :
    gate.ChangesAllowed action (attach r c.association.name c.assign child) := by
  unfold Gate.attach
  cases hassign : c.assign with
  | none => exact h
  | some a =>
    have hallowed := hopens.assign a hassign
    dsimp only
    split
    · rename_i hnull
      subst hnull
      exact h.addChange hallowed
    · split
      · exact h.addChange hallowed
      · exact h

lemma attach_entityType (r : EntityRecord) (relation : String) (assign : Option Assign)
    (child : EntityRecord) : (attach r relation assign child).entityType = r.entityType := by
  unfold attach
  split
  · rfl
  · split
    · rfl
    · split <;> rfl

/-! ### Tasks -/

section

variable {t : Task} {action : Action} {run : ChainEntry → Mutating (Ledgered σ) EntityRecord}
  (hacts : gate.ActsFor t action)
  (hrun : ∀ c, c.association.name ∈ t.entry.members.map Prod.fst →
    gate.persistence.schema.association? t.entityType c.association.name = some c.association →
    action.Opens gate.registry c →
    Triple (fun _ => AllAuthorized gate b) (run c) (fun _ _ => AllAuthorized gate b)
      fun _ => AllAuthorized gate b)
include hacts hrun

/-- A member of an entry is taken in after its check, whatever listeners pass on. -/
lemma bindMemberWith_authorized {field : String} (hfield : field ∈ t.entry.members.map Prod.fst)
    (names : List String) (r : EntityRecord) (v : Json) :
    Triple (fun _ w => gate.BoundSoFar action names r ∧ AllAuthorized gate b w)
      (gate.ledgered.bindMemberWith run action r field v)
      (fun r' _ w => gate.BoundSoFar action (names ++ [field]) r' ∧ AllAuthorized gate b w)
      fun _ => AllAuthorized gate b := by
  refine .of_fact fun hbound => ?_
  have hlookups := ledgered_keepsLookups gate b
  unfold bindMemberWith
  split
  · rename_i a ha
    have ha : gate.persistence.schema.association? action.entityType field = some a := ha
    have hname := Schema.association?_name ha
    refine (bindRelationWith_triple (P := fun _ => True)
      (I := fun _ r' _ w => (r'.entityType = r.entityType ∧ gate.ChangesAllowed action r') ∧
        AllAuthorized gate b w)
      (fun _ _ _ _ _ hw => hw.2) ?_
      ((hlookups.publish _ (by decide) _ _).weaken (fun _ _ hw => hw)
        (fun _ _ _ hw => ⟨trivial, ⟨rfl, hbound.changes⟩, hw⟩) fun _ _ hw => hw)
      fun _ _ hw hallowed => ⟨⟨hw.1.1, hw.1.2.addChange hallowed⟩, hw.2⟩).weaken
      (fun _ _ hw => hw) ?_ fun _ _ hw => hw
    · rintro done r' c rfl hopens
      refine .of_fact fun hr' => ?_
      refine (hrun c (hname ▸ hfield) ?_ hopens).weaken (fun _ _ hw => hw)
        (fun child _ _ hw => ⟨⟨(attach_entityType _ _ _ _).trans hr'.1, ?_⟩, hw⟩) fun _ _ hw => hw
      · rw [hname, ← hacts.sameType]
        exact ha
      · exact hr'.2.attach hopens child
    · rintro r' cache w ⟨payload, done, -, -, ⟨htype, hchanges⟩, hw⟩
      refine ⟨hbound.snoc htype hchanges fun _ hnone => ?_, hw⟩
      rw [ha] at hnone
      cases hnone
  · split
    · rename_i hdelete
      exact .pure fun _ _ hw => ⟨hbound.snoc rfl hbound.changes fun h => absurd hdelete h, hw⟩
    · refine (bindValue_triple hlookups.fault (hlookups.publish _ (by decide) _ _)).weaken
        (fun _ _ hw => hw) ?_ fun _ _ hw => hw
      rintro r' cache w ⟨⟨hcheck, v', rfl⟩, hw⟩
      exact ⟨hbound.snoc rfl hbound.changes fun _ _ => hcheck, hw⟩

/-- A task that came about with permission keeps the ledger authorized, if the entries of its chain
requests do. -/
lemma bindTask_authorized (hsanctioned : gate.Sanctioned b t action)
    {runs : Task → ChainEntry → Mutating (Ledgered σ) EntityRecord} (hruns : runs t = run) :
    Triple (fun _ => AllAuthorized gate b)
      (gate.ledgered.bindTask gate.persistLedgered runs action t)
      (fun _ _ => AllAuthorized gate b) fun _ => AllAuthorized gate b := by
  have hlookups := ledgered_keepsLookups gate b
  subst hruns
  refine .bind ((startRecord_returns t.entry).and (hlookups.startRecord action t.entry))
    fun start => .of_fact fun ⟨htype, hnone⟩ => ?_
  refine .bind ((Triple.foldlM_along (I := fun done r _ w =>
    gate.BoundSoFar action (done.map Prod.fst) r ∧ AllAuthorized gate b w)
    (fun done member hmember r => ?_) start).weaken (fun _ _ hw => ⟨⟨htype, ?_, ?_⟩, hw⟩)
    (fun _ _ _ hw => hw) fun _ _ hw => hw) fun bound => .of_fact fun hbound => ?_
  · rw [List.map_append]
    exact bindMemberWith_authorized hacts hrun (List.mem_map_of_mem hmember) _ r member.2
  · intro _ f hf
    cases hf
  · intro c hc
    rw [hnone] at hc
    cases hc
  · refine (Triple.decided hlookups.fault).bind fun ready => .of_fact fun hready => ?_
    have hsame := EntityRecord.prepared_sameBut hready
    refine persistLedgered_keeps ⟨hsanctioned, hacts.sameChain, ?_, ?_, ?_⟩
    · exact (hsame.sameType.trans hbound.sameType).trans hacts.sameType
    · rw [← hacts.sameChain]
      exact hbound.fields
    · intro c hc
      rw [hsame.changes] at hc
      exact hbound.changes c hc

end

/-- Tasks that come about with permission if their action is allowed keep the ledger authorized. -/
theorem runTasks_authorized (levels : Nat) : ∀ config b' tasks,
    gate.config.entity b'.entityType = .ok config →
    (∀ t ∈ tasks, t.batch = b' ∧ ∀ action, gate.ActsFor t action → gate.Sanctioned b t action) →
    Triple (fun _ => AllAuthorized gate b)
      (gate.ledgered.runTasks gate.persistLedgered levels config b' tasks)
      (fun _ _ => AllAuthorized gate b) fun _ => AllAuthorized gate b := by
  have hfinds := (ledgered_keepsLookups gate b).finds
  induction levels with
  | zero =>
    intro config b' tasks _ _
    exact .throw fun _ _ hw => hw
  | succ levels ih =>
    intro config b' tasks hconfig htasks
    refine (openBatch_triple hfinds hconfig).bind fun action => .of_fact fun hacts => ?_
    refine (Triple.mapM fun t ht => ?_).weaken (fun _ _ hw => hw) (fun _ _ _ hw => hw.2)
      fun _ _ hw => hw
    obtain ⟨hbatch, hsanctioned⟩ := htasks t ht
    have ha : gate.ActsFor t action := ⟨(hacts t hbatch).1.rules, (hacts t hbatch).1.allowed⟩
    refine bindTask_authorized ha (fun c hmember hrelation hopens => ?_) (hsanctioned action ha) rfl
    refine runChainEntry_triple hfinds (fun _ _ _ hw => hw) (fun _ _ _ hw => hw)
      fun config hconfig _ => ih config _ _ hconfig fun t' ht' => ?_
    rw [List.mem_singleton.mp ht', ← hbatch]
    exact ⟨rfl, fun below => .ofChain (hsanctioned action ha) hmember hrelation hopens⟩

/-- Every write of a mutation is authorized, whatever its listeners do: it happens on behalf of a
task that came about with permission, whose fields have passed their checks, and it hands over only
changes that are allowed.  The ledger tells the same as the journal of the mutation. -/
theorem writes_authorized (gate : Gate σ) (entityType : String) (chain : Chain) (params : Json)
    (overrides : CallOptions) (frontEnd : FrontEndOptions) (s : σ) :
    (gate.ledger entityType chain params overrides frontEnd s).map LedgerLine.happening =
      ((gate.journaled.mutate entityType chain params overrides frontEnd).outcome
        (.opening s)).2.journal ∧
    ∀ line ∈ gate.ledger entityType chain params overrides frontEnd s,
      ∃ b, gate.batchOf entityType chain params overrides frontEnd = .ok b ∧
        gate.LineAuthorized b line := by
  refine ⟨gate.map_happening_ledger entityType chain params overrides frontEnd s, ?_⟩
  intro line hline
  rw [ledger] at hline
  split at hline
  · cases hline
  · rename_i p hplan
    obtain ⟨hconfig, hbatch⟩ := plan_parts hplan
    refine ⟨p.batch, hbatch, ?_⟩
    have hrun : Triple (fun _ => AllAuthorized gate p.batch) (gate.runLedgered p)
        (fun _ _ => AllAuthorized gate p.batch) fun _ => AllAuthorized gate p.batch := by
      refine runTasks_authorized _ _ _ _ ?_ fun t ht => ?_
      · rw [(batchOf_kind hbatch).1]
        exact hconfig
      · obtain ⟨e, he, rfl⟩ := List.mem_map.mp ht
        exact ⟨rfl, fun action => .ofCall he⟩
    have hend : Effect.Triple (AllAuthorized gate p.batch)
        (gate.ledgered.carryOutWith (gate.runLedgered p) entityType p)
        (fun _ => AllAuthorized gate p.batch) fun _ => AllAuthorized gate p.batch := by
      refine carryOutWith_triple (performWith_triple hrun (fun _ hw => hw) (fun _ _ hw => hw)
        (noting_aside (fun _ => rfl) _) (fun _ => noting_aside (fun _ => rfl) _)
        (fun _ => noting_aside (fun _ => rfl) _) (noting_aside (fun _ => rfl) _))
        (fun _ _ hw => hw) ?_
      intro l hl event _ _ entityType payload
      obtain ⟨own, -, rfl⟩ := List.mem_map.mp hl
      exact noting_aside (fun _ => rfl) _
    have hall := StateKept.of_triple hend (.opening s) (by simp [AllAuthorized, Ledgered.opening])
    exact hall line hline

/-- Artists with a listener that asks for one more album, whatever was asked for. -/
def pushedArtists : Gate Memory :=
  { artists with events := [⟨some .beforeProcessAssociationParams, fun _ _ _ =>
      pure (.obj [("params", .obj [("create", .arr [.obj []])])])⟩] }

/-- The album that was not asked for is a task of its own; it is written before the artist. -/
example : ((pushedArtists.ledger "artist" .create
      (.obj [("albums", .obj []), ("name", .str "ann")]) default default .empty).filterMap
      fun line => line.happening.write?.map fun write =>
        (line.task.map Task.entityType, write.1, write.2.entityType)) =
    [(some "album", .create, "album"), (some "artist", .create, "artist")] := by
  decide +kernel

end Gate

end EntityGate
