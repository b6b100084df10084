/-
# Chain requests, entry by entry

The value of a relation holds chain requests, and each of these holds entries.  When the value is
bound, the entries are opened and run one after the other, in the order in which they stand there.
An entry is opened only if the action allows its chain on the relation, and its assignment if it
has one.

The rule of this file says what holds after a value was bound, from what holds after each entry
that it led to.  Listeners may have replaced the value, so the entries are those of the payload
that they passed on.

A batch is opened before its entries are bound: it is checked, and what it refers to is looked up
unless the settings say otherwise.
-/
import EntityGate.Gate.Mutate
import EntityGate.Proofs.Decision
import EntityGate.Proofs.Triple

namespace EntityGate

open Decision

/-- An entry of a chain request, as it is run. -/
structure ChainEntry where
  /-- The relation that carries the chain request. -/
  association : Association
  chain : Chain
  /-- The entry as it stands in the chain request. -/
  asked : Entry
  /-- The assignment that the entry asks for, or the one that is usual for the chain. -/
  assign : Option Assign
  /-- The entry without its directives. -/
  entry : Entry

namespace Association

variable (a : Association)

/-- An entry of a chain request on a relation. -/
def entryOf (chain : Chain) (e : Entry) : Except Fault ChainEntry := do
  let (assign, entry) ← e.takeAssign chain a.toMany
  return ⟨a, chain, e, assign, entry⟩

/-- The entries of a chain request on a relation. -/
def entriesOf (request : String × Json) : Except Fault (List ChainEntry) := do
  let chain ← Chain.ofName request.1
  (← Entry.ofParams chain request.2).mapM (a.entryOf chain)

/-- The entries that the value of a relation leads to; `null` leads to none. -/
def entries (v : Json) : Except Fault (List ChainEntry) :=
  if v.isNull then .ok []
  else do return (← (← chainRequests a.name v).mapM a.entriesOf).flatten

end Association

/-- The entries that a member of an entry of a type leads to; a member that is no relation leads to
none. -/
def Schema.memberEntries (schema : Schema) (entityType : String) (member : String × Json) :
    Except Fault (List ChainEntry) :=
  match schema.association? entityType member.1 with
  | some a => a.entries member.2
  | none => .ok []

/-- The entries of the chain requests in an entry of a type: relations in the order of the members,
chains in the order of the requests, and entries in theirs. -/
def Entry.children (schema : Schema) (entityType : String) (e : Entry) :
    Except Fault (List ChainEntry) := do
  return (← e.members.mapM (schema.memberEntries entityType)).flatten

/-! ## What opening an entry takes -/

namespace Action

variable {registry : Registry} {action : Action}

lemma checkAssign_eq_ok {relation : String} {assign : Assign} :
    action.checkAssign registry relation assign = .ok () ↔
      action.relationAllows registry .assign relation assign.name = .ok true := by
  rw [checkAssign, bind_eq_ok]
  constructor
  · rintro ⟨answer, hanswer, h⟩
    cases answer with
    | false => cases h
    | true => exact hanswer
  · intro h
    exact ⟨true, h, rfl⟩

/-- An action opens an entry of a chain request: it allows the chain on the relation, and the
assignment that the entry asks for or that is usual for the chain. -/
structure Opens (registry : Registry) (action : Action) (c : ChainEntry) : Prop where
  taken : c.asked.takeAssign c.chain c.association.toMany = .ok (c.assign, c.entry)
  chain : action.relationAllows registry .chain c.association.name c.chain.name = .ok true
  assign : ∀ a, c.assign = some a →
    action.relationAllows registry .assign c.association.name a.name = .ok true

/-- A chain request that is opened has a chain that is allowed. -/
lemma openChain_eq_ok {relation name : String} {params : Json} {chain : Chain}
    {entries : List Entry}
    (h : action.openChain registry relation name params = .ok (chain, entries)) :
    Chain.ofName name = .ok chain ∧ Entry.ofParams chain params = .ok entries ∧
      action.relationAllows registry .chain relation chain.name = .ok true := by
  obtain ⟨chain', hchain, h⟩ := bind_eq_ok.mp h
  obtain ⟨entries', hentries, h⟩ := bind_eq_ok.mp h
  cases h
  obtain ⟨named, hnamed, h⟩ := bind_eq_ok.mp hchain
  obtain ⟨answer, hanswer, h⟩ := bind_eq_ok.mp h
  cases answer with
  | false => cases h
  | true =>
    cases h
    exact ⟨hnamed, hentries, hanswer⟩

/-- An entry of a chain that is allowed is opened with an assignment that is allowed, if it has
one. -/
lemma openEntry_eq_ok {a : Association} {chain : Chain} {e entry : Entry} {assign : Option Assign}
    (hchain : action.relationAllows registry .chain a.name chain.name = .ok true)
    (h : action.openEntry registry a chain e = .ok (assign, entry)) :
    action.Opens registry ⟨a, chain, e, assign, entry⟩ := by
  obtain ⟨⟨asked, rest⟩, htake, h⟩ := bind_eq_ok.mp h
  cases asked with
  | none =>
    cases h
    exact ⟨htake, hchain, by simp⟩
  | some asked =>
    obtain ⟨⟨⟩, hcheck, h⟩ := bind_eq_ok.mp h
    cases h
    refine ⟨htake, hchain, fun asked' heq => ?_⟩
    cases heq
    exact checkAssign_eq_ok.mp hcheck

lemma Opens.entryOf {c : ChainEntry} (h : action.Opens registry c) :
    c.association.entryOf c.chain c.asked = .ok c := by
  rw [Association.entryOf, h.taken]
  rfl

end Action

/-! ## Binding a value -/

/-- What holds after a value was bound: the field has passed its check, and the record has some
value in it. -/
lemma Gate.bindValue_triple {σ : Type} {gate : Gate σ} {pre : CallCache → σ → Prop}
    {fail : Fault → σ → Prop} {action : Action} {r : EntityRecord} {field : String} {v : Json}
    (hfault : ∀ f cache s, pre cache s → fail f s)
    (hpublish : Mutating.Triple pre (Mutating.ofEffect (gate.publish .beforeSetField
        action.entityType (.obj [("field", .str field), ("value", v)]))) (fun _ => pre) fail) :
    Mutating.Triple pre (gate.bindValue action r field v) (fun r' cache s =>
      (action.checkField gate.registry field = .ok () ∧ ∃ w, r' = r.setField field w) ∧
        pre cache s) fail := by
  refine (Mutating.Triple.decided hfault).bind fun _ => .of_fact fun hcheck => ?_
  refine hpublish.bind fun payload => ?_
  dsimp only
  split
  · exact .pure fun _ _ hs => ⟨⟨hcheck, _, rfl⟩, hs⟩
  · refine (Mutating.Triple.decided hfault).bind fun w => .of_fact fun _ => ?_
    exact .pure fun _ _ hs => ⟨⟨hcheck, w, rfl⟩, hs⟩

/-! ## Binding a relation -/

namespace Gate

open Mutating

variable {σ : Type} (gate : Gate σ)

/-- Open an entry of a chain request, run it, and attach what comes out. -/
def attachEntry (run : ChainEntry → Mutating σ EntityRecord) (action : Action) (a : Association)
    (chain : Chain) (r : EntityRecord) (e : Entry) : Mutating σ EntityRecord := do
  let (assign, entry) ← ofDecision (action.openEntry gate.registry a chain e)
  let child ← run ⟨a, chain, e, assign, entry⟩
  return attach r a.name assign child

/-- Open a chain request, and run and attach its entries. -/
def attachRequest (run : ChainEntry → Mutating σ EntityRecord) (action : Action) (a : Association)
    (r : EntityRecord) (request : String × Json) : Mutating σ EntityRecord := do
  let (chain, entries) ← ofDecision (action.openChain gate.registry a.name request.1 request.2)
  entries.foldlM (gate.attachEntry run action a chain) r

/-- Bind a relation; `run` runs one entry of a chain request and sees all of it. -/
def bindRelationWith (run : ChainEntry → Mutating σ EntityRecord) (action : Action)
    (a : Association) (r : EntityRecord) (v : Json) : Mutating σ EntityRecord := do
  let payload ← ofEffect (gate.publish .beforeProcessAssociationParams action.entityType
    (.obj [("params", v), ("relation", .str a.name)]))
  let v := (payload.get? "params").getD .null
  if v.isNull then
    ofDecision (action.checkAssign gate.registry a.name .setNull)
    return r.addChange (.clear a.name)
  else (← ofDecision (chainRequests a.name v)).foldlM (gate.attachRequest run action a) r

/-- Take in a member of an entry; `run` runs one entry of a chain request and sees all of it. -/
def bindMemberWith (run : ChainEntry → Mutating σ EntityRecord) (action : Action)
    (r : EntityRecord) (field : String) (v : Json) : Mutating σ EntityRecord :=
  match gate.persistence.schema.association? action.entityType field with
  | some a => gate.bindRelationWith run action a r v
  | none =>
    if action.chain = .delete then return r else gate.bindValue action r field v

variable {gate}

/-- Binding passes on the type, the chain and the entry of a chain request. -/
lemma bindRelation_eq (run : String → Chain → Entry → Mutating σ EntityRecord) :
    gate.bindRelation run =
      gate.bindRelationWith fun c => run c.association.target c.chain c.entry := rfl

lemma bindMember_eq (run : String → Chain → Entry → Mutating σ EntityRecord) :
    gate.bindMember run =
      gate.bindMemberWith fun c => run c.association.target c.chain c.entry := rfl

/-- Without listeners the value of a relation is bound as it is. -/
lemma bindRelationWith_quiet (hbus : gate.events = []) (run : ChainEntry → Mutating σ EntityRecord)
    (action : Action) (a : Association) (r : EntityRecord) (v : Json) :
    gate.bindRelationWith run action a r v = (if v.isNull then do
        ofDecision (action.checkAssign gate.registry a.name .setNull)
        return r.addChange (.clear a.name)
      else do
        (← ofDecision (chainRequests a.name v)).foldlM (gate.attachRequest run action a) r) := by
  unfold bindRelationWith publish
  rw [hbus]
  rfl

section

variable {run : ChainEntry → Mutating σ EntityRecord} {action : Action} {a : Association}
  {fail : Fault → σ → Prop} {I : List ChainEntry → EntityRecord → CallCache → σ → Prop}
  (hfault : ∀ done r f cache s, I done r cache s → fail f s)
  (hrun : ∀ done r c, c.association = a → action.Opens gate.registry c →
    Triple (I done r) (run c)
      (fun child => I (done ++ [c]) (attach r a.name c.assign child)) fail)
include hfault hrun

/-- What holds after the entries of a chain request were run.  The entries done before are
`done`. -/
lemma attachEntries_triple {chain : Chain}
    (hchain : action.relationAllows gate.registry .chain a.name chain.name = .ok true)
    (entries : List Entry) (done : List ChainEntry) (r : EntityRecord) :
    Triple (I done r) (entries.foldlM (gate.attachEntry run action a chain) r)
      (fun r' cache s => ∃ cs, entries.mapM (a.entryOf chain) = .ok cs ∧ I (done ++ cs) r' cache s)
      fail := by
  refine (Triple.foldlM_along (I := fun entries r cache s => ∃ cs,
    entries.mapM (a.entryOf chain) = .ok cs ∧ I (done ++ cs) r cache s)
    (fun passed e _ r => ?_) r).weaken (fun _ _ hs => ⟨[], rfl, by simpa using hs⟩)
    (fun _ _ _ hs => hs) fun _ _ hs => hs
  refine .of_exists fun cs => .of_fact fun hcs => ?_
  refine (Triple.decided fun f cache s => hfault _ _ f cache s).bind fun (assign, rest) => ?_
  refine .of_fact fun hopen => ?_
  have hopens := Action.openEntry_eq_ok hchain hopen
  refine (hrun _ r ⟨a, chain, e, assign, rest⟩ rfl hopens).bind fun child => ?_
  refine .pure fun cache s hs => ⟨cs ++ [⟨a, chain, e, assign, rest⟩], ?_, ?_⟩
  · exact mapM_snoc_eq_ok hcs hopens.entryOf
  · rw [← List.append_assoc]
    exact hs

/-- What holds after some chain requests were run. -/
lemma attachRequests_triple (requests : List (String × Json)) (r : EntityRecord) :
    Triple (I [] r) (requests.foldlM (gate.attachRequest run action a) r)
      (fun r' cache s => ∃ css, requests.mapM a.entriesOf = .ok css ∧ I css.flatten r' cache s)
      fail := by
  refine (Triple.foldlM_along (I := fun requests r cache s => ∃ css,
    requests.mapM a.entriesOf = .ok css ∧ I css.flatten r cache s)
    (fun passed request _ r => ?_) r).weaken (fun _ _ hs => ⟨[], rfl, hs⟩) (fun _ _ _ hs => hs)
    fun _ _ hs => hs
  refine .of_exists fun css => .of_fact fun hcss => ?_
  refine (Triple.decided fun f cache s => hfault _ _ f cache s).bind fun (chain, entries) => ?_
  refine .of_fact fun hopen => ?_
  obtain ⟨hname, hentries, hchain⟩ := Action.openChain_eq_ok hopen
  refine (attachEntries_triple hfault hrun hchain entries css.flatten r).weaken
    (fun _ _ hs => hs) ?_ fun _ _ hs => hs
  rintro r' cache s ⟨cs, hcs, hs⟩
  refine ⟨css ++ [cs], mapM_snoc_eq_ok hcss ?_, ?_⟩
  · rw [Association.entriesOf, hname, ok_bind, hentries, ok_bind, hcs]
  · rw [List.flatten_append, List.flatten_singleton]
    exact hs

/-- What holds after a relation was bound: `I` speaks about the entries that were run so far and
about the record with their changes.  The entries are those of the payload that the listeners
passed on, of which `P` is known. -/
theorem bindRelationWith_triple {pre : CallCache → σ → Prop} {P : Json → Prop} {r : EntityRecord}
    {v : Json}
    (hpublish : Triple pre (ofEffect (gate.publish .beforeProcessAssociationParams
        action.entityType (.obj [("params", v), ("relation", .str a.name)])))
      (fun payload cache s => P payload ∧ I [] r cache s) fail)
    (hclear : ∀ cache s, I [] r cache s →
      action.relationAllows gate.registry .assign a.name Assign.setNull.name = .ok true →
      I [] (r.addChange (.clear a.name)) cache s) :
    Triple pre (gate.bindRelationWith run action a r v)
      (fun r' cache s => ∃ payload done, P payload ∧
        a.entries ((payload.get? "params").getD .null) = .ok done ∧ I done r' cache s) fail := by
  refine hpublish.bind fun payload => .of_fact fun hpayload => ?_
  dsimp only
  split
  · rename_i hnull
    refine (Triple.decided fun f cache s => hfault _ _ f cache s).bind fun _ => ?_
    refine .of_fact fun hallowed => .pure fun cache s hs => ⟨payload, [], hpayload, ?_, ?_⟩
    · rw [Association.entries, if_pos hnull]
    · exact hclear cache s hs (Action.checkAssign_eq_ok.mp hallowed)
  · rename_i hnull
    refine (Triple.decided fun f cache s => hfault _ _ f cache s).bind fun requests => ?_
    refine .of_fact fun hrequests => ?_
    refine (attachRequests_triple hfault hrun requests r).weaken (fun _ _ hs => hs) ?_
      fun _ _ hs => hs
    rintro r' cache s ⟨css, hcss, hs⟩
    refine ⟨payload, css.flatten, hpayload, ?_, hs⟩
    rw [Association.entries, if_neg hnull, hrequests, ok_bind, hcss]
    rfl

end

/-! ## Opening a batch -/

/-- Check a batch, and look up what it refers to; the action of the batch. -/
def openBatch (gate : Gate σ) (config : EntityConfig) (b : Batch) : Mutating σ Action := do
  let rules ← ofDecision (config.mutationRules b.chain)
  let action := Action.ofBatch rules b
  ofDecision (action.checkAllowed gate.registry)
  ofDecision (action.checkSize gate.registry (b.batchMax rules) b.entries.length)
  let wanted ← ofDecision (Resolve.findBool? gate.registry action.ctx "prePopulateEntities"
    (b.layers rules "prePopulateEntities"))
  if wanted.getD true then gate.prefetch b
  return action

/-- What is done with the action of a batch may be moved past the lookups in advance. -/
lemma openBatch_bind {α : Type} (config : EntityConfig) (b : Batch) (next : Action → Mutating σ α) :
    gate.openBatch config b >>= next = (do
      let rules ← ofDecision (config.mutationRules b.chain)
      let action := Action.ofBatch rules b
      ofDecision (action.checkAllowed gate.registry)
      ofDecision (action.checkSize gate.registry (b.batchMax rules) b.entries.length)
      let wanted ← ofDecision (Resolve.findBool? gate.registry action.ctx "prePopulateEntities"
        (b.layers rules "prePopulateEntities"))
      if wanted.getD true then gate.prefetch b
      next action) := by
  unfold openBatch
  simp only [bind_assoc]
  refine bind_congr fun rules => bind_congr fun _ => bind_congr fun _ => bind_congr fun wanted => ?_
  split
  · rw [bind_assoc]
    rfl
  · rfl

/-- A batch is opened, and then its entries are bound. -/
lemma runBatch_succ (levels : Nat) (config : EntityConfig) (b : Batch) :
    gate.runBatch (levels + 1) config b = (do
      let action ← gate.openBatch config b
      b.entries.mapM
        (gate.bindEntry (gate.runEntry (gate.runBatch levels) b.frontEnd) action)) := by
  rw [openBatch_bind, runBatch]

end Gate

end EntityGate
