/-
# Walks that end

Verification, gathering and binding each walk down the chain requests of a batch.  A walk goes from
a batch to the batches that its chain requests lead to, one level down, and a walk through some
number of levels is one step taken as many times, from something that stands below all levels.  If
a step comes to the same for a batch whenever what comes next does for all batches that fit in one
level less, then what stands below is never asked, and how many levels there are makes no
difference once the batch fits in them.

Verification and binding are such walks, as far as no listener replaces what is walked over: they
take the directives out of an entry before they look for relations in it, and they look for none in
an entry that is only read.  So a bare id, which is short for reading, ends with its own level, and
all else lies deeper in the params than what leads to it.  Gathering does neither, and ends only if
the types of the bare ids settle.
-/
import EntityGate.Proofs.Gathering
import EntityGate.Proofs.Tasks
import EntityGate.Proofs.Verified

namespace EntityGate

open Decision
open Mention (Requested)

/-! ## Walks -/

/-- A walk from a batch, under the configuration of its type. -/
abbrev Walk (α : Type) : Type := EntityConfig → Batch → α

namespace Batch

/-- A batch fits in a number of levels: one that reads takes a level, and each other one as many as
its fields are nested, and some more. -/
def FitsIn (n : Nat) (b : Batch) : Prop :=
  0 < n ∧ (b.chain = .read ∨ ∀ e ∈ b.entries, Json.depthFields e.fields + 2 ≤ n)

/-- A batch fits in its levels. -/
lemma fitsIn_levels (b : Batch) : b.FitsIn b.levels :=
  ⟨Nat.succ_pos _, .inr fun _ he => Nat.add_le_add (depthFields_le he) (by decide)⟩

/-- What the value of a relation leads to fits in one level less. -/
lemma fitsIn_nested {a : Association} {v : Json} {chain : Chain} {e rest : Entry}
    {assign : Option Assign} {frontEnd : FrontEndOptions} {n : Nat}
    (hrequested : Requested a.target v ⟨a.target, chain, e⟩)
    (htaken : e.takeAssign chain a.toMany = .ok (assign, rest)) (hv : v.depth + 2 ≤ n + 1) :
    (Batch.nested a.target chain rest frontEnd).FitsIn n := by
  have hpos : 0 < n := by omega
  rcases hrequested.cases with ⟨-, hbare⟩ | hdepth
  · exact ⟨hpos, .inl (congrArg Mention.chain hbare)⟩
  · refine ⟨hpos, .inr fun e' he' => ?_⟩
    obtain rfl := List.mem_singleton.mp he'
    have hrest : Json.depthFields e'.fields ≤ Json.depthFields e.fields :=
      Json.depthFields_le.mpr fun _ hfield =>
        Json.depth_le_depthFields ((Entry.takeAssign_eq_ok htaken).2 hfield)
    dsimp only at hdepth
    omega

end Batch

namespace Walk

variable {α : Type} {n : Nat}

/-- Two walks come to the same for batches that fit in some number of levels. -/
def AgreeIn (n : Nat) (next next' : Walk α) : Prop :=
  ∀ config (b : Batch), b.FitsIn n → next config b = next' config b

/-- A step of a walk asks only for batches that fit in one level less. -/
def Descends (step : Walk α → Walk α) : Prop :=
  ∀ n next next', AgreeIn n next next' → AgreeIn (n + 1) (step next) (step next')

/-- For batches that fit in the levels it makes no difference what stands below them, nor how many
levels there are. -/
theorem Descends.agreeIn {step : Walk α → Walk α} (hstep : Descends step) (stop stop' : Walk α) :
    ∀ {n levels more : Nat}, n ≤ levels → n ≤ more → AgreeIn n (step^[levels] stop)
      (step^[more] stop') := by
  intro n
  induction n with
  | zero => exact fun _ _ _ _ hfits => absurd hfits.1 (Nat.lt_irrefl 0)
  | succ n ih =>
    intro levels more hlevels hmore
    obtain ⟨levels, rfl⟩ := Nat.exists_eq_add_of_le' (Nat.one_le_of_lt hlevels)
    obtain ⟨more, rfl⟩ := Nat.exists_eq_add_of_le' (Nat.one_le_of_lt hmore)
    rw [Function.iterate_succ_apply', Function.iterate_succ_apply']
    exact hstep n _ _ (ih (Nat.le_of_succ_le_succ hlevels) (Nat.le_of_succ_le_succ hmore))

end Walk

/-! ## Loops whose passes come to the same -/

section

variable {m : Type → Type} [Monad m] {α β : Type}

lemma foldlM_congr {step step' : β → α → m β} {l : List α}
    (h : ∀ b, ∀ a ∈ l, step b a = step' b a) (b : β) : l.foldlM step b = l.foldlM step' b := by
  induction l generalizing b with
  | nil => rfl
  | cons a l ih =>
    rw [List.foldlM_cons, List.foldlM_cons, h b a List.mem_cons_self]
    exact bind_congr fun b => ih (fun b a ha => h b a (List.mem_cons_of_mem _ ha)) b

lemma mapM_congr [LawfulMonad m] {pass pass' : α → m β} {l : List α}
    (h : ∀ a ∈ l, pass a = pass' a) : l.mapM pass = l.mapM pass' := by
  induction l with
  | nil => rfl
  | cons a l ih =>
    obtain ⟨ha, hl⟩ := List.forall_mem_cons.mp h
    rw [List.mapM_cons, List.mapM_cons, ha, ih hl]

lemma Decision.forM_congr {ε : Type} {pass pass' : α → Except ε Unit} {l : List α}
    (h : ∀ a ∈ l, pass a = pass' a) : l.forM pass = l.forM pass' := by
  induction l with
  | nil => rfl
  | cons a l ih =>
    obtain ⟨ha, hl⟩ := List.forall_mem_cons.mp h
    rw [forM_cons, forM_cons, ha, ih hl]

/-- What follows a decision has to come to the same only for what was decided. -/
lemma Decision.bind_congr_ok {ε : Type} {d : Except ε α} {next next' : α → Except ε β}
    (h : ∀ a, d = .ok a → next a = next' a) : d >>= next = d >>= next' := by
  cases d with
  | ok a => exact h a rfl
  | error f => rfl

lemma Mutating.ofDecision_congr {σ : Type} {d : Except Fault α} {next next' : α → Mutating σ β}
    (h : ∀ a, d = .ok a → next a = next' a) : ofDecision d >>= next = ofDecision d >>= next' := by
  cases d with
  | ok a => exact h a rfl
  | error f => rfl

end

/-! ## Verification -/

namespace Rules

variable (rules : Rules)

/-- Verify a batch; `next` verifies those that it leads to. -/
def verifyStep (next : Walk (Except Fault Unit)) : Walk (Except Fault Unit) := fun config b => do
  if b.chain = .read then rules.verifyRead config b
  else
    let mutationRules ← config.mutationRules b.chain
    let action := Action.ofBatch mutationRules b
    action.checkAllowed rules.registry
    action.checkSize rules.registry (b.batchMax mutationRules) b.entries.length
    b.entries.forM (rules.verifyEntry next action b.frontEnd)

/-- Verification takes this step once for each level. -/
lemma verify_eq_iterate (levels : Nat) :
    rules.verify levels = rules.verifyStep^[levels] fun _ _ => .error .nestedTooDeeply := by
  induction levels with
  | zero => rfl
  | succ levels ih =>
    rw [Function.iterate_succ_apply', ← ih]
    rfl

variable {rules}

section

variable {n : Nat} {next next' : Walk (Except Fault Unit)} (h : Walk.AgreeIn n next next')
  (action : Action) (frontEnd : FrontEndOptions)
include h

lemma verifyRelation_agree (a : Association) {v : Json} (hv : v.depth + 2 ≤ n + 1) :
    rules.verifyRelation next action frontEnd a v =
      rules.verifyRelation next' action frontEnd a v := by
  unfold verifyRelation
  split
  · rfl
  · refine bind_congr fun target => bind_congr_ok fun requests hrequests => ?_
    refine forM_congr fun (name, params) hrequest => bind_congr_ok fun (chain, entries) hopen => ?_
    obtain ⟨hname, hentries, hchain⟩ := Action.openChain_eq_ok hopen
    refine forM_congr fun e he => bind_congr_ok fun (assign, rest) hentry => ?_
    have hrequested : Requested a.target v ⟨a.target, chain, e⟩ :=
      Mention.requested_of_chainRequests hrequests hrequest hname hentries he
    have htaken := (Action.openEntry_eq_ok hchain hentry).taken
    exact h target _ (Batch.fitsIn_nested hrequested htaken hv)

lemma verifyEntry_agree {e : Entry} (he : Json.depthFields e.fields + 2 ≤ n + 1) :
    rules.verifyEntry next action frontEnd e = rules.verifyEntry next' action frontEnd e := by
  unfold verifyEntry
  split
  · rfl
  · refine forM_congr fun (field, v) hmember => ?_
    have hv : v.depth ≤ Json.depthFields e.fields :=
      Json.depth_le_depthFields (List.mem_filter.mp hmember).1
    dsimp only
    unfold verifyMember
    split
    · exact verifyRelation_agree h action frontEnd _ (by omega)
    · rfl

end

/-- Verification goes down. -/
lemma verifyStep_descends : Walk.Descends rules.verifyStep := by
  intro n next next' h config b hfits
  unfold verifyStep
  split
  · rfl
  · rename_i hread
    refine bind_congr fun mutationRules => bind_congr fun _ => bind_congr fun _ => ?_
    exact forM_congr fun e he => verifyEntry_agree h _ b.frontEnd (hfits.2.resolve_left hread e he)

end Rules

/-! ## Binding -/

namespace Gate

open Mutating

variable {σ : Type} (gate : Gate σ)

/-- Run a batch; `next` runs those that it leads to, and `prefetch` looks up in advance what it
refers to. -/
def batchStep (prefetch : Batch → Mutating σ Unit) (next : Walk (Mutating σ (List EntityRecord))) :
    Walk (Mutating σ (List EntityRecord)) := fun config b => do
  let action ← gate.openBatchWith prefetch config b
  b.entries.mapM (gate.bindEntry (gate.runEntry next b.frontEnd) action)

/-- A batch is run by taking this step once for each level. -/
lemma runBatch_eq_iterate (levels : Nat) :
    gate.runBatch levels = (gate.batchStep gate.prefetch)^[levels]
      fun _ _ => throw .nestedTooDeeply := by
  induction levels with
  | zero => rfl
  | succ levels ih =>
    rw [Function.iterate_succ_apply', ← ih]
    funext config b
    rw [runBatch_succ, openBatch_eq]
    rfl

variable {gate}

/-- Gates that work alike take this step alike. -/
lemma Alike.batchStep {τ : Type} {R : σ → τ → Prop} {gate' : Gate τ} (h : gate.Alike R gate')
    {prefetch : Batch → Mutating σ Unit} {prefetch' : Batch → Mutating τ Unit}
    (hprefetch : ∀ b, Mutating.Alike R (prefetch b) (prefetch' b))
    {next : Walk (Mutating σ (List EntityRecord))} {next' : Walk (Mutating τ (List EntityRecord))}
    (hnext : ∀ config b, Mutating.Alike R (next config b) (next' config b))
    (config : EntityConfig) (b : Batch) :
    Mutating.Alike R (gate.batchStep prefetch next config b)
      (gate'.batchStep prefetch' next' config b) := by
  refine (h.openBatchWith (hprefetch b) config).bind fun action => .mapM (fun e => ?_) b.entries
  exact h.bindEntry (h.runEntry hnext b.frontEnd) action e

section

variable (hbus : gate.events = []) {run run' : ChainEntry → Mutating σ EntityRecord}
  {action : Action}
include hbus

/-- Without listeners a relation is bound in the same way if the entries that its value asks for
are run in the same way, each of them once it is opened. -/
lemma bindRelationWith_congr {a : Association} {v : Json} (hrun : ∀ c : ChainEntry,
      c.association = a → Requested a.target v ⟨a.target, c.chain, c.asked⟩ →
      action.Opens gate.registry c → run c = run' c) (r : EntityRecord) :
    gate.bindRelationWith run action a r v = gate.bindRelationWith run' action a r v := by
  rw [bindRelationWith_quiet hbus, bindRelationWith_quiet hbus]
  split
  · rfl
  · refine ofDecision_congr fun requests hrequests => ?_
    refine foldlM_congr (fun r (name, params) hrequest => ?_) r
    refine ofDecision_congr fun (chain, entries) hopen => ?_
    obtain ⟨hname, hentries, hchain⟩ := Action.openChain_eq_ok hopen
    refine foldlM_congr (fun r e he => ofDecision_congr fun (assign, rest) hentry => ?_) r
    dsimp only
    rw [hrun ⟨a, chain, e, assign, rest⟩ rfl
      (Mention.requested_of_chainRequests hrequests hrequest hname hentries he)
      (Action.openEntry_eq_ok hchain hentry)]

/-- The same of a member of an entry. -/
lemma bindMemberWith_congr {field : String} {v : Json} (hrun : ∀ c : ChainEntry,
      gate.persistence.schema.association? action.entityType field = some c.association →
      Requested c.association.target v ⟨c.association.target, c.chain, c.asked⟩ →
      action.Opens gate.registry c → run c = run' c) (r : EntityRecord) :
    gate.bindMemberWith run action r field v = gate.bindMemberWith run' action r field v := by
  unfold bindMemberWith
  split
  · rename_i a ha
    refine bindRelationWith_congr hbus (fun c hc hrequested hopens => ?_) r
    subst hc
    exact hrun c ha hrequested hopens
  · rfl

end

section

variable (hbus : gate.events = []) {n : Nat} {next next' : Walk (Mutating σ (List EntityRecord))}
  (h : Walk.AgreeIn n next next')
include hbus h

lemma bindEntry_agree (frontEnd : FrontEndOptions) (action : Action) {e : Entry}
    (he : Json.depthFields e.fields + 2 ≤ n + 1) :
    gate.bindEntry (gate.runEntry next frontEnd) action e =
      gate.bindEntry (gate.runEntry next' frontEnd) action e := by
  unfold bindEntry
  refine bind_congr fun r => congrArg (· >>= _) (foldlM_congr (fun r member hmember => ?_) r)
  have hv : member.2.depth ≤ Json.depthFields e.fields :=
    Json.depth_le_depthFields (List.mem_filter.mp hmember).1
  dsimp only
  rw [bindMember_eq, bindMember_eq]
  refine bindMemberWith_congr hbus (fun c _ hrequested hopens => ?_) r
  exact runEntry_congr fun config =>
    h config _ (Batch.fitsIn_nested hrequested hopens.taken (by omega))

end

/-- Without listeners binding goes down, whatever is looked up in advance. -/
lemma batchStep_descends (hbus : gate.events = []) (prefetch : Batch → Mutating σ Unit) :
    Walk.Descends (gate.batchStep prefetch) := by
  intro n next next' h config b hfits
  unfold batchStep openBatchWith
  simp only [bind_assoc]
  refine ofDecision_congr fun rules hrules => bind_congr fun _ => bind_congr fun _ =>
    bind_congr fun wanted => ?_
  have hread : b.chain ≠ .read := EntityConfig.chain_ne_read hrules
  have hentries : ∀ action, b.entries.mapM (gate.bindEntry (gate.runEntry next b.frontEnd) action) =
      b.entries.mapM (gate.bindEntry (gate.runEntry next' b.frontEnd) action) :=
    fun action => mapM_congr fun e he =>
      bindEntry_agree hbus h b.frontEnd action (hfits.2.resolve_left hread e he)
  simp only [hentries]

/-! ## All walks of a batch -/

/-- How the walks over the chain requests of a batch end. -/
structure WalksEnd (gate : Gate σ) (b : Batch) : Prop where
  /-- Gathering comes to an end exactly if the types of all bare ids settle. -/
  gathering : (∃ levels refs, ∀ more ≥ levels, References.addEntries gate.persistence.schema more
      b.entityType b.chain b.entries .empty = some refs) ↔
    ∀ target, b.Bare gate.persistence.schema target → gate.persistence.schema.Settles target
  /-- It comes to its end within the levels that it has if they settle within the levels for bare
  ids. -/
  gathered : (∀ target, b.Bare gate.persistence.schema target →
      gate.persistence.schema.SettlesWithin gate.bareLevels target) →
    (References.ofBatch? gate.persistence.schema gate.bareLevels b).isSome
  /-- A bare id asks for one entity. -/
  bare : ∀ target v m, v.isBareId = true → (Requested target v m ↔ m = .ofBare target v)
  /-- This leads on to one bare id, always the same, if the type has a relation `assignType`, and to
  nothing else. -/
  further : ∀ target v m, Mention.Holds gate.persistence.schema (.ofBare target v) m ↔
    ∃ a, gate.persistence.schema.association? target "assignType" = some a ∧
      m = .ofBare a.target (.str "set")
  /-- Verification asks for nothing below the levels of the batch. -/
  verification : ∀ stop config levels, b.levels ≤ levels →
    gate.rules.verifyStep^[levels] stop config b = gate.rules.verify b.levels config b
  /-- Neither does binding. -/
  binding : ∀ stop config levels, b.levels ≤ levels →
    (gate.batchStep gate.prefetch)^[levels] stop config b = gate.runBatch b.levels config b
  /-- It does not depend on what is looked up in advance that binding ends. -/
  apart : ∀ prefetch stop stop' config levels more, b.levels ≤ levels → b.levels ≤ more →
    (gate.batchStep prefetch)^[levels] stop config b =
      (gate.batchStep prefetch)^[more] stop' config b

/-- Verification and, without listeners, binding end for every schema; gathering ends if and only if
no bare id leads on forever. -/
theorem walks_end (gate : Gate σ) (hbus : gate.events = []) (b : Batch) : gate.WalksEnd b := by
  have hbind : ∀ prefetch stop stop' config levels more, b.levels ≤ levels → b.levels ≤ more →
      (gate.batchStep prefetch)^[levels] stop config b =
        (gate.batchStep prefetch)^[more] stop' config b :=
    fun prefetch stop stop' config levels more hlevels hmore =>
      (batchStep_descends hbus prefetch).agreeIn stop stop' hlevels hmore config b b.fitsIn_levels
  refine
    { gathering := b.gathered_iff _ _
      gathered := References.isSome_ofBatch?_of_settles
      bare := fun target v m h => Mention.requested_bare h
      further := fun target v m => Mention.holds_ofBare
      verification := fun stop config levels hlevels => ?_
      binding := fun stop config levels hlevels => ?_
      apart := hbind }
  · rw [Rules.verify_eq_iterate]
    exact Rules.verifyStep_descends.agreeIn stop _ hlevels (Nat.le_refl _) config b b.fitsIn_levels
  · rw [runBatch_eq_iterate]
    exact hbind gate.prefetch stop _ config levels b.levels hlevels (Nat.le_refl _)

/-! ## Relations that are called like a directive -/

/-- A configuration whose updates may set every field and run every chain. -/
def openUpdates : EntityConfig := { (default : EntityConfig) with update := artistRules }

/-- A gate to albums, artists and labels in memory, without listeners.  Artists are assigned to
labels, and albums to albums. -/
def assignments : Gate Memory where
  config := ⟨.ofList [("album", openUpdates), ("artist", default), ("label", default)]⟩
  registry := .standard
  persistence := Memory.persistence (.ofTable (.ofList
    [("album", [⟨"artist", "artist", false⟩, ⟨"assignType", "album", false⟩]),
      ("artist", [⟨"assignType", "label", false⟩])]))
  validator := fun _ _ => []
  events := []
  addedLevels := 2
  bareLevels := 2

/-- An update of an album that names its artist by a bare id. -/
def joniByName : Json := .obj [("al1", .obj [("artist", .str "joni")])]

/-- The batch of that update. -/
def joniByNameBatch : Batch :=
  ⟨"album", .update, joniByName, [⟨some (.str "al1"), [("artist", .str "joni")]⟩], default, default⟩

/-- The walks over the update that names the artist end. -/
theorem joniByName_walks_end : assignments.events = [] ∧ assignments.WalksEnd joniByNameBatch :=
  ⟨rfl, walks_end assignments rfl joniByNameBatch⟩

/-- An update of an album that says how it is assigned. -/
def assignedAlbum : Json := .obj [("al1", .obj [("assignType", .str "set")])]

/-- From an album, relations of that name lead on forever. -/
lemma not_settlesWithin_album (n : Nat) :
    ¬ assignments.persistence.schema.SettlesWithin n "album" := by
  induction n with
  | zero => exact fun h => nomatch h
  | succ n ih => exact fun h => ih (h ⟨"assignType", "album", false⟩ rfl)

/-- Verification accepts both updates.  The bare id of the artist leads gathering on to another bare
id, that of a label.  What is to be gathered of the other album has no end. -/
theorem assignments_walk_on :
    (∃ p refs, assignments.plan "album" .update joniByName default default = .ok p ∧
      Mention.Holds assignments.persistence.schema (.ofBare "artist" (.str "joni"))
        (.ofBare "label" (.str "set")) ∧
      References.ofBatch? assignments.persistence.schema assignments.bareLevels p.batch =
        some refs ∧
      refs.ofType "label" = [.str "set"]) ∧
    ∃ p, assignments.plan "album" .update assignedAlbum default default = .ok p ∧
      ∀ levels refs, References.addEntries assignments.persistence.schema levels p.batch.entityType
        p.batch.chain p.batch.entries refs = none := by
  refine ⟨⟨_, _, rfl, Mention.holds_ofBare.mpr ⟨_, rfl, rfl⟩, rfl, rfl⟩, _, rfl,
    fun levels refs => Option.not_isSome_iff_eq_none.mp fun hsome => ?_⟩
  have hends := References.endsWithin_of_isSome levels _ _ _ refs hsome _ List.mem_cons_self
  have hbare : Mention.Bare assignments.persistence.schema ⟨"album", .update,
      ⟨some (.str "al1"), [("assignType", .str "set")]⟩⟩ "album" :=
    ⟨_, List.mem_singleton.mpr rfl, ⟨"assignType", "album", false⟩, rfl, rfl, rfl⟩
  exact not_settlesWithin_album levels (hends.settles .refl hbare)

end Gate

end EntityGate
