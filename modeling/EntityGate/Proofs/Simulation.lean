/-
# Gates that work alike

Two gates over different states work alike if there is a relation between their states that the
calls of their stores and their listeners keep, while they return the same.  A mutation then
returns the same at both gates as well, and it keeps the relation.  The configuration, the
callables, the validator and the schema are the same, so every decision falls alike.

A gate may be lifted to a larger state, of which its store and its listeners see and change their
part only.  It works like the gate itself, and leaves all else in that state alone.  A gate with a
journal works like the gate without it, so what the journal tells is true of the gate itself.
-/
import EntityGate.Proofs.Abreast
import EntityGate.Proofs.Journal
import Mathlib.Data.List.Forall2

namespace EntityGate

/-- From related states, two computations return the same and leave related states. -/
def Alike {σ τ ε α : Type} (R : σ → τ → Prop) (e : ExceptT ε (StateM σ) α)
    (e' : ExceptT ε (StateM τ) α) : Prop :=
  ∀ s t, R s t → (e s).1 = (e' t).1 ∧ R (e s).2 (e' t).2

namespace Alike

variable {σ τ ε α β γ δ : Type} {R : σ → τ → Prop}

/-- What comes out of two computations that are alike. -/
lemma run_eq {e : ExceptT ε (StateM σ) α} {e' : ExceptT ε (StateM τ) α} (h : Alike R e e')
    {s : σ} {t : τ} (hst : R s t) :
    ∃ result s' t', e s = (result, s') ∧ e' t = (result, t') ∧ R s' t' := by
  obtain ⟨hresult, hstate⟩ := h s t hst
  exact ⟨(e s).1, (e s).2, (e' t).2, rfl, by rw [hresult]; rfl, hstate⟩

lemma pure (a : α) :
    Alike R (Pure.pure a : ExceptT ε (StateM σ) α) (Pure.pure a : ExceptT ε (StateM τ) α) :=
  fun _ _ hst => ⟨rfl, hst⟩

lemma throw (f : ε) :
    Alike R (MonadExcept.throw f : ExceptT ε (StateM σ) α)
      (MonadExcept.throw f : ExceptT ε (StateM τ) α) :=
  fun _ _ hst => ⟨rfl, hst⟩

/-- Run one computation, and another one with what it returned. -/
lemma bind {e : ExceptT ε (StateM σ) α} {e' : ExceptT ε (StateM τ) α}
    {next : α → ExceptT ε (StateM σ) β} {next' : α → ExceptT ε (StateM τ) β}
    (he : Alike R e e') (hnext : ∀ a, Alike R (next a) (next' a)) :
    Alike R (e >>= next) (e' >>= next') := by
  intro s t hst
  obtain ⟨result, s', t', hs, ht, hR⟩ := he.run_eq hst
  rw [Effect.run_bind, Effect.run_bind, hs, ht]
  cases result with
  | ok a => exact hnext a s' t' hR
  | error f => exact ⟨rfl, hR⟩

lemma ofExcept (d : Except Fault α) :
    Alike R (Effect.ofExcept d : Effect σ α) (Effect.ofExcept d : Effect τ α) :=
  fun _ _ hst => ⟨rfl, hst⟩

lemma ofStore {call : StoreCall σ α} {call' : StoreCall τ α} (h : Alike R call call') :
    Alike R (Effect.ofStore call) (Effect.ofStore call') := by
  intro s t hst
  obtain ⟨result, s', t', hs, ht, hR⟩ := h.run_eq hst
  unfold Effect.ofStore
  rw [hs, ht]
  cases result <;> exact ⟨rfl, hR⟩

/-- Folds over related lists are alike if their steps are. -/
lemma foldlM {S : γ → δ → Prop} {step : α → γ → ExceptT ε (StateM σ) α}
    {step' : α → δ → ExceptT ε (StateM τ) α} {l : List γ} {l' : List δ}
    (hl : List.Forall₂ S l l') (hstep : ∀ a c d, S c d → Alike R (step a c) (step' a d))
    (a : α) : Alike R (l.foldlM step a) (l'.foldlM step' a) := by
  induction hl generalizing a with
  | nil => exact pure a
  | cons hcd _ ih =>
    rw [List.foldlM_cons, List.foldlM_cons]
    exact (hstep a _ _ hcd).bind ih

end Alike

namespace Mutating

/-- Two parts of mutations are alike, whatever is in the cache. -/
def Alike {σ τ α : Type} (R : σ → τ → Prop) (p : Mutating σ α) (p' : Mutating τ α) : Prop :=
  ∀ cache, EntityGate.Alike R (p.run cache) (p'.run cache)

namespace Alike

variable {σ τ α β : Type} {R : σ → τ → Prop}

lemma pure (a : α) : Alike R (Pure.pure a : Mutating σ α) (Pure.pure a : Mutating τ α) :=
  fun cache => .pure (a, cache)

lemma throw (f : Fault) :
    Alike R (MonadExcept.throw f : Mutating σ α) (MonadExcept.throw f : Mutating τ α) :=
  fun _ => .throw f

lemma bind {p : Mutating σ α} {p' : Mutating τ α} {next : α → Mutating σ β}
    {next' : α → Mutating τ β} (hp : Alike R p p') (hnext : ∀ a, Alike R (next a) (next' a)) :
    Alike R (p >>= next) (p' >>= next') :=
  fun cache => (hp cache).bind fun x => hnext x.1 x.2

lemma getCache : Alike R (get : Mutating σ CallCache) (get : Mutating τ CallCache) :=
  fun cache => .pure (cache, cache)

lemma modifyCache (change : CallCache → CallCache) :
    Alike R (modify change : Mutating σ Unit) (modify change : Mutating τ Unit) :=
  fun cache => .pure ((), change cache)

lemma ofEffect {e : Effect σ α} {e' : Effect τ α} (h : EntityGate.Alike R e e') :
    Alike R (Mutating.ofEffect e) (Mutating.ofEffect e') :=
  fun cache => h.bind fun a => .pure (a, cache)

lemma ofDecision (d : Except Fault α) :
    Alike R (Mutating.ofDecision d : Mutating σ α) (Mutating.ofDecision d : Mutating τ α) :=
  ofEffect (.ofExcept d)

lemma withoutCache {p : Mutating σ α} {p' : Mutating τ α} (h : Alike R p p') :
    EntityGate.Alike R p.withoutCache p'.withoutCache :=
  (h .empty).bind fun x => .pure x.1

lemma foldlM {step : β → α → Mutating σ β} {step' : β → α → Mutating τ β}
    (hstep : ∀ b a, Alike R (step b a) (step' b a)) (l : List α) (b : β) :
    Alike R (l.foldlM step b) (l.foldlM step' b) := by
  induction l generalizing b with
  | nil => exact pure b
  | cons a l ih =>
    rw [List.foldlM_cons, List.foldlM_cons]
    exact (hstep b a).bind ih

lemma forM {pass : α → Mutating σ Unit} {pass' : α → Mutating τ Unit}
    (hpass : ∀ a, Alike R (pass a) (pass' a)) (l : List α) :
    Alike R (l.forM pass) (l.forM pass') := by
  induction l with
  | nil => exact pure ()
  | cons a l ih => exact (hpass a).bind fun _ => ih

lemma mapM {pass : α → Mutating σ β} {pass' : α → Mutating τ β}
    (hpass : ∀ a, Alike R (pass a) (pass' a)) (l : List α) :
    Alike R (l.mapM pass) (l.mapM pass') := by
  induction l with
  | nil => exact pure []
  | cons a l ih =>
    rw [List.mapM_cons, List.mapM_cons]
    exact (hpass a).bind fun b => ih.bind fun bs => pure (b :: bs)

end Alike

end Mutating

/-- Related states, with the same rows in both caches. -/
def SameCache {σ τ : Type} (R : σ → τ → Prop) (cache cache' : CallCache) (s : σ) (t : τ) : Prop :=
  cache = cache' ∧ R s t

/-- Parts of mutations that are alike go side by side. -/
lemma Mutating.Alike.paired {σ τ α : Type} {R : σ → τ → Prop} {p : Mutating σ α}
    {p' : Mutating τ α} (h : Alike R p p') : Paired (SameCache R) R Eq p p' := by
  rintro cache _ s t ⟨rfl, hst⟩
  obtain ⟨result, s', t', hs, ht, hR⟩ := (h cache).run_eq hst
  rw [hs, ht]
  cases result with
  | ok x => exact .returned ⟨rfl, rfl, hR⟩
  | error f => exact .failed f hR

lemma Mutating.Paired.alike {σ τ α : Type} {R : σ → τ → Prop} {p : Mutating σ α}
    {p' : Mutating τ α} (h : Paired (SameCache R) R Eq p p') : Alike R p p' := by
  intro cache s t hst
  rcases (h cache cache).outcomes ⟨rfl, hst⟩ with
    ⟨x, y, s', t', hs, ht, hresult, hcache, hR⟩ | ⟨f, s', t', hs, ht, hR⟩ <;> rw [hs, ht]
  · exact ⟨congrArg Except.ok (Prod.ext hresult hcache), hR⟩
  · exact ⟨rfl, hR⟩

namespace Gate

open Mutating (ofEffect ofDecision)

variable {σ τ : Type}

/-- Two gates with the same rules whose stores and listeners are alike. -/
structure Alike (R : σ → τ → Prop) (gate : Gate σ) (gate' : Gate τ) : Prop where
  config : gate.config = gate'.config
  registry : gate.registry = gate'.registry
  validator : gate.validator = gate'.validator
  schema : gate.persistence.schema = gate'.persistence.schema
  addedLevels : gate.addedLevels = gate'.addedLevels
  bareLevels : gate.bareLevels = gate'.bareLevels
  findIn : ∀ entityType ids, EntityGate.Alike R (gate.persistence.findIn entityType ids)
    (gate'.persistence.findIn entityType ids)
  insert : ∀ r, EntityGate.Alike R (gate.persistence.insert r) (gate'.persistence.insert r)
  update : ∀ r, EntityGate.Alike R (gate.persistence.update r) (gate'.persistence.update r)
  remove : ∀ r, EntityGate.Alike R (gate.persistence.remove r) (gate'.persistence.remove r)
  begin : EntityGate.Alike R gate.persistence.begin gate'.persistence.begin
  commit : EntityGate.Alike R gate.persistence.commit gate'.persistence.commit
  rollback : EntityGate.Alike R gate.persistence.rollback gate'.persistence.rollback
  flush : EntityGate.Alike R gate.persistence.flush gate'.persistence.flush
  events : List.Forall₂ (fun l l' => l.event = l'.event ∧ ∀ event entityType payload,
    EntityGate.Alike R (l.listener event entityType payload)
      (l'.listener event entityType payload)) gate.events gate'.events

namespace Alike

variable {R : σ → τ → Prop} {gate : Gate σ} {gate' : Gate τ} (h : gate.Alike R gate')
include h

/-! ## Steps -/

lemma publish (event : Event) (entityType : String) (payload : Json) :
    EntityGate.Alike R (gate.publish event entityType payload)
      (gate'.publish event entityType payload) := by
  refine .foldlM (List.rel_filter (fun l l' hl => ?_) h.events) (fun payload l l' hl => ?_) payload
  · dsimp only [EventBus.listens]
    rw [hl.1]
  · exact hl.2 event entityType payload

lemma load (entityType : String) (id : Json) :
    Mutating.Alike R (gate.load entityType id) (gate'.load entityType id) := by
  refine Mutating.Alike.getCache.bind fun cache => ?_
  split
  · exact .pure _
  · refine (Mutating.Alike.ofEffect (h.findIn entityType [id]).ofStore).bind fun rows => ?_
    split
    · exact (Mutating.Alike.modifyCache _).bind fun _ => .pure _
    · exact .throw _

lemma fetch (entityType : String) (ids : List Json) :
    Mutating.Alike R (gate.fetch entityType ids) (gate'.fetch entityType ids) := by
  refine Mutating.Alike.getCache.bind fun cache => ?_
  split
  · exact .pure _
  · exact (Mutating.Alike.ofEffect (h.findIn entityType _).ofStore).bind fun rows =>
      .modifyCache _

lemma prefetch (b : Batch) : Mutating.Alike R (gate.prefetch b) (gate'.prefetch b) := by
  unfold Gate.prefetch
  rw [h.schema, h.bareLevels]
  split
  · exact .throw _
  · rename_i refs _
    refine .forM (fun entry => ?_) refs.entries
    exact h.fetch entry.1 entry.2

lemma writeRecord (chain : Chain) (r : EntityRecord) :
    EntityGate.Alike R (gate.writeRecord chain r) (gate'.writeRecord chain r) := by
  cases chain with
  | create => exact h.insert r
  | read => exact .pure _
  | update => exact h.update r
  | delete => exact (h.remove r).bind fun _ => .pure _

lemma persist (action : Action) (r : EntityRecord) :
    Mutating.Alike R (gate.persist action r) (gate'.persist action r) := by
  refine (Mutating.Alike.ofEffect (h.publish _ _ _)).bind fun payload => ?_
  refine (Mutating.Alike.ofEffect (h.writeRecord _ _).ofStore).bind fun row => ?_
  refine (Mutating.Alike.modifyCache _).bind fun _ => ?_
  exact (Mutating.Alike.ofEffect (h.publish _ _ _)).bind fun _ => .pure _

/-! ## Entries and batches -/

/-- The steps of gates that work alike go side by side, with the same rows in their caches. -/
lemma abreast : gate.Abreast (fun _ => True) (SameCache R) R gate' where
  registry := h.registry
  validator := h.validator
  schema := h.schema
  fault _ _ _ _ hst := hst.2
  load entityType id := (h.load entityType id).paired
  publish event _ entityType payload := (Mutating.Alike.ofEffect (h.publish _ _ _)).paired
  persist {action action'} r _ hentityType hchain := by
    have hpersist : gate'.persist action' r = gate'.persist action r := by
      unfold Gate.persist
      rw [hentityType, hchain]
    rw [hpersist]
    exact (h.persist action r).paired

lemma startRecord (action : Action) (e : Entry) :
    Mutating.Alike R (gate.startRecord action e) (gate'.startRecord action e) :=
  (h.abreast.startRecord (.refl _ _) e).alike

lemma bindMemberWith {run : ChainEntry → Mutating σ EntityRecord}
    {run' : ChainEntry → Mutating τ EntityRecord} (hrun : ∀ c, Mutating.Alike R (run c) (run' c))
    (action : Action) (r : EntityRecord) (field : String) (v : Json) :
    Mutating.Alike R (gate.bindMemberWith run action r field v)
      (gate'.bindMemberWith run' action r field v) :=
  (h.abreast.bindMemberWith (.refl _ _) (fun c => (hrun c).paired) r field v).alike

lemma bindMember {run : String → Chain → Entry → Mutating σ EntityRecord}
    {run' : String → Chain → Entry → Mutating τ EntityRecord}
    (hrun : ∀ target chain e, Mutating.Alike R (run target chain e) (run' target chain e))
    (action : Action) (r : EntityRecord) (field : String) (v : Json) :
    Mutating.Alike R (gate.bindMember run action r field v)
      (gate'.bindMember run' action r field v) := by
  rw [bindMember_eq, bindMember_eq]
  exact h.bindMemberWith (fun c => hrun c.association.target c.chain c.entry) action r field v

lemma bindEntry {run : String → Chain → Entry → Mutating σ EntityRecord}
    {run' : String → Chain → Entry → Mutating τ EntityRecord}
    (hrun : ∀ target chain e, Mutating.Alike R (run target chain e) (run' target chain e))
    (action : Action) (e : Entry) :
    Mutating.Alike R (gate.bindEntry run action e) (gate'.bindEntry run' action e) :=
  (h.abreast.bindEntry (.refl _ _) (fun target chain e => (hrun target chain e).paired) trivial
    e).alike

/-- The configuration of each type is the same, or missing in both. -/
lemma entity (target : String) :
    Decision.Pairs Eq (gate.config.entity target) (gate'.config.entity target) :=
  .of_eq (by rw [h.config])

lemma runEntry {next : EntityConfig → Batch → Mutating σ (List EntityRecord)}
    {next' : EntityConfig → Batch → Mutating τ (List EntityRecord)}
    (hnext : ∀ config b, Mutating.Alike R (next config b) (next' config b))
    (frontEnd : FrontEndOptions) (target : String) (chain : Chain) (e : Entry) :
    Mutating.Alike R (gate.runEntry next frontEnd target chain e)
      (gate'.runEntry next' frontEnd target chain e) := by
  refine (h.abreast.runEntry (B := fun config b config' b' => config = config' ∧ b = b') h.entity
    (fun heq _ => heq ▸ rfl) (fun heq _ _ _ _ => ⟨heq, rfl⟩) ?_ frontEnd target chain e).alike
  rintro config b _ _ ⟨rfl, rfl⟩
  exact (hnext config b).paired

lemma openBatchWith {prefetch : Batch → Mutating σ Unit} {prefetch' : Batch → Mutating τ Unit}
    {b : Batch} (hprefetch : Mutating.Alike R (prefetch b) (prefetch' b)) (config : EntityConfig) :
    Mutating.Alike R (gate.openBatchWith prefetch config b)
      (gate'.openBatchWith prefetch' config b) := by
  unfold Gate.openBatchWith
  rw [h.registry]
  refine (Mutating.Alike.ofDecision _).bind fun rules => ?_
  refine (Mutating.Alike.ofDecision _).bind fun _ => ?_
  refine (Mutating.Alike.ofDecision _).bind fun _ => ?_
  refine (Mutating.Alike.ofDecision _).bind fun wanted => ?_
  split
  · exact hprefetch.bind fun _ => .pure _
  · exact .pure _

lemma openBatch (config : EntityConfig) (b : Batch) :
    Mutating.Alike R (gate.openBatch config b) (gate'.openBatch config b) :=
  h.openBatchWith (h.prefetch b) config

/-- Every batch runs alike, whatever it asks for. -/
theorem runBatch (levels : Nat) (config : EntityConfig) (b : Batch) :
    Mutating.Alike R (gate.runBatch levels config b) (gate'.runBatch levels config b) := by
  refine (h.abreast.runBatch (B := fun config b config' b' => config = config' ∧ b = b') h.entity
    (fun heq _ => heq ▸ rfl) (fun heq _ _ _ _ => ⟨heq, rfl⟩) ?_ levels ⟨rfl, rfl⟩).alike
  rintro config b _ _ ⟨rfl, rfl⟩
  refine ⟨rfl, rfl, (h.openBatch config b).paired.mono fun action _ heq => ?_⟩
  exact ⟨heq ▸ .refl _ _, trivial⟩

/-! ## Mutations -/

lemma runAndFlush (config : EntityConfig) (b : Batch) (flush : Bool) :
    EntityGate.Alike R (gate.runAndFlush config b flush) (gate'.runAndFlush config b flush) := by
  unfold Gate.runAndFlush
  rw [h.addedLevels]
  refine (h.runBatch _ config b).withoutCache.bind fun records => ?_
  split
  · exact h.flush.ofStore.bind fun _ => .pure _
  · exact .pure _

lemma inTransaction {α : Type} {e : Effect σ α} {e' : Effect τ α} (he : EntityGate.Alike R e e') :
    EntityGate.Alike R (gate.inTransaction e) (gate'.inTransaction e') := by
  refine h.begin.ofStore.bind fun _ => ?_
  -- what comes next depends on the outcome inside, so this is no bind
  intro s t hst
  obtain ⟨result, s', t', hs, ht, hR⟩ := he.run_eq hst
  dsimp only
  rw [hs, ht]
  cases result with
  | ok a => exact h.commit.ofStore.bind (fun _ => .pure a) s' t' hR
  | error f => exact ⟨rfl, (h.rollback s' t' hR).2⟩

lemma toArray (entityType : String) (rows : List Json) :
    EntityGate.Alike R (gate.toArray entityType rows) (gate'.toArray entityType rows) :=
  (h.publish _ _ _).bind fun _ => (h.publish _ _ _).bind fun _ => .pure _

lemma rules : gate.rules = gate'.rules := by
  rw [Gate.rules, Gate.rules, h.config, h.registry, h.schema]

lemma plan : gate.plan = gate'.plan := by
  funext entityType chain params overrides frontEnd
  unfold Gate.plan Gate.batchOf Gate.transactionSettings
  rw [h.config, h.registry, h.schema, h.rules]

/-- Gates that work alike mutate alike. -/
theorem mutate (entityType : String) (chain : Chain) (params : Json) (overrides : CallOptions)
    (frontEnd : FrontEndOptions) :
    EntityGate.Alike R (gate.mutate entityType chain params overrides frontEnd)
      (gate'.mutate entityType chain params overrides frontEnd) := by
  rw [mutate_eq, mutate_eq, h.plan]
  refine (EntityGate.Alike.ofExcept _).bind fun p => ?_
  refine EntityGate.Alike.bind ?_ fun records => (h.toArray _ _).bind fun _ => .pure _
  unfold perform
  split
  · exact h.inTransaction (h.runAndFlush _ _ _)
  · exact h.runAndFlush _ _ _

end Alike

end Gate

/-! ## States around a state -/

section

variable {σ τ : Type}
  (lift : ∀ {ε α : Type}, ExceptT ε (StateM σ) α → ExceptT ε (StateM τ) α)

/-- A store, its calls lifted to a larger state. -/
def Persistence.lifted (p : Persistence σ) : Persistence τ where
  execute := fun q => lift (p.execute q)
  executePaginated := fun q fetchJoin returnCount =>
    lift (p.executePaginated q fetchJoin returnCount)
  findIn := fun entityType ids => lift (p.findIn entityType ids)
  insert := fun r => lift (p.insert r)
  update := fun r => lift (p.update r)
  remove := fun r => lift (p.remove r)
  schema := p.schema
  begin := lift p.begin
  commit := lift p.commit
  rollback := lift p.rollback
  flush := lift p.flush

/-- A gate, its store and its listeners lifted to a larger state. -/
def Gate.lifted (gate : Gate σ) : Gate τ where
  config := gate.config
  registry := gate.registry
  persistence := gate.persistence.lifted lift
  validator := gate.validator
  events := gate.events.map fun l =>
    ⟨l.event, fun event entityType payload => lift (l.listener event entityType payload)⟩
  addedLevels := gate.addedLevels
  bareLevels := gate.bareLevels

/-- A lifted gate works like the gate itself, in each sense in which lifted computations do. -/
theorem Gate.lifted_alike {R : τ → σ → Prop}
    (hR : ∀ {ε α : Type} (run : ExceptT ε (StateM σ) α), EntityGate.Alike R (lift run) run)
    (gate : Gate σ) : (gate.lifted lift).Alike R gate where
  config := rfl
  registry := rfl
  validator := rfl
  schema := rfl
  addedLevels := rfl
  bareLevels := rfl
  findIn _ _ := hR _
  insert _ := hR _
  update _ := hR _
  remove _ := hR _
  begin := hR _
  commit := hR _
  rollback := hR _
  flush := hR _
  events := by
    refine List.forall₂_map_left_iff.mpr (List.forall₂_same.mpr fun l _ => ?_)
    exact ⟨rfl, fun event entityType payload => hR _⟩

end

namespace Mutating

variable {σ τ ι α : Type} {p : Mutating σ α} {p' : Mutating τ α}

/-- A run from the image of a state comes to the image of what it comes to from the state. -/
lemma Alike.run_image {f : τ → σ} (h : Alike (fun s t => s = f t) p p') (cache : CallCache)
    (t : τ) : p.run cache (f t) = ((p'.run cache t).1, f (p'.run cache t).2) := by
  obtain ⟨result, s', t', hs, ht, rfl⟩ := (h cache).run_eq (s := f t) rfl
  rw [hs, ht]

/-- What holds of a run from all states holds from their images. -/
lemma Triple.of_images {f : ι → τ → σ} (hf : ∀ s, ∃ i t, f i t = s)
    (halike : ∀ i, Alike (fun s t => s = f i t) p p') {pre : CallCache → σ → Prop}
    {post : α → CallCache → σ → Prop} {fail : Fault → σ → Prop}
    (h : ∀ i, Triple (fun cache t => pre cache (f i t)) p'
      (fun a cache t => post a cache (f i t)) fun fault t => fail fault (f i t)) :
    Triple pre p post fail := by
  intro cache s hs
  obtain ⟨i, t, rfl⟩ := hf s
  have hrun := h i cache t hs
  rw [(halike i).run_image cache]
  cases hp : p'.run cache t with
  | mk result t' =>
    rw [hp] at hrun
    cases result <;> exact hrun

end Mutating

/-- Lookups and listeners keep from images of states what they keep from the states. -/
lemma Gate.keepsLookups_of_images {σ τ ι : Type} {gate : Gate σ} {gate' : Gate τ}
    {f : ι → τ → σ} (hf : ∀ s, ∃ i t, f i t = s)
    (halike : ∀ i, gate.Alike (fun s t => s = f i t) gate') {inv : CallCache → σ → Prop}
    {fail : Fault → σ → Prop} (h : ∀ i, gate'.KeepsLookups (fun cache t => inv cache (f i t))
      fun fault t => fail fault (f i t)) : gate.KeepsLookups inv fail where
  load entityType id := .of_images hf (fun i => (halike i).load entityType id)
    fun i => (h i).load entityType id
  fetch entityType ids := .of_images hf (fun i => (halike i).fetch entityType ids)
    fun i => (h i).fetch entityType ids
  publish event hevent entityType payload := .of_images hf
    (fun i => .ofEffect ((halike i).publish event entityType payload))
    fun i => (h i).publish event hevent entityType payload
  fault fault cache s hs := by
    obtain ⟨i, t, rfl⟩ := hf s
    exact (h i).fault fault cache t hs

namespace Gate

variable {σ : Type}

/-! ## The journal -/

/-- The state without the journal. -/
def Kept (w : Journaled σ) (s : σ) : Prop := w.state = s

lemma kept_opening (s : σ) : Kept (.opening s) s := rfl

lemma noting_alike {ε α : Type} (note : Bool → Happening) (run : ExceptT ε (StateM σ) α) :
    EntityGate.Alike Kept (Journaled.noting note run) run := by
  rintro w s rfl
  unfold Journaled.noting
  cases run w.state with
  | mk result s => cases result <;> exact ⟨rfl, rfl⟩

/-- A gate with a journal works like the gate without it. -/
theorem journaled_alike (gate : Gate σ) : gate.journaled.Alike Kept gate where
  config := rfl
  registry := rfl
  validator := rfl
  schema := rfl
  addedLevels := rfl
  bareLevels := rfl
  findIn _ _ := noting_alike _ _
  insert _ := noting_alike _ _
  update _ := noting_alike _ _
  remove _ := noting_alike _ _
  begin := noting_alike _ _
  commit := noting_alike _ _
  rollback := noting_alike _ _
  flush := noting_alike _ _
  events := by
    refine List.forall₂_map_left_iff.mpr (List.forall₂_same.mpr fun l _ => ?_)
    exact ⟨rfl, fun event entityType payload => noting_alike _ _⟩

/-- Without a journal, a mutation has the outcome and the state that it has with one. -/
lemma mutate_of_journaled {gate : Gate σ} {entityType : String} {chain : Chain}
    {params : Json} {overrides : CallOptions} {frontEnd : FrontEndOptions} {s : σ}
    {result : Except Fault (List EntityRecord)} {w : Journaled σ}
    (h : (gate.journaled.mutate entityType chain params overrides frontEnd).outcome (.opening s) =
      (result, w)) :
    (gate.mutate entityType chain params overrides frontEnd).outcome s = (result, w.state) := by
  rw [Effect.outcome] at h
  obtain ⟨result', w', s', hrun, hplain, rfl⟩ := ((journaled_alike gate).mutate entityType chain
    params overrides frontEnd).run_eq (kept_opening s)
  rw [h] at hrun
  cases hrun
  exact hplain

end Gate

/-- A part of a mutation keeps without a journal what it keeps with one. -/
lemma Mutating.Triple.of_journaled {σ α : Type} {p : Mutating (Journaled σ) α} {p' : Mutating σ α}
    (halike : Mutating.Alike Gate.Kept p p') {pre : CallCache → σ → Prop}
    {post : α → CallCache → σ → Prop} {fail : Fault → σ → Prop}
    (h : Mutating.Triple (fun cache w => pre cache w.state) p
      (fun a cache w => post a cache w.state) fun f w => fail f w.state) :
    Mutating.Triple pre p' post fail := by
  intro cache s hs
  have hrun := h cache (.opening s) hs
  obtain ⟨result, w, s', hw, hs', rfl⟩ := (halike cache).run_eq (Gate.kept_opening s)
  rw [hw] at hrun
  rw [hs']
  cases result <;> exact hrun

end EntityGate
