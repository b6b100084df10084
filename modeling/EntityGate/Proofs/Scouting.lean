/-
# What is looked up in advance

Before the entries of a batch are bound, the entities that it refers to are looked up.  By then the
whole request has been verified.  Verification visits the entries of the call.  From an entry that
is not only read it goes on along the relations among its members, to each entry of a chain request
whose chain the relation allows and whose type admits it: its action is allowed there, or reading
is.

Gathering follows more relations than that.  It looks into an entry that is only read, which
verification does not, and it takes the id and the directives of an entry for relations if these are
called so.  All that is looked up in advance is an id that an entry gives which was visited, or one
that stands, at some depth, where verification passes it over.

To tell these lookups from all else that the store is asked for, a mutation is run over a state with
a journal in which they are noted and nothing else is.
-/
import EntityGate.Proofs.Descent
import EntityGate.Proofs.Stock

namespace EntityGate

open Decision
open Mutating (Triple ofDecision ofEffect)
open Relation (ReflTransGen)

/-! ## Scouting -/

/-- Run something on the state, and note nothing in the journal. -/
def Journaled.below {σ α ε : Type} (run : ExceptT ε (StateM σ) α) :
    ExceptT ε (StateM (Journaled σ)) α := fun w =>
  let (result, state) := run w.state
  (result, { w with state })

namespace Gate

variable {σ : Type} (gate : Gate σ)

/-- The gate over a state with a journal in which it notes nothing. -/
def unnoted : Gate (Journaled σ) := gate.lifted Journaled.below

/-- Run a batch, and note what is looked up in advance. -/
def scoutBatch (levels : Nat) : Walk (Mutating (Journaled σ) (List EntityRecord)) :=
  (gate.unnoted.batchStep gate.journaled.prefetch)^[levels] fun _ _ => throw .nestedTooDeeply

/-- Mutate, and note what is looked up in advance. -/
def scoutMutate (entityType : String) (chain : Chain) (params : Json) (overrides : CallOptions)
    (frontEnd : FrontEndOptions) : Effect (Journaled σ) (List EntityRecord) := do
  let p ← Effect.ofExcept (gate.plan entityType chain params overrides frontEnd)
  gate.unnoted.carryOutWith (gate.scoutBatch (p.batch.levels + gate.addedLevels) p.config p.batch)
    entityType p

lemma unnoted_alike : gate.unnoted.Alike Kept gate :=
  lifted_alike _ (fun _ _ _ hws => hws ▸ ⟨rfl, rfl⟩) gate

/-- A batch that is scouted returns and does what it returns and does otherwise. -/
theorem scoutBatch_alike (levels : Nat) (config : EntityConfig) (b : Batch) :
    Mutating.Alike Kept (gate.scoutBatch levels config b) (gate.runBatch levels config b) := by
  rw [runBatch_eq_iterate]
  unfold scoutBatch
  induction levels generalizing config b with
  | zero => exact .throw _
  | succ levels ih =>
    rw [Function.iterate_succ_apply', Function.iterate_succ_apply']
    exact gate.unnoted_alike.batchStep (journaled_alike gate).prefetch ih config b

/-- So does a mutation. -/
theorem scoutMutate_alike (entityType : String) (chain : Chain) (params : Json)
    (overrides : CallOptions) (frontEnd : FrontEndOptions) :
    EntityGate.Alike Kept (gate.scoutMutate entityType chain params overrides frontEnd)
      (gate.mutate entityType chain params overrides frontEnd) := by
  rw [mutate_eq]
  refine (EntityGate.Alike.ofExcept _).bind fun p => ?_
  exact gate.unnoted_alike.carryOutWith (gate.scoutBatch_alike _ p.config p.batch) entityType p

end Gate

/-! ## What verification visits -/

/-- An entry with fewer fields gives no more ids. -/
lemma Mention.Reaches.of_fields {schema : Schema} {entityType target : String} {chain : Chain}
    {e e' : Entry} {id : Json} (h : Reaches schema ⟨target, chain, e'⟩ entityType id)
    (hid : e'.id = e.id) (hfields : e'.fields ⊆ e.fields) :
    Reaches schema ⟨target, chain, e⟩ entityType id := by
  rcases reaches_iff.mp h with ⟨htype, hcreate, hgiven⟩ |
    ⟨inner, ⟨field, hfield, hheld⟩, hreaches⟩
  · exact reaches_iff.mpr (.inl ⟨htype, hcreate, hid ▸ hgiven⟩)
  · exact reaches_iff.mpr (.inr ⟨inner, ⟨field, hfields hfield, hheld⟩, hreaches⟩)

namespace Task

/-- The entry of a task as it stands in the request, with its directives. -/
def asked : Task → Entry
  | ofCall _ e => e
  | ofChain _ c => c.asked

/-- What a task mentions. -/
def mention (t : Task) : Mention := ⟨t.entityType, t.chain, t.asked⟩

/-- Verification passes over a field of an entry that is only read, and elsewhere over the id and
the directives. -/
def PassesOver (t : Task) (field : String) : Prop :=
  t.chain = .read ∨ field = "id" ∨ field ∈ Entry.directives

/-- A mention stands in a relation that verification passes over. -/
def Overlooks (schema : Schema) (t : Task) (m : Mention) : Prop :=
  ∃ field ∈ t.asked.fields, t.PassesOver field.1 ∧
    ∃ a, schema.association? t.entityType field.1 = some a ∧
      Mention.Requested a.target field.2 m

end Task

/-- Verification opens each entry that the value of a relation asks for, and goes on to its
batch. -/
lemma Rules.verifies_requested {rules : Rules} {next : Walk (Except Fault Unit)} {action : Action}
    {frontEnd : FrontEndOptions} {a : Association} {v : Json}
    (hverify : rules.verifyRelation next action frontEnd a v = .ok ()) {m : Mention}
    (hm : Mention.Requested a.target v m) :
    ∃ config assign rest, rules.config.entity a.target = .ok config ∧
      action.Opens rules.registry ⟨a, m.chain, m.entry, assign, rest⟩ ∧
      next config (.nested a.target m.chain rest frontEnd) = .ok () := by
  obtain ⟨chains, hchains, request, hrequest, hname, entries, hentries, he, -⟩ := hm
  unfold verifyRelation at hverify
  split at hverify
  · rename_i hnull
    cases v <;> cases hnull
    cases hchains
  · obtain ⟨config, hconfig, hverify⟩ := bind_eq_ok.mp hverify
    obtain ⟨requests, hrequests, hverify⟩ := bind_eq_ok.mp hverify
    rw [chainRequests, hchains] at hrequests
    cases hrequests
    obtain ⟨⟨chain, opened⟩, hopen, hopened⟩ :=
      bind_eq_ok.mp (forM_eq_ok.mp hverify request hrequest)
    obtain ⟨hname', hentries', hallowed⟩ := Action.openChain_eq_ok hopen
    -- the chain and its entries are the same, so the entry is one of those that are opened
    obtain rfl : chain = m.chain :=
      Option.some.inj ((Chain.ofName?_of_ofName hname').symm.trans hname)
    obtain rfl : opened = entries := Except.ok.inj (hentries'.symm.trans hentries)
    obtain ⟨⟨assign, rest⟩, hentry, hnext⟩ := bind_eq_ok.mp (forM_eq_ok.mp hopened m.entry he)
    exact ⟨config, assign, rest, hconfig, Action.openEntry_eq_ok hallowed hentry, hnext⟩

namespace Gate

variable {σ : Type} (gate : Gate σ)

/-- The type of a task admits it: the action is allowed, or for an entry that is only read, reading
is. -/
def Admits (t : Task) : Prop :=
  if t.chain = .read then
    ∃ config, gate.config.entity t.entityType = .ok config ∧
      config.checkReadChain gate.registry t.batch = .ok ()
  else ∃ action, gate.ActsFor t action

/-- The entries that verification visits, from those of a batch on. -/
inductive Visits (b : Batch) : Task → Prop where
  | ofCall {e : Entry} (he : e ∈ b.entries) : Visits b (.ofCall b e)
  | ofChain {parent : Task} {above : Action} {member : String × Json} {c : ChainEntry}
      (hparent : Visits b parent) (hacts : gate.ActsFor parent above)
      (hmember : member ∈ parent.entry.members)
      (hrelation : gate.persistence.schema.association? parent.entityType member.1 =
        some c.association)
      (hrequested : Mention.Requested c.association.target member.2
        ⟨c.association.target, c.chain, c.asked⟩)
      (hopens : above.Opens gate.registry c)
      (hadmitted : gate.Admits (.ofChain parent c)) : Visits b (.ofChain parent c)

/-- An id is accounted for: an entry that was visited gives it, or it stands in one where
verification passes it over, at some depth. -/
def Accounts (b : Batch) (entityType : String) (id : Json) : Prop :=
  ∃ t, gate.Visits b t ∧ (t.mention.Names entityType id ∨
    ∃ m, t.Overlooks gate.persistence.schema m ∧
      m.Reaches gate.persistence.schema entityType id)

/-- Verification has accepted the entry of a task. -/
def Accepts (t : Task) : Prop :=
  t.chain = .read ∨ ∃ levels action, gate.ActsFor t action ∧
    gate.rules.verifyEntry (gate.rules.verify levels) action t.batch.frontEnd t.entry = .ok ()

variable {gate}

/-- A type that admits something is configured. -/
lemma Admits.configured {t : Task} (h : gate.Admits t) :
    ∃ config, gate.config.entity t.entityType = .ok config := by
  unfold Admits at h
  split at h
  · obtain ⟨config, hconfig, -⟩ := h
    exact ⟨config, hconfig⟩
  · obtain ⟨action, hacts⟩ := h
    obtain ⟨config, -, hconfig, -⟩ := hacts.rules
    exact ⟨config, hconfig⟩

/-- If verification accepts the batch of a task, its type admits it, and its entry is accepted. -/
lemma admits_of_verify {t : Task} {config : EntityConfig} {levels : Nat}
    (hconfig : gate.config.entity t.entityType = .ok config)
    (hverify : gate.rules.verify levels config t.batch = .ok ())
    (hentry : t.entry ∈ t.batch.entries) : gate.Admits t ∧ gate.Accepts t := by
  unfold Admits
  cases levels with
  | zero => cases hverify
  | succ levels =>
    rw [Rules.verify] at hverify
    split at hverify
    · rename_i hread
      rw [Rules.verifyRead] at hverify
      split at hverify
      · cases hverify
      · rw [if_pos (show t.chain = .read from hread)]
        exact ⟨⟨config, hconfig, hverify⟩, .inl hread⟩
    · rename_i hread
      obtain ⟨rules, hrules, hverify⟩ := bind_eq_ok.mp hverify
      obtain ⟨⟨⟩, hallowed, hverify⟩ := bind_eq_ok.mp hverify
      obtain ⟨⟨⟩, -, hentries⟩ := bind_eq_ok.mp hverify
      have hacts := actsFor_of_checkAllowed hconfig hrules hallowed
      rw [if_neg (show t.chain ≠ .read from hread)]
      exact ⟨⟨_, hacts⟩, .inr ⟨levels, _, hacts, forM_eq_ok.mp hentries t.entry hentry⟩⟩

/-- Verification goes on to each entry that a member of an accepted entry asks for. -/
lemma Accepts.child {t : Task} (h : gate.Accepts t) (hread : t.chain ≠ .read)
    {member : String × Json} (hmember : member ∈ t.entry.members) {a : Association}
    (ha : gate.persistence.schema.association? t.entityType member.1 = some a) {m : Mention}
    (hm : Mention.Requested a.target member.2 m) :
    ∃ above assign rest, gate.ActsFor t above ∧
      above.Opens gate.registry ⟨a, m.chain, m.entry, assign, rest⟩ ∧
      gate.Admits (.ofChain t ⟨a, m.chain, m.entry, assign, rest⟩) ∧
      gate.Accepts (.ofChain t ⟨a, m.chain, m.entry, assign, rest⟩) := by
  obtain ⟨levels, above, hacts, hverify⟩ := h.resolve_left hread
  obtain ⟨field, v⟩ := member
  have ha' : gate.rules.schema.association? above.entityType field = some a := by
    rw [hacts.sameType]
    exact ha
  unfold Rules.verifyEntry at hverify
  split at hverify
  · cases hverify
  · replace hverify := forM_eq_ok.mp hverify (field, v) hmember
    dsimp only at hverify
    rw [Rules.verifyMember, ha'] at hverify
    obtain ⟨config, assign, rest, hconfig, hopens, hnext⟩ :=
      Rules.verifies_requested hverify hm
    exact ⟨above, assign, rest, hacts, hopens,
      admits_of_verify (t := .ofChain t ⟨a, m.chain, m.entry, assign, rest⟩) hconfig hnext
        List.mem_cons_self⟩

/-! ## What gathering follows -/

section

variable {b b' : Batch} {t : Task} {m : Mention} {entityType : String} {id : Json}

/-- The entry of a task that was visited is the one in the request but for its directives. -/
lemma Visits.entry (h : gate.Visits b t) : t.entry.id = t.asked.id ∧
    t.entry.fields ⊆ t.asked.fields ∧ t.entry.members = t.asked.members := by
  cases h with
  | ofCall he => exact ⟨rfl, List.Subset.refl _, rfl⟩
  | ofChain _ _ _ _ _ hopens _ =>
    obtain ⟨hid, hfields⟩ := Entry.takeAssign_eq_ok hopens.taken
    exact ⟨hid, hfields, Entry.members_of_takeAssign hopens.taken⟩

/-- What stands in an entry that was visited is passed over, or it is an entry that is visited
next. -/
lemma Visits.held (h : gate.Visits b t) (haccepts : gate.Accepts t)
    (hm : Mention.Holds gate.persistence.schema t.mention m) :
    t.Overlooks gate.persistence.schema m ∨
      ∃ next, gate.Visits b next ∧ gate.Accepts next ∧ next.mention = m := by
  obtain ⟨target, chain, e⟩ := m
  obtain ⟨field, hfield, a, ha, hrequested⟩ := hm
  obtain rfl : target = a.target := hrequested.sameType
  by_cases hpass : t.PassesOver field.1
  · exact .inl ⟨field, hfield, hpass, a, ha, hrequested⟩
  · obtain ⟨hread, hname⟩ := not_or.mp hpass
    have hmember : field ∈ t.entry.members := by
      rw [h.entry.2.2]
      exact List.mem_filter.mpr ⟨hfield, by simpa using hname⟩
    obtain ⟨above, assign, rest, hacts, hopens, hadmits, hnext⟩ :=
      haccepts.child hread hmember ha hrequested
    have hvisits : gate.Visits b (.ofChain t ⟨a, chain, e, assign, rest⟩) :=
      .ofChain h hacts hmember ha hrequested hopens hadmits
    exact .inr ⟨_, hvisits, hnext, rfl⟩

/-- All ids in an entry that was visited are accounted for. -/
theorem Visits.accounts (h : gate.Visits b t) (haccepts : gate.Accepts t)
    (hreaches : t.mention.Reaches gate.persistence.schema entityType id) :
    gate.Accounts b entityType id := by
  obtain ⟨last, hpath, hnames⟩ := hreaches
  generalize hstart : t.mention = m at hpath
  -- the walk goes on from task to task until it comes to its end or to where it is passed over
  induction hpath using ReflTransGen.head_induction_on generalizing t with
  | refl =>
    subst hstart
    exact ⟨t, h, .inl hnames⟩
  | head hheld hrest ih =>
    subst hstart
    rcases h.held haccepts hheld with hover | ⟨next, hnext, haccepts, hmention⟩
    · exact ⟨t, h, .inr ⟨_, hover, last, hrest, hnames⟩⟩
    · exact ih hnext haccepts hmention

/-- The entries of a batch are those of tasks that were visited and accepted. -/
def Covers (gate : Gate σ) (b b' : Batch) : Prop :=
  ∀ e ∈ b'.entries, ∃ t, gate.Visits b t ∧ gate.Accepts t ∧ t.batch = b' ∧ t.entry = e

/-- All ids that such a batch gives are accounted for. -/
lemma Covers.accounts (h : gate.Covers b b')
    (hnames : b'.Names gate.persistence.schema entityType id) : gate.Accounts b entityType id := by
  obtain ⟨e, he, hreaches⟩ := hnames
  obtain ⟨t, hvisits, haccepts, rfl, rfl⟩ := h e he
  obtain ⟨hid, hfields, -⟩ := hvisits.entry
  exact hvisits.accounts haccepts (hreaches.of_fields hid hfields)

end

/-! ## What is noted -/

/-- Everything in a journal is a lookup of ids of which `P` says so. -/
def Told (P : String → Json → Prop) (w : Journaled σ) : Prop :=
  ∀ happening ∈ w.journal, ∃ entityType ids answered,
    happening = .called (.findIn entityType ids) answered ∧ ∀ id ∈ ids, P entityType id

variable {P : String → Json → Prop}

lemma below_told {α ε : Type} (run : ExceptT ε (StateM σ) α) :
    StateKept (Told P) (Journaled.below run) := fun _ hw => hw

/-- Nothing is noted of the steps of a mutation. -/
lemma unnoted_keeps (gate : Gate σ) :
    gate.unnoted.Keeps (fun _ => Told P) fun _ => Told P :=
  KeepsState.keeps
    { findIn := fun _ _ => below_told _
      insert := fun _ => below_told _
      update := fun _ => below_told _
      remove := fun _ => below_told _
      listener := fun l hl event _ entityType payload => by
        obtain ⟨l', -, rfl⟩ := List.mem_map.mp hl
        exact below_told _ }

/-- Fetching the entities of a type notes their ids. -/
lemma journaled_fetch_told {entityType : String} {ids : List Json}
    (hids : ∀ id ∈ ids, P entityType id) : Triple (fun _ => Told P)
      (gate.journaled.fetch entityType ids) (fun _ _ => Told P) fun _ => Told P := by
  refine .bind (m := fun _ _ => Told P) (.getCache fun _ _ hw => hw) fun cache => ?_
  have hmissing : ∀ id ∈ missingIds cache entityType ids, P entityType id :=
    fun id hid => hids id (mem_missingIds hid).1
  generalize missingIds cache entityType ids = missing at hmissing
  have hfind : StateKept (Told P) (gate.journaled.persistence.findIn entityType missing) := by
    intro w hw
    have hnoted : ∀ (s : σ) answered, Told P
        ⟨s, w.journal ++ [.called (.findIn entityType missing) answered]⟩ := fun s answered =>
      List.forall_mem_append.mpr ⟨hw, List.forall_mem_singleton.mpr ⟨_, _, _, rfl, hmissing⟩⟩
    change Told P (Journaled.noting _ (gate.persistence.findIn entityType missing) w).2
    rw [Journaled.noting_run]
    cases gate.persistence.findIn entityType missing w.state with
    | mk result s => cases result <;> exact hnoted s _
  split
  · exact .keep _
  · exact .bind (m := fun _ _ => Told P) (.ofEffect fun _ => hfind.store) fun rows =>
      .modifyCache fun _ _ hw => hw

/-- Looking up in advance notes ids that the batch gives. -/
lemma journaled_prefetch_told {b : Batch}
    (hnames : ∀ entityType id, b.Names gate.persistence.schema entityType id → P entityType id) :
    Triple (fun _ => Told P) (gate.journaled.prefetch b) (fun _ _ => Told P) fun _ => Told P := by
  unfold prefetch
  split
  · exact .throw fun _ _ hw => hw
  · rename_i refs hrefs
    have hmem := References.ofBatch?_gathers hrefs
    refine .forM fun entry hentry => journaled_fetch_told fun id hid => hnames entry.1 id ?_
    exact (hmem entry.1 id).mp (References.mem_ofType.mpr ⟨entry.2, hentry, hid⟩)

section

variable (hbus : gate.events = []) {b : Batch}
include hbus

/-- An entry of a batch that was visited is bound, and all that is noted on the way is accounted
for. -/
lemma bindEntry_told {levels : Nat} (hnext : ∀ config b', gate.config.entity b'.entityType =
      .ok config → gate.Covers b b' → Triple (fun _ => Told (gate.Accounts b))
        (gate.scoutBatch levels config b') (fun _ _ => Told (gate.Accounts b))
        fun _ => Told (gate.Accounts b))
    {t : Task} (hvisits : gate.Visits b t) (haccepts : gate.Accepts t) (hread : t.chain ≠ .read)
    (rules : MutationRules) : Triple (fun _ => Told (gate.Accounts b))
      (gate.unnoted.bindEntry (gate.unnoted.runEntry (gate.scoutBatch levels) t.batch.frontEnd)
        (Action.ofBatch rules t.batch) t.entry) (fun _ _ => Told (gate.Accounts b))
      fun _ => Told (gate.Accounts b) := by
  have hkeeps : gate.unnoted.Keeps (fun _ => Told (gate.Accounts b)) fun _ =>
    Told (gate.Accounts b) := unnoted_keeps gate
  have hquiet : gate.unnoted.events = [] := congrArg (List.map _) hbus
  refine (hkeeps.lookups.startRecord _ _).bind fun r => ?_
  rw [bindMember_eq]
  refine (bindMembersWith_keeps hquiet hkeeps.fault (fun member hmember c ha hrequested hopens =>
    ?_) r).bind fun r => ?_
  · obtain ⟨above, assign, rest, hacts, hopens', hadmits, hchild⟩ :=
      haccepts.child hread hmember ha hrequested
    -- the entry that is run is the one that verification went on to
    obtain ⟨a, chain, asked, assign', entry⟩ := c
    cases Except.ok.inj (hopens.taken.symm.trans hopens'.taken)
    have hvisited : gate.Visits b (.ofChain t ⟨a, chain, asked, assign, rest⟩) :=
      .ofChain hvisits hacts hmember ha hrequested hopens' hadmits
    have hrun : Triple (fun _ => Told (gate.Accounts b))
        (gate.unnoted.runChainEntry (fun config b' _ => gate.scoutBatch levels config b')
          t.batch.frontEnd t ⟨a, chain, asked, assign, rest⟩) (fun _ _ => Told (gate.Accounts b))
        fun _ => Told (gate.Accounts b) := by
      refine runChainEntry_triple hkeeps.lookups.finds hkeeps.fault (fun _ _ _ hw => hw)
        fun config hconfig _ => ?_
      refine hnext config _ hconfig fun e he => ⟨_, hvisited, hchild, rfl, ?_⟩
      exact (List.mem_singleton.mp he).symm
    exact hrun
  · exact (hkeeps.lookups.finds.ofDecision _).bind fun r => hkeeps.persist _ r

/-- Whatever is noted of a batch whose entries were visited is accounted for. -/
theorem scoutBatch_told (levels : Nat) : ∀ config b',
    gate.config.entity b'.entityType = .ok config → gate.Covers b b' →
    Triple (fun _ => Told (gate.Accounts b)) (gate.scoutBatch levels config b')
      (fun _ _ => Told (gate.Accounts b)) fun _ => Told (gate.Accounts b) := by
  induction levels with
  | zero => exact fun _ _ _ _ => .throw fun _ _ hw => hw
  | succ levels ih =>
    intro config b' hconfig hcovers
    have hopen : Triple (fun _ => Told (gate.Accounts b))
        (gate.unnoted.openBatchWith gate.journaled.prefetch config b') (fun action _ w =>
          (∃ rules, config.mutationRules b'.chain = .ok rules ∧ action = Action.ofBatch rules b' ∧
            action.checkAllowed gate.registry = .ok ()) ∧ Told (gate.Accounts b) w)
        fun _ => Told (gate.Accounts b) :=
      openBatchWith_of_prefetch (fun _ _ _ hw => hw)
        (journaled_prefetch_told fun entityType id => hcovers.accounts) fun _ _ _ _ _ _ _ hw => hw
    unfold scoutBatch
    rw [Function.iterate_succ_apply']
    refine hopen.bind fun action => .of_fact ?_
    rintro ⟨rules, hrules, rfl, -⟩
    refine (Triple.mapM fun e he => ?_).weaken (fun _ _ hw => hw) (fun _ _ _ hw => hw.2)
      fun _ _ hw => hw
    obtain ⟨t, hvisits, haccepts, rfl, rfl⟩ := hcovers e he
    exact bindEntry_told hbus ih hvisits haccepts (EntityConfig.chain_ne_read hrules) rules

/-- Whatever is noted of a plan is accounted for by its batch. -/
lemma scoutPlan_told {entityType : String} {chain : Chain} {params : Json}
    {overrides : CallOptions} {frontEnd : FrontEndOptions} {p : Plan}
    (hplan : gate.plan entityType chain params overrides frontEnd = .ok p) :
    Effect.Triple (Told (gate.Accounts p.batch)) (gate.unnoted.carryOutWith
        (gate.scoutBatch (p.batch.levels + gate.addedLevels) p.config p.batch) entityType p)
      (fun _ => Told (gate.Accounts p.batch)) fun _ => Told (gate.Accounts p.batch) := by
  obtain ⟨hconfig, hbatch⟩ := plan_parts hplan
  obtain ⟨-, -, hverify⟩ := plan_eq_ok hplan
  rw [← (batchOf_kind hbatch).1] at hconfig
  have hcovers : gate.Covers p.batch p.batch := fun e he =>
    ⟨.ofCall p.batch e, .ofCall he, (admits_of_verify (t := .ofCall p.batch e) hconfig hverify
      he).2, rfl, rfl⟩
  have hrun := scoutBatch_told hbus (p.batch.levels + gate.addedLevels) p.config p.batch hconfig
    hcovers
  have hperform : Effect.Triple (Told (gate.Accounts p.batch)) (gate.unnoted.performWith
      (gate.scoutBatch (p.batch.levels + gate.addedLevels) p.config p.batch) p)
      (fun _ => Told (gate.Accounts p.batch)) fun _ => Told (gate.Accounts p.batch) :=
    performWith_triple hrun (fun _ hw => hw) (fun _ _ hw => hw) (below_told _)
      (fun _ => below_told _) (fun _ => below_told _) (below_told _)
  refine carryOutWith_triple hperform (fun _ _ hw => hw) fun l hl => ?_
  have hquiet : gate.unnoted.events = [] := congrArg (List.map _) hbus
  rw [hquiet] at hl
  cases hl

end

/-- All that a mutation looks up in advance is accounted for by what verification visited. -/
theorem looks_ahead_within_visits (gate : Gate σ) (hbus : gate.events = []) (entityType : String)
    (chain : Chain) (params : Json) (overrides : CallOptions) (frontEnd : FrontEndOptions) (s : σ) :
    ∃ result w,
      (gate.scoutMutate entityType chain params overrides frontEnd).outcome (.opening s) =
        (result, w) ∧
      (gate.mutate entityType chain params overrides frontEnd).outcome s = (result, w.state) ∧
      ∀ happening ∈ w.journal, ∃ b looked ids answered,
        gate.batchOf entityType chain params overrides frontEnd = .ok b ∧
        happening = .called (.findIn looked ids) answered ∧
        ∀ id ∈ ids, gate.Accounts b looked id := by
  obtain ⟨result, w, s', hw, hs, rfl⟩ := (gate.scoutMutate_alike entityType chain params overrides
    frontEnd).run_eq (kept_opening s)
  refine ⟨result, w, hw, hs, ?_⟩
  unfold scoutMutate at hw
  cases hplan : gate.plan entityType chain params overrides frontEnd with
  | error f =>
    rw [hplan] at hw
    cases hw
    exact fun _ h => nomatch h
  | ok p =>
    rw [hplan, Effect.ofExcept_ok, pure_bind] at hw
    have htold := scoutPlan_told hbus hplan (.opening s) fun _ h => nomatch h
    rw [hw] at htold
    replace htold : Told (gate.Accounts p.batch) w := by
      cases result <;> exact htold
    intro happening hmem
    obtain ⟨looked, ids, answered, heq, haccounts⟩ := htold happening hmem
    exact ⟨p.batch, looked, ids, answered, (plan_parts hplan).2, heq, haccounts⟩

/-! ## The contract of an artist that is only read -/

/-- A gate to albums and artists in memory, without listeners.  Artists have contracts, which the
gate is not configured for. -/
def agency : Gate Memory where
  config := ⟨.ofList [("album", openUpdates), ("artist", default)]⟩
  registry := .standard
  persistence := Memory.persistence (.ofTable (.ofList [("album", [⟨"artist", "artist", false⟩]),
    ("artist", [⟨"contract", "contract", false⟩])]))
  validator := fun _ _ => []
  events := []
  addedLevels := 2
  bareLevels := 2

/-- A store with an album, its artist and the contract of another artist. -/
def inAgency : Memory :=
  (Memory.seed "album" [.obj [("artist", .str "miles"), ("id", .str "al1")]]
    (Memory.seed "artist" [.obj [("contract", .str "c1"), ("id", .str "joni")],
      .obj [("id", .str "miles")]]
      (Memory.seed "contract" [.obj [("fee", .int 9000), ("id", .str "c1")]] .empty).2).2).2

/-- An update of the artist of the album, which is only read, with a member that is a relation. -/
def contractOfJoni : Json :=
  .obj [("al1", .obj [("artist", .obj [("read", .obj [("joni",
    .obj [("contract", .str "c1")])])])])]

/-- The update looks up three entities in advance, and all of them are accounted for: the contract
stands in an entry that is only read. -/
theorem contractOfJoni_within_visits : agency.events = [] ∧ ∃ records w,
    (agency.scoutMutate "album" .update contractOfJoni default default).outcome
      (.opening inAgency) = (.ok records, w) ∧
    (agency.mutate "album" .update contractOfJoni default default).outcome inAgency =
      (.ok records, w.state) ∧ w.journal.length = 3 ∧
    ∀ happening ∈ w.journal, ∃ b looked ids answered,
      agency.batchOf "album" .update contractOfJoni default default = .ok b ∧
      happening = .called (.findIn looked ids) answered ∧
      ∀ id ∈ ids, agency.Accounts b looked id := by
  obtain ⟨result, w, hrun, hplain, haccounts⟩ := looks_ahead_within_visits agency rfl "album"
    .update contractOfJoni default default inAgency
  have hlooked : ((agency.scoutMutate "album" .update contractOfJoni default default).outcome
      (.opening inAgency)).1.isOk = true ∧ ((agency.scoutMutate "album" .update contractOfJoni
        default default).outcome (.opening inAgency)).2.journal.length = 3 := by
    decide +kernel
  rw [hrun] at hlooked
  refine ⟨rfl, ?_⟩
  cases result with
  | ok records => exact ⟨records, w, hrun, hplain, hlooked.2, haccounts⟩
  | error f => cases hlooked.1

/-- The contract is looked up in advance, with the album and the artist, though verification visits
no entry of its type. -/
theorem contractOfJoni_looked_up : ∃ p records w,
    agency.plan "album" .update contractOfJoni default default = .ok p ∧
    (agency.scoutMutate "album" .update contractOfJoni default default).outcome
      (.opening inAgency) = (.ok records, w) ∧
    w.journal = [.called (.findIn "album" [.str "al1"]) true,
      .called (.findIn "artist" [.str "joni"]) true,
      .called (.findIn "contract" [.str "c1"]) true] ∧
    ∀ t, agency.Visits p.batch t → ∀ id, ¬ t.mention.Names "contract" id := by
  refine ⟨_, _, _, rfl, rfl, rfl, fun t hvisits id hnames => ?_⟩
  obtain ⟨htype, -, -⟩ := hnames
  cases hvisits with
  | ofCall he =>
    have hne : "album" ≠ "contract" := by decide
    exact hne htype
  | ofChain _ _ _ _ _ _ hadmitted =>
    obtain ⟨config, hconfig⟩ := hadmitted.configured
    rw [show Task.entityType _ = "contract" from htype] at hconfig
    cases hconfig

end Gate

end EntityGate
