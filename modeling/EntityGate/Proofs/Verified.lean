/-
# What verification accepts is not refused later

Verification and binding are two walks over the same chain requests.  They ask the same checks
in the same contexts, as long as no listener replaces what is walked over.  So a batch that
verification accepts is not refused while it is bound, however deep its chain requests are: what
can go wrong then is the evaluation of a setting, a hook, the validator or the store.

Since everything that is decided before a mutation runs is decided without the store, a mutation
that is refused has not called the store at all.
-/
import EntityGate.Proofs.Journal
import EntityGate.Proofs.Refusal
import EntityGate.Store.Memory

namespace EntityGate

open Decision

/-! ## Parts of a mutation that refuse nothing -/

namespace Mutating

variable {σ α β : Type}

/-- A part of a mutation that refuses nothing, and returns values of some kind only. -/
def Grants (p : Mutating σ α) (post : α → Prop) : Prop :=
  Triple (fun _ _ => True) p (fun a _ _ => post a) fun f _ => f.isRefusal = false

namespace Grants

variable {p : Mutating σ α} {post : α → Prop}

lemma pure {a : α} (h : post a) : Grants (Pure.pure a : Mutating σ α) post :=
  Triple.pure fun _ _ _ => h

lemma throw {f : Fault} (h : f.isRefusal = false) :
    Grants (MonadExcept.throw f : Mutating σ α) post :=
  Triple.throw fun _ _ _ => h

lemma bind {next : α → Mutating σ β} {post' : β → Prop} (hp : Grants p post)
    (hnext : ∀ a, post a → Grants (next a) post') : Grants (p >>= next) post' := by
  refine Triple.bind hp fun a => ?_
  intro cache s ha
  exact hnext a ha cache s trivial

lemma ofDecision {d : Except Fault α} (h : Decision.Grants d) :
    Grants (Mutating.ofDecision d : Mutating σ α) fun a => d = .ok a :=
  Triple.ofDecision (fun _ _ _ ha _ => ha) fun f _ _ hf _ => h f hf

/-- A decision that was taken before comes out the same. -/
lemma ofDecision_ok {d : Except Fault α} {a : α} (h : d = .ok a) :
    Grants (Mutating.ofDecision d : Mutating σ α) fun b => a = b := by
  subst h
  exact Triple.ofDecision (fun b _ _ hb _ => Except.ok.inj hb) fun _ _ _ hf _ => by cases hf

lemma ofStore (call : StoreCall σ α) : Grants (Mutating.ofStore call) fun _ => True := by
  refine Triple.ofEffect fun cache => Effect.Triple.ofStore fun s _ => ?_
  split
  · trivial
  · rfl

lemma getCache : Grants (get : Mutating σ CallCache) fun _ => True :=
  Triple.getCache fun _ _ _ => trivial

lemma modifyCache (change : CallCache → CallCache) :
    Grants (modify change : Mutating σ Unit) fun _ => True :=
  Triple.modifyCache fun _ _ _ => trivial

lemma foldlM {step : β → α → Mutating σ β} {l : List α}
    (hstep : ∀ b, ∀ a ∈ l, Grants (step b a) fun _ => True) (b : β) :
    Grants (l.foldlM step b) fun _ => True :=
  Triple.foldlM (I := fun _ _ _ => True) hstep b

lemma forM {pass : α → Mutating σ Unit} {l : List α}
    (hpass : ∀ a ∈ l, Grants (pass a) fun _ => True) : Grants (l.forM pass) fun _ => True :=
  Triple.forM (I := fun _ _ => True) hpass

lemma mapM {pass : α → Mutating σ β} {l : List α}
    (hpass : ∀ a ∈ l, Grants (pass a) fun _ => True) :
    Grants (l.mapM pass) fun bs => bs.length = l.length :=
  (Triple.mapM (I := fun _ _ => True) hpass).weaken (fun _ _ h => h) (fun _ _ _ h => h.1)
    fun _ _ h => h

end Grants

end Mutating

namespace Gate

open Mutating

variable {σ : Type} {gate : Gate σ}

/-! ## Lookups -/

lemma load_grants (entityType : String) (id : Json) :
    (gate.load entityType id).Grants fun _ => True := by
  refine Grants.getCache.bind fun cache _ => ?_
  split
  · exact .pure trivial
  · refine (Grants.ofStore _).bind fun rows _ => ?_
    split
    · exact (Grants.modifyCache _).bind fun _ _ => .pure trivial
    · exact .throw rfl

lemma fetch_grants (entityType : String) (ids : List Json) :
    (gate.fetch entityType ids).Grants fun _ => True := by
  refine Grants.getCache.bind fun cache _ => ?_
  split
  · exact .pure trivial
  · exact (Grants.ofStore _).bind fun rows _ => Grants.modifyCache _

lemma prefetch_grants (b : Batch) : (gate.prefetch b).Grants fun _ => True := by
  unfold prefetch
  split
  · exact .throw rfl
  · exact .forM fun entry _ => fetch_grants entry.1 entry.2

/-- The record that an entry starts from is found without a refusal if the entry names an entity
where its action needs one. -/
lemma startRecord_grants {action : Action} {e : Entry}
    (h : ¬(action.chain ≠ .create ∧ e.id.isNone = true)) :
    (gate.startRecord action e).Grants fun _ => True := by
  unfold startRecord
  split
  · exact .pure trivial
  · rename_i hchain
    cases hid : e.id with
    | none => exact absurd ⟨hchain, by rw [hid]; rfl⟩ h
    | some id => exact (load_grants _ _).bind fun row _ => .pure trivial

/-! ## Members -/

lemma publish_nil (hbus : gate.events = []) (event : Event) (entityType : String)
    (payload : Json) : gate.publish event entityType payload = pure payload := by
  rw [publish, hbus]
  rfl

/-- Without listeners an event passes its payload on. -/
lemma publish_grants (hbus : gate.events = []) (event : Event) (entityType : String)
    (payload : Json) :
    (ofEffect (gate.publish event entityType payload)).Grants fun v => v = payload := by
  rw [publish_nil hbus]
  exact .pure rfl

lemma bindValue_grants (hbus : gate.events = []) {action : Action} {field : String}
    (hcheck : action.checkField gate.registry field = .ok ()) (r : EntityRecord) (v : Json) :
    (gate.bindValue action r field v).Grants fun _ => True := by
  refine (Grants.ofDecision_ok hcheck).bind fun _ _ => ?_
  refine (publish_grants hbus _ _ _).bind fun payload _ => ?_
  dsimp only
  split
  · exact .pure trivial
  · refine (Grants.ofDecision (Hooks.onField_grants _ _ _ _)).bind fun w _ => ?_
    exact .pure trivial

variable {run : String → Chain → Entry → Mutating σ EntityRecord}
  {next : EntityConfig → Batch → Except Fault Unit} {action : Action} {frontEnd : FrontEndOptions}

/-- What it takes to run the entries of chain requests: `run` refuses nothing where `next`
accepts the batch of the entry. -/
def RunsWhatIsVerified (gate : Gate σ) (run : String → Chain → Entry → Mutating σ EntityRecord)
    (next : EntityConfig → Batch → Except Fault Unit) (frontEnd : FrontEndOptions) : Prop :=
  ∀ target config chain e, gate.config.entity target = .ok config →
    next config (.nested target chain e frontEnd) = .ok () →
    (run target chain e).Grants fun _ => True

lemma bindRelation_grants (hbus : gate.events = [])
    (hrun : gate.RunsWhatIsVerified run next frontEnd) {a : Association} {v : Json}
    (hverify : gate.rules.verifyRelation next action frontEnd a v = .ok ()) (r : EntityRecord) :
    (gate.bindRelation run action a r v).Grants fun _ => True := by
  refine (publish_grants hbus _ _ _).bind fun payload hpayload => ?_
  have hparams : (payload.get? "params").getD .null = v := by
    rw [hpayload]
    rfl
  simp only [hparams]
  unfold Rules.verifyRelation at hverify
  split at hverify
  · rename_i hnull
    rw [if_pos hnull]
    exact (Grants.ofDecision_ok hverify).bind fun _ _ => .pure trivial
  · rename_i hnull
    rw [if_neg hnull]
    -- verification has opened the same requests and entries, so they open here as well
    obtain ⟨config, hconfig, hverify⟩ := bind_eq_ok.mp hverify
    obtain ⟨requests, hrequests, hverify⟩ := bind_eq_ok.mp hverify
    refine (Grants.ofDecision_ok hrequests).bind fun _ h => ?_
    subst h
    refine .foldlM (fun r request hrequest => ?_) r
    obtain ⟨⟨chain, entries⟩, hopen, hentries⟩ :=
      bind_eq_ok.mp (forM_eq_ok.mp hverify request hrequest)
    refine (Grants.ofDecision_ok hopen).bind fun _ h => ?_
    subst h
    refine .foldlM (fun r e he => ?_) r
    obtain ⟨⟨assign, rest⟩, hentry, hnext⟩ := bind_eq_ok.mp (forM_eq_ok.mp hentries e he)
    refine (Grants.ofDecision_ok hentry).bind fun _ h => ?_
    subst h
    exact (hrun a.target config chain rest hconfig hnext).bind fun child _ => .pure trivial

lemma bindMember_grants (hbus : gate.events = [])
    (hrun : gate.RunsWhatIsVerified run next frontEnd) {field : String} {v : Json}
    (hverify : gate.rules.verifyMember next action frontEnd field v = .ok ())
    (r : EntityRecord) : (gate.bindMember run action r field v).Grants fun _ => True := by
  unfold Rules.verifyMember at hverify
  unfold bindMember
  split at hverify
  · rename_i a ha
    have ha' : gate.persistence.schema.association? action.entityType field = some a := ha
    rw [ha']
    exact bindRelation_grants hbus hrun hverify r
  · rename_i ha
    have ha' : gate.persistence.schema.association? action.entityType field = none := ha
    rw [ha']
    dsimp only
    split at hverify
    · rename_i hdelete
      rw [if_pos hdelete]
      exact .pure trivial
    · rename_i hdelete
      rw [if_neg hdelete]
      exact bindValue_grants hbus hverify r v

/-! ## Entities -/

lemma persist_grants (hbus : gate.events = []) (r : EntityRecord) :
    (gate.persist action r).Grants fun _ => True := by
  refine (publish_grants hbus _ _ _).bind fun payload _ => ?_
  refine (Grants.ofStore _).bind fun row _ => ?_
  refine (Grants.modifyCache _).bind fun _ _ => ?_
  exact (publish_grants hbus _ _ _).bind fun _ _ => .pure trivial

lemma bindEntry_grants (hbus : gate.events = [])
    (hrun : gate.RunsWhatIsVerified run next frontEnd) {e : Entry}
    (hverify : gate.rules.verifyEntry next action frontEnd e = .ok ()) :
    (gate.bindEntry run action e).Grants fun _ => True := by
  unfold Rules.verifyEntry at hverify
  split at hverify
  · cases hverify
  · rename_i hid
    refine (startRecord_grants hid).bind fun r _ => ?_
    refine (Grants.foldlM (fun r member hmember => ?_) r).bind fun r _ => ?_
    · exact bindMember_grants hbus hrun (forM_eq_ok.mp hverify member hmember) r
    · refine (Grants.ofDecision (EntityRecord.prepared_grants _ _)).bind fun r _ => ?_
      exact persist_grants hbus r

/-! ## Batches -/

/-- One entry of a chain request is run without a refusal if its batch is. -/
lemma runEntry_grants {runNext : EntityConfig → Batch → Mutating σ (List EntityRecord)}
    {levels : Nat} {frontEnd : FrontEndOptions}
    (hnext : ∀ config b, gate.rules.verify levels config b = .ok () → b.chain ≠ .read →
      (runNext config b).Grants fun records => records.length = b.entries.length) :
    gate.RunsWhatIsVerified (gate.runEntry runNext frontEnd) (gate.rules.verify levels)
      frontEnd := by
  intro target config chain e hconfig hverify
  refine (Grants.ofDecision_ok hconfig).bind fun _ h => ?_
  subst h
  dsimp only
  split
  · rename_i hread
    cases levels with
    | zero => cases hverify
    | succ levels =>
      have hchain : (Batch.nested target chain e frontEnd).chain = .read := hread
      rw [Rules.verify, if_pos hchain, Rules.verifyRead] at hverify
      split at hverify
      · cases hverify
      · rename_i hids
        refine (Grants.ofDecision_ok hverify).bind fun _ _ => ?_
        cases hid : e.id with
        | none => exact absurd (by simp [Batch.nested, hid]) hids
        | some id => exact (load_grants target id).bind fun row _ => .pure trivial
  · rename_i hread
    refine (hnext _ _ hverify hread).bind fun records hlength => ?_
    split
    · exact .pure trivial
    · rename_i hlast
      have hnil : records = [] := List.getLast?_eq_none_iff.mp hlast
      rw [hnil] at hlength
      cases hlength

/-- A batch that verification accepts is not refused while it runs; it returns one record for
each of its entries. -/
theorem runBatch_grants (hbus : gate.events = []) (more : Nat) :
    ∀ levels config b, gate.rules.verify levels config b = .ok () → b.chain ≠ .read →
      (gate.runBatch more config b).Grants fun records => records.length = b.entries.length := by
  induction more with
  | zero =>
    intro levels config b _ _
    exact .throw rfl
  | succ more ih =>
    intro levels config b hverify hread
    cases levels with
    | zero => cases hverify
    | succ levels =>
      rw [Rules.verify, if_neg hread] at hverify
      obtain ⟨mutationRules, hrules, hverify⟩ := bind_eq_ok.mp hverify
      obtain ⟨⟨⟩, hallowed, hverify⟩ := bind_eq_ok.mp hverify
      obtain ⟨⟨⟩, hsize, hentries⟩ := bind_eq_ok.mp hverify
      rw [runBatch]
      -- every check of the batch falls as in verification; only whether to prefetch is decided anew
      refine (Grants.ofDecision_ok hrules).bind fun _ h => ?_
      subst h
      refine (Grants.ofDecision_ok hallowed).bind fun _ _ => ?_
      refine (Grants.ofDecision_ok hsize).bind fun _ _ => ?_
      refine (Grants.ofDecision (Resolve.findBool?_grants _ _)).bind fun wanted _ => ?_
      have hbind : (b.entries.mapM (gate.bindEntry (gate.runEntry (gate.runBatch more) b.frontEnd)
          (Action.ofBatch mutationRules b))).Grants
            fun records => records.length = b.entries.length := by
        refine .mapM fun e he => ?_
        exact bindEntry_grants hbus (runEntry_grants (ih levels))
          (forM_eq_ok.mp hentries e he)
      dsimp only
      split
      · exact (prefetch_grants b).bind fun _ _ => hbind
      · exact hbind

/-! ## Mutations -/

lemma runAndFlush_grants (hbus : gate.events = []) {config : EntityConfig} {b : Batch}
    (hverify : gate.rules.verify b.levels config b = .ok ()) (hread : b.chain ≠ .read)
    (flush : Bool) :
    Effect.Triple (fun _ => True) (gate.runAndFlush config b flush) (fun _ _ => True)
      fun f _ => f.isRefusal = false := by
  have hrun := (runBatch_grants hbus (b.levels + gate.addedLevels) _ _ _ hverify hread).withoutCache
  refine Effect.Triple.bind (hrun.weaken (fun _ _ => trivial) (fun _ _ _ => trivial)
    fun _ _ h => h) fun records => ?_
  have hreturn : Effect.Triple (fun _ => True) (pure records : Effect σ (List EntityRecord))
      (fun _ _ => True) fun f _ => f.isRefusal = false := .pure fun _ _ => trivial
  dsimp only
  split
  · refine Effect.Triple.bind (m := fun _ _ => True) (.ofStore fun s _ => ?_) fun _ => hreturn
    split
    · trivial
    · rfl
  · exact hreturn

/-- A plan whose batch has passed verification is not refused while it is run. -/
lemma perform_grants (hbus : gate.events = []) {p : Plan}
    (hverify : gate.rules.verify p.batch.levels p.config p.batch = .ok ())
    (hread : p.batch.chain ≠ .read) :
    Effect.Triple (fun _ => True) (gate.perform p) (fun _ _ => True)
      fun f _ => f.isRefusal = false := by
  have hrun := runAndFlush_grants hbus hverify hread p.flush
  unfold perform
  split
  · refine inTransaction_triple (fun s _ => ?_) hrun (fun _ s _ => ?_) fun _ _ h => h
    all_goals
      split
      · trivial
      · rfl
  · exact hrun

lemma toArray_nil (hbus : gate.events = []) (entityType : String) (rows : List Json) :
    gate.toArray entityType rows = pure rows := by
  rw [toArray, publish_nil hbus, pure_bind, publish_nil hbus]
  rfl

lemma carryOut_grants (hbus : gate.events = []) {entityType : String} {p : Plan}
    (hverify : gate.rules.verify p.batch.levels p.config p.batch = .ok ())
    (hread : p.batch.chain ≠ .read) :
    Effect.Triple (fun _ => True) (gate.carryOut entityType p) (fun _ _ => True)
      fun f _ => f.isRefusal = false := by
  refine (perform_grants hbus hverify hread).bind fun records => ?_
  rw [toArray_nil hbus, pure_bind]
  exact .pure fun _ _ => trivial

/-- A mutation without listeners is refused by its plan or not at all. -/
lemma untouched_of_refused (hbus : gate.events = []) {entityType : String} {chain : Chain}
    {params : Json} {overrides : CallOptions} {frontEnd : FrontEndOptions} {s s' : σ} {f : Fault}
    (h : (gate.mutate entityType chain params overrides frontEnd).outcome s = (.error f, s'))
    (hf : f.isRefusal = true) : s' = s := by
  rw [Effect.outcome, mutate_run] at h
  split at h
  · rename_i p hplan
    obtain ⟨hchain, hread, hverify⟩ := plan_eq_ok hplan
    have hf' := (carryOut_grants hbus hverify (hchain ▸ hread)).of_error trivial h
    rw [hf] at hf'
    cases hf'
  · cases h
    rfl

/-- Without listeners, a mutation that is refused has not called the store; and a batch that
verification accepts is never refused later, whatever has been loaded or written meanwhile. -/
theorem refused_before_store (gate : Gate σ) (hbus : gate.events = []) :
    (∀ entityType chain params overrides frontEnd s f w,
      (gate.journaled.mutate entityType chain params overrides frontEnd).outcome (.opening s) =
        (.error f, w) → f.isRefusal = true → w.journal = [] ∧ w.state = s) ∧
    (∀ levels more config b, gate.rules.verify levels config b = .ok () → b.chain ≠ .read →
      ∀ cache s f s', Effect.outcome ((gate.runBatch more config b).run cache) s =
        (.error f, s') → f.isRefusal = false) := by
  constructor
  · intro entityType chain params overrides frontEnd s f w h hf
    have hbus' : gate.journaled.events = [] := by
      show gate.events.map Journaled.subscription = []
      rw [hbus]
      rfl
    have hw := untouched_of_refused hbus' h hf
    rw [hw]
    exact ⟨rfl, rfl⟩
  · intro levels more config b hverify hread cache s f s' h
    exact (runBatch_grants hbus more levels config b hverify hread cache).of_error trivial h

/-! ## Artists and their albums -/

/-- The rules of artists: every field may be set, and every chain and assignment is allowed. -/
def artistRules : MutationRules :=
  { (default : MutationRules) with
    permissions := { (default : Node) with permissive := some (.literal (.bool true)) } }

/-- The configuration of artists; nothing may be set of an album. -/
def artistConfig : EntityConfig :=
  { (default : EntityConfig) with create := artistRules, update := artistRules }

/-- A gate to artists and their albums in memory, without listeners. -/
def artists : Gate Memory where
  config := ⟨.ofList [("artist", artistConfig), ("album", default)]⟩
  registry := .standard
  persistence := Memory.persistence (.ofTable (.ofList [("artist", [⟨"albums", "album", true⟩])]))
  validator := fun _ _ => []
  events := []
  addedLevels := 2
  bareLevels := 2

/-- Two artists, the second of them with an album that has a title. -/
def twoArtists : Json :=
  .arr [.obj [("name", .str "ann")],
    .obj [("albums", .obj [("create", .arr [.obj [("title", .str "one")]])]),
      ("name", .str "bob")]]

/-- An update of an artist that is not there. -/
def missingArtist : Batch := ⟨"artist", .update, .null, [⟨some (.str "7"), []⟩], default, default⟩

set_option maxRecDepth 4000 in
/-- The title is refused before the first artist is inserted.  An update that is verified and then
fails for want of the artist is not refused. -/
theorem artists_refused :
    (∃ w, (artists.journaled.mutate "artist" .create twoArtists default default).outcome
        (.opening .empty) = (.error (.fieldNotAllowed "album" "title"), w) ∧
      w.journal = [] ∧ w.state = .empty) ∧
    (∃ s, Effect.outcome ((artists.runBatch 1 artistConfig missingArtist).run .empty)
        Memory.empty = (.error (.entityNotFound "artist" "7"), s) ∧
      (Fault.entityNotFound "artist" "7").isRefusal = false) :=
  ⟨⟨_, rfl, (refused_before_store artists rfl).1 "artist" .create twoArtists default default
      .empty (.fieldNotAllowed "album" "title") _ rfl rfl⟩,
    ⟨_, rfl, (refused_before_store artists rfl).2 1 1 artistConfig missingArtist rfl (by decide)
      .empty .empty _ _ rfl⟩⟩

end Gate

end EntityGate
