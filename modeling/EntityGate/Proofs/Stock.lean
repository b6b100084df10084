/-
# Batches that look nothing up

The cache of a call is stocked under some keys if it has a row under each of them.  A batch whose
entries, down to the deepest chain request, give ids under such keys only and delete nothing takes
all its entities from the cache: no lookup is made, neither in advance nor when an entry comes to
its entity.  Writes put further rows into the cache, so it stays stocked on the way.  Deleting an
entity takes its row out of the cache and leaves the others.
-/
import EntityGate.Proofs.Coherence
import EntityGate.Proofs.Mentions
import Mathlib.Data.List.Induction

namespace EntityGate

open Mutating (Triple ofDecision)

/-! ## Stocked caches -/

namespace CallCache

/-- The rows in a cache lie under their ids, and under some keys there are rows. -/
structure Stocked (K : String → String → Prop) (cache : CallCache) : Prop where
  keyed : Rows.WellKeyed cache.tables
  has : ∀ entityType key, K entityType key → (Rows.at? cache.tables entityType key).isSome = true

namespace Stocked

variable {K K' : String → String → Prop} {cache : CallCache} {entityType : String}

lemma empty : Stocked (fun _ _ => False) .empty :=
  ⟨Rows.wellKeyed_empty, fun _ _ h => h.elim⟩

lemma mono (h : cache.Stocked K) (hK : ∀ entityType key, K' entityType key → K entityType key) :
    cache.Stocked K' :=
  ⟨h.keyed, fun entityType key hkey => h.has entityType key (hK entityType key hkey)⟩

/-- A row that is stored lies under its id, and all other rows stay. -/
lemma stored (h : cache.Stocked K) {row id : Json} (hid : row.get? "id" = some id)
    (entityType : String) :
    (cache.store entityType row).Stocked fun entityType' key =>
      K entityType' key ∨ entityType' = entityType ∧ key = idKey id := by
  constructor
  · intro entityType' key row' hrow
    rw [cache.at?_store hid] at hrow
    split at hrow
    · rename_i hkey
      cases hrow
      exact ⟨id, hid, hkey.2.symm⟩
    · exact h.keyed entityType' key row' hrow
  · intro entityType' key hkey
    rw [cache.at?_store hid]
    split
    · rfl
    · rename_i hnot
      exact h.has entityType' key (hkey.resolve_right hnot)

/-- A row without an id is not stored. -/
lemma store (h : cache.Stocked K) (entityType : String) (row : Json) :
    (cache.store entityType row).Stocked K := by
  cases hid : row.get? "id" with
  | none =>
    rw [CallCache.store, hid]
    exact h
  | some id => exact (h.stored hid entityType).mono fun _ _ hkey => .inl hkey

/-- Rows that are stored one after the other lie under their ids. -/
lemma storeAll (h : cache.Stocked K) (entityType : String) (found : List Json) :
    (found.foldl (fun cache row => cache.store entityType row) cache).Stocked
      fun entityType' key => K entityType' key ∨ entityType' = entityType ∧
        ∃ row ∈ found, ∃ id, row.get? "id" = some id ∧ key = idKey id := by
  induction found generalizing cache K with
  | nil => exact h.mono fun _ _ hkey => hkey.resolve_right fun ⟨_, _, hrow, _⟩ => nomatch hrow
  | cons row rest ih =>
    rw [List.foldl_cons]
    cases hid : row.get? "id" with
    | none =>
      refine (ih (h.store entityType row)).mono ?_
      rintro entityType' key (hkey | ⟨htype, row', hrow', id, hrowId, hkey⟩)
      · exact .inl hkey
      · rcases List.mem_cons.mp hrow' with rfl | hrow'
        · rw [hid] at hrowId
          cases hrowId
        · exact .inr ⟨htype, row', hrow', id, hrowId, hkey⟩
    | some own =>
      refine (ih (h.stored hid entityType)).mono ?_
      rintro entityType' key (hkey | ⟨htype, row', hrow', id, hrowId, hkey⟩)
      · exact .inl (.inl hkey)
      · rcases List.mem_cons.mp hrow' with rfl | hrow'
        · rw [hid] at hrowId
          cases hrowId
          exact .inl (.inr ⟨htype, hkey⟩)
        · exact .inr ⟨htype, row', hrow', id, hrowId, hkey⟩

lemma forget (h : cache.Stocked K) (entityType : String) (id : Json) :
    (cache.forget entityType id).Stocked fun entityType' key =>
      K entityType' key ∧ ¬ (entityType' = entityType ∧ key = idKey id) := by
  constructor
  · intro entityType' key row hrow
    rw [cache.at?_forget] at hrow
    split at hrow
    · cases hrow
    · exact h.keyed entityType' key row hrow
  · intro entityType' key ⟨hkey, hnot⟩
    rw [cache.at?_forget, if_neg hnot]
    exact h.has entityType' key hkey

/-- The row under a key has an id with that key. -/
lemma row? (h : cache.Stocked K) {id : Json} (hK : K entityType (idKey id)) :
    ∃ row i, cache.row? entityType id = some row ∧ row.get? "id" = some i ∧ idKey i = idKey id := by
  obtain ⟨row, hrow⟩ := Option.isSome_iff_exists.mp (h.has entityType (idKey id) hK)
  obtain ⟨i, hi, hkey⟩ := h.keyed entityType (idKey id) row hrow
  exact ⟨row, i, hrow, hi, hkey⟩

end Stocked

end CallCache

namespace Entry

/-- The keys of the ids that some entries give. -/
def keys (entries : List Entry) : List String := (entries.filterMap Entry.id).map idKey

lemma keys_append {entries more : List Entry} :
    keys (entries ++ more) = keys entries ++ keys more := by
  rw [keys, List.filterMap_append, List.map_append]
  rfl

lemma mem_keys {entries : List Entry} {key : String} :
    key ∈ keys entries ↔ ∃ e ∈ entries, ∃ id, e.id = some id ∧ idKey id = key := by
  simp only [keys, List.mem_map, List.mem_filterMap]
  constructor
  · rintro ⟨id, ⟨e, he, hid⟩, hkey⟩
    exact ⟨e, he, id, hid, hkey⟩
  · rintro ⟨e, he, id, hid, hkey⟩
    exact ⟨id, ⟨e, he, hid⟩, hkey⟩

end Entry

/-- All keys but some of a type. -/
def Without (K : String → String → Prop) (entityType : String) (keys : List String)
    (entityType' key : String) : Prop :=
  K entityType' key ∧ ¬ (entityType' = entityType ∧ key ∈ keys)

namespace Gate

/-! ## Missing ids -/

section

variable {cache : CallCache} {entityType : String} {ids : List Json}

lemma missingIds_snoc (ids : List Json) (id : Json) :
    missingIds cache entityType (ids ++ [id]) =
      if (cache.row? entityType id).isSome || (missingIds cache entityType ids).any (· == id) then
        missingIds cache entityType ids
      else missingIds cache entityType ids ++ [id] := by
  rw [missingIds, List.foldl_append]
  rfl

lemma mem_missingIds {i : Json} (h : i ∈ missingIds cache entityType ids) :
    i ∈ ids ∧ cache.row? entityType i = none := by
  induction ids using List.reverseRecOn with
  | nil => cases h
  | append_singleton ids id ih =>
    rw [missingIds_snoc] at h
    split at h
    · exact ⟨List.mem_append_left _ (ih h).1, (ih h).2⟩
    · rename_i hnot
      rcases List.mem_append.mp h with h | h
      · exact ⟨List.mem_append_left _ (ih h).1, (ih h).2⟩
      · obtain rfl := List.mem_singleton.mp h
        rw [Bool.not_eq_true, Bool.or_eq_false_iff] at hnot
        exact ⟨List.mem_append_right _ h, Option.not_isSome_iff_eq_none.mp (by simp [hnot.1])⟩

/-- Each id is in the cache, or it is missing, be it for the sake of an id that is equal to it. -/
lemma missingIds_covers {id : Json} (h : id ∈ ids) : (cache.row? entityType id).isSome = true ∨
    ∃ i ∈ missingIds cache entityType ids, i = id ∨ (i == id) = true := by
  induction ids using List.reverseRecOn with
  | nil => cases h
  | append_singleton ids last ih =>
    rw [missingIds_snoc]
    rcases List.mem_append.mp h with h | h
    · refine (ih h).imp_right fun ⟨i, hi, hsame⟩ => ⟨i, ?_, hsame⟩
      split
      · exact hi
      · exact List.mem_append_left _ hi
    · obtain rfl := List.mem_singleton.mp h
      split
      · rename_i hcovered
        rcases Bool.or_eq_true_iff.mp hcovered with hcached | hsame
        · exact .inl hcached
        · obtain ⟨i, hi, hsame⟩ := List.any_eq_true.mp hsame
          exact .inr ⟨i, hi, .inr hsame⟩
      · exact .inr ⟨id, List.mem_append_right _ (List.mem_singleton.mpr rfl), .inl rfl⟩

/-- If all ids are in the cache, none is missing. -/
lemma missingIds_eq_nil (h : ∀ id ∈ ids, (cache.row? entityType id).isSome = true) :
    missingIds cache entityType ids = [] := by
  refine List.eq_nil_iff_forall_not_mem.mpr fun i hi => ?_
  obtain ⟨hmem, hnone⟩ := mem_missingIds hi
  have hsome := h i hmem
  rw [hnone] at hsome
  cases hsome

end

/-! ## Lookups in a stocked cache -/

variable {σ : Type} {gate : Gate σ} {K : String → String → Prop} {I : σ → Prop}

/-- The cache is stocked under some keys, and an assertion about the state holds. -/
def Supplied (K : String → String → Prop) (I : σ → Prop) (cache : CallCache) (s : σ) : Prop :=
  cache.Stocked K ∧ I s

lemma Supplied.fault (f : Fault) (cache : CallCache) (s : σ) (h : Supplied K I cache s) :
    (fun _ => I) f s := h.2

/-- An entity under such a key is loaded from the cache. -/
lemma load_supplied {entityType : String} {id : Json} (hid : K entityType (idKey id)) :
    Triple (Supplied K I) (gate.load entityType id) (fun row cache s =>
      (∃ i, row.get? "id" = some i ∧ idKey i = idKey id) ∧ Supplied K I cache s) fun _ => I := by
  refine .bind (m := fun kept cache s => kept.Stocked K ∧ Supplied K I cache s)
    (.getCache fun _ _ hs => ⟨hs.1, hs⟩) fun kept => .of_fact fun hkept => ?_
  obtain ⟨row, i, hrow, hi, hkey⟩ := hkept.row? hid
  rw [hrow]
  exact .pure fun _ _ hs => ⟨⟨i, hi, hkey⟩, hs⟩

/-- Nothing is fetched of a type if all ids are under such keys. -/
lemma fetch_supplied {entityType : String} {ids : List Json}
    (hids : ∀ id ∈ ids, K entityType (idKey id)) :
    Triple (Supplied K I) (gate.fetch entityType ids) (fun _ => Supplied K I) fun _ => I := by
  refine .bind (m := fun kept cache s => kept.Stocked K ∧ Supplied K I cache s)
    (.getCache fun _ _ hs => ⟨hs.1, hs⟩) fun kept => .of_fact fun hkept => ?_
  rw [missingIds_eq_nil fun id hid => hkept.has entityType (idKey id) (hids id hid)]
  exact .keep _

/-- Nothing is looked up in advance of a batch that gives only ids under such keys. -/
lemma prefetch_supplied {b : Batch} (hnames : ∀ entityType id,
      b.Names gate.persistence.schema entityType id → K entityType (idKey id)) :
    Triple (Supplied K I) (gate.prefetch b) (fun _ => Supplied K I) fun _ => I := by
  unfold prefetch
  split
  · exact .throw fun _ _ hs => hs.2
  · rename_i refs hrefs
    have hmem := References.ofBatch?_gathers hrefs
    refine .forM fun entry hentry => fetch_supplied fun id hid => hnames entry.1 id ?_
    exact (hmem entry.1 id).mp (References.mem_ofType.mpr ⟨entry.2, hentry, hid⟩)

/-! ## Members -/

section

variable (hbus : gate.events = []) {inv : CallCache → σ → Prop} {fail : Fault → σ → Prop}
  (hfault : ∀ f cache s, inv cache s → fail f s)
  {run : ChainEntry → Mutating σ EntityRecord} {action : Action}
include hbus hfault

/-- Binding a relation keeps what the run of each entry keeps that its value asks for, once it is
opened. -/
lemma bindRelationWith_keeps {a : Association} {v : Json} (hrun : ∀ c : ChainEntry,
      c.association = a → Mention.Requested a.target v ⟨a.target, c.chain, c.asked⟩ →
      action.Opens gate.registry c → Triple inv (run c) (fun _ => inv) fail) (r : EntityRecord) :
    Triple inv (gate.bindRelationWith run action a r v) (fun _ => inv) fail := by
  rw [bindRelationWith_quiet hbus]
  split
  · exact (Triple.decided hfault).bind fun _ => .pure fun _ _ hs => hs.2
  · refine (Triple.decided hfault).bind fun requests => .of_fact fun hrequests => ?_
    refine .foldlM (I := fun _ => inv) (fun r (name, params) hrequest => ?_) r
    refine (Triple.decided hfault).bind fun (chain, entries) => .of_fact fun hopen => ?_
    obtain ⟨hname, hentries, hallowed⟩ := Action.openChain_eq_ok hopen
    refine .foldlM (I := fun _ => inv) (fun r e he => ?_) r
    refine (Triple.decided hfault).bind fun (assign, rest) => .of_fact fun hentry => ?_
    refine (hrun ⟨a, chain, e, assign, rest⟩ rfl ?_ ?_).bind fun child => .keep _
    · exact Mention.requested_of_chainRequests hrequests hrequest hname hentries he
    · exact Action.openEntry_eq_ok hallowed hentry

/-- Binding the members of an entry keeps what the run of each entry keeps that they ask for. -/
lemma bindMembersWith_keeps {e : Entry} (hrun : ∀ member ∈ e.members, ∀ c : ChainEntry,
      gate.persistence.schema.association? action.entityType member.1 = some c.association →
      Mention.Requested c.association.target member.2 ⟨c.association.target, c.chain, c.asked⟩ →
      action.Opens gate.registry c → Triple inv (run c) (fun _ => inv) fail) (r : EntityRecord) :
    Triple inv (e.members.foldlM (fun r (field, v) => gate.bindMemberWith run action r field v) r)
      (fun _ => inv) fail := by
  refine .foldlM (I := fun _ => inv) (fun r (field, v) hmember => ?_) r
  dsimp only
  unfold bindMemberWith
  split
  · rename_i a ha
    refine bindRelationWith_keeps hbus hfault (fun c hc hrequested hopens => ?_) r
    subst hc
    exact hrun (field, v) hmember c ha hrequested hopens
  · split
    · exact .keep r
    · refine (bindValue_triple hfault ?_).weaken (fun _ _ hs => hs) (fun _ _ _ hs => hs.2)
        fun _ _ hs => hs
      rw [publish_nil hbus]
      exact .keep _

end

/-! ## Entries -/

/-- A record was started for an entry: unless it is created, it has an id with the key of the id
that the entry gives. -/
def Answers (action : Action) (e : Entry) (r : EntityRecord) : Prop :=
  r.entityType = action.entityType ∧ (action.chain ≠ .create →
    ∃ id i, e.id = some id ∧ r.id = some i ∧ idKey i = idKey id)

/-- An entry starts from the cache. -/
lemma startRecord_supplied {action : Action} {e : Entry} (hid : ∀ id, action.chain ≠ .create →
      e.id = some id → K action.entityType (idKey id)) :
    Triple (Supplied K I) (gate.startRecord action e)
      (fun r cache s => Answers action e r ∧ Supplied K I cache s) fun _ => I := by
  unfold startRecord
  split
  · rename_i hcreate
    exact .pure fun _ _ hs => ⟨⟨rfl, fun h => absurd hcreate h⟩, hs⟩
  · rename_i hcreate
    split
    · exact .throw fun _ _ hs => hs.2
    · rename_i id hgiven
      refine (load_supplied (hid id hcreate hgiven)).bind fun row => .of_fact fun hrow => ?_
      obtain ⟨i, hi, hkey⟩ := hrow
      have hof : (EntityRecord.ofRow action.entityType row).id = some i := by
        cases row with
        | obj fields => exact hi
        | _ => cases hi
      refine .pure fun _ _ hs => ⟨⟨rfl, fun _ => ⟨id, i, hgiven, ?_, hkey⟩⟩, hs⟩
      dsimp only
      rw [hof]
      rfl

/-- What holds after an entry was bound, from what holds after its record was persisted: the
entity, if it is not created, and all that is nested in the entry have to be in the cache. -/
lemma bindEntry_supplied (hbus : gate.events = [])
    {run : String → Chain → Entry → Mutating σ EntityRecord} {action : Action} {e : Entry}
    {post : CallCache → σ → Prop}
    (hid : ∀ id, action.chain ≠ .create → e.id = some id → K action.entityType (idKey id))
    (hnested : ∀ m, Mention.Holds gate.persistence.schema ⟨action.entityType, action.chain, e⟩ m →
      m.Within gate.persistence.schema K)
    (hrun : ∀ m : Mention, m.Within gate.persistence.schema K →
      Triple (Supplied K I) (run m.entityType m.chain m.entry) (fun _ => Supplied K I) fun _ => I)
    (hpersist : ∀ r, Answers action e r →
      Triple (Supplied K I) (gate.persist action r) (fun _ => post) fun _ => I) :
    Triple (Supplied K I) (gate.bindEntry run action e) (fun _ => post) fun _ => I := by
  refine (startRecord_supplied hid).bind fun start => .of_fact fun hstart => ?_
  have hmembers : Triple (Supplied K I) (e.members.foldlM (fun r (field, v) =>
      gate.bindMember run action r field v) start) (fun _ => Supplied K I) fun _ => I := by
    rw [bindMember_eq]
    refine bindMembersWith_keeps hbus Supplied.fault (fun member hmember c ha hrequested hopens =>
      ?_) start
    obtain ⟨hrestId, hfields⟩ := Entry.takeAssign_eq_ok hopens.taken
    have hheld := hnested _ ⟨member, (List.mem_filter.mp hmember).1, _, ha, hrequested⟩
    exact hrun ⟨c.association.target, c.chain, c.entry⟩ (hheld.of_fields hrestId hfields)
  refine ((bindMembers_returns e start).and hmembers).bind fun bound => .of_fact fun hbound => ?_
  refine (Triple.decided Supplied.fault).bind fun ready => .of_fact fun hready => ?_
  have hsame := EntityRecord.prepared_sameBut hready
  refine hpersist ready ⟨?_, fun hcreate => ?_⟩
  · exact (hsame.sameType.trans hbound.sameType).trans hstart.1
  · obtain ⟨id, i, hgiven, hi, hkey⟩ := hstart.2 hcreate
    exact ⟨id, i, hgiven, (hsame.sameId.trans hbound.sameId).trans hi, hkey⟩

/-- An entry of a chain request keeps the cache stocked if the batches that it leads to do. -/
lemma runEntry_supplied {next : EntityConfig → Batch → Mutating σ (List EntityRecord)}
    (hnext : ∀ config b, (∀ e ∈ b.entries, (b.mention e).Within gate.persistence.schema K) →
      Triple (Supplied K I) (next config b) (fun _ => Supplied K I) fun _ => I)
    (frontEnd : FrontEndOptions) {m : Mention} (h : m.Within gate.persistence.schema K) :
    Triple (Supplied K I) (gate.runEntry next frontEnd m.entityType m.chain m.entry)
      (fun _ => Supplied K I) fun _ => I := by
  refine (Triple.decided Supplied.fault).bind fun config => .of_fact fun _ => ?_
  dsimp only
  split
  · rename_i hread
    refine (Triple.decided Supplied.fault).bind fun _ => .of_fact fun _ => ?_
    split
    · exact .throw fun _ _ hs => hs.2
    · rename_i id hid
      have hcreate : m.chain ≠ .create := by
        rw [hread]
        decide
      have hkey : K m.entityType (idKey id) := (h m .refl).2 m.entityType id ⟨rfl, hcreate, hid⟩
      exact (load_supplied hkey).bind fun row => .pure fun _ _ hs => hs.2
  · refine (hnext config (.nested m.entityType m.chain m.entry frontEnd) ?_).bind fun records => ?_
    · intro e he
      obtain rfl := List.mem_singleton.mp he
      exact h
    · split
      · exact .keep _
      · exact .throw fun _ _ hs => hs.2

/-! ## Writes -/

/-- The store keeps an assertion when it writes. -/
structure KeepsWrites (gate : Gate σ) (I : σ → Prop) : Prop where
  insert : ∀ r, StateKept I (gate.persistence.insert r)
  update : ∀ r, StateKept I (gate.persistence.update r)
  remove : ∀ r, StateKept I (gate.persistence.remove r)

/-- What is removed is the row of the record. -/
lemma row_of_writeRecord_delete {r : EntityRecord} {s s' : σ} {row : Json}
    (h : gate.writeRecord .delete r s = (.ok row, s')) : row = r.toRow := by
  rw [writeRecord, Effect.run_bind] at h
  split at h
  · cases h
    rfl
  · cases h

section

variable (hbus : gate.events = []) (hwrites : gate.KeepsWrites I)
include hbus hwrites

/-- What is in the cache after a record was persisted, from what remembering it leaves there. -/
lemma persist_supplied {K' : String → String → Prop} {action : Action} {r : EntityRecord}
    (hremember : ∀ row cache, (action.chain = .delete → row = r.sent.toRow) → cache.Stocked K →
      (remember action.chain (r.sent.received row) row cache).Stocked K') :
    Triple (Supplied K I) (gate.persist action r) (fun _ => Supplied K' I) fun _ => I := by
  intro cache s ⟨hstocked, hs⟩
  rw [persist_run hbus]
  have hkept : StateKept I (gate.writeRecord action.chain r.sent) :=
    writeRecord_kept (fun _ => hwrites.insert _) (fun _ => hwrites.update _)
      fun _ => hwrites.remove _
  replace hkept := hkept s hs
  cases hrun : gate.writeRecord action.chain r.sent s with
  | mk result s' =>
    rw [hrun] at hkept
    cases result with
    | ok row =>
      refine ⟨hremember row cache (fun hdelete => ?_) hstocked, hkept⟩
      rw [hdelete] at hrun
      exact row_of_writeRecord_delete hrun
    | error text => exact hkept

/-- A record that is kept is put into the cache. -/
lemma persist_keeps_stock {action : Action} (hkept : action.chain ≠ .delete) (r : EntityRecord) :
    Triple (Supplied K I) (gate.persist action r) (fun _ => Supplied K I) fun _ => I := by
  refine persist_supplied hbus hwrites fun row cache _ hstocked => ?_
  unfold remember
  split
  · exact hstocked
  · rw [if_neg hkept]
    exact hstocked.store _ row

/-- A record that is deleted is taken out of the cache. -/
lemma persist_drops_stock {action : Action} (hdelete : action.chain = .delete) {r : EntityRecord}
    {id : Json} (hid : r.id = some id) :
    Triple (Supplied K I) (gate.persist action r) (fun _ => Supplied (fun entityType key =>
      K entityType key ∧ ¬ (entityType = r.entityType ∧ key = idKey id)) I) fun _ => I := by
  refine persist_supplied hbus hwrites fun row cache hrow hstocked => ?_
  have hrowId : row.get? "id" = some id := by
    rw [hrow hdelete]
    exact EntityRecord.get?_toRow_id hid
  rw [remember, EntityRecord.received_id hrowId, EntityRecord.received_entityType]
  dsimp only
  rw [if_pos hdelete]
  exact hstocked.forget r.entityType id

/-! ## Batches -/

/-- So do the entries of a batch that gives ids under such keys only and deletes nothing, at any
depth. -/
lemma bindEntries_supplied {next : EntityConfig → Batch → Mutating σ (List EntityRecord)}
    (hnext : ∀ config b, (∀ e ∈ b.entries, (b.mention e).Within gate.persistence.schema K) →
      Triple (Supplied K I) (next config b) (fun _ => Supplied K I) fun _ => I)
    (rules : MutationRules) {b : Batch}
    (h : ∀ e ∈ b.entries, (b.mention e).Within gate.persistence.schema K) :
    Triple (Supplied K I)
      (b.entries.mapM (gate.bindEntry (gate.runEntry next b.frontEnd) (Action.ofBatch rules b)))
      (fun _ => Supplied K I) fun _ => I := by
  refine (Triple.mapM fun e he => ?_).weaken (fun _ _ hs => hs) (fun _ _ _ hs => hs.2)
    fun _ _ hs => hs
  have hown := h e he _ .refl
  exact bindEntry_supplied hbus
    (fun id hcreate hid => hown.2 b.entityType id ⟨rfl, hcreate, hid⟩)
    (fun m hm => (h e he).held hm) (fun m hm => runEntry_supplied hnext b.frontEnd hm)
    fun r _ => persist_keeps_stock hbus hwrites hown.1 r

/-- A batch keeps the cache stocked under some keys if it gives ids under these only and deletes
nothing, at any depth. -/
theorem runBatch_supplied (levels : Nat) : ∀ config b,
    (∀ e ∈ b.entries, (b.mention e).Within gate.persistence.schema K) →
    Triple (Supplied K I) (gate.runBatch levels config b) (fun _ => Supplied K I) fun _ => I := by
  induction levels with
  | zero => exact fun config b _ => .throw fun _ _ hs => hs.2
  | succ levels ih =>
    intro config b hwithin
    rw [runBatch_succ]
    have hprefetch : Triple (Supplied K I) (gate.prefetch b) (fun _ => Supplied K I) fun _ => I :=
      prefetch_supplied fun entityType id => Mention.Within.of_names hwithin
    refine (openBatchWith_of_prefetch Supplied.fault hprefetch fun _ _ _ _ _ _ _ hs => hs).bind
      fun action => .of_fact ?_
    rintro ⟨rules, -, rfl, -⟩
    exact bindEntries_supplied hbus hwrites ih rules hwithin

/-- The entities that a batch deletes leave the cache one after the other.  All that is nested in
its entries has to stay in the cache until the end. -/
theorem bindEntries_deleted (rules : MutationRules) (levels : Nat) {b : Batch}
    (hdelete : b.chain = .delete)
    (hown : ∀ e ∈ b.entries, ∀ id, e.id = some id → K b.entityType (idKey id))
    (hdistinct : (Entry.keys b.entries).Nodup)
    (hnested : ∀ e ∈ b.entries, ∀ m, Mention.Holds gate.persistence.schema (b.mention e) m →
      m.Within gate.persistence.schema (Without K b.entityType (Entry.keys b.entries))) :
    Triple (Supplied K I) (b.entries.mapM (gate.bindEntry
        (gate.runEntry (gate.runBatch levels) b.frontEnd) (Action.ofBatch rules b)))
      (fun _ => Supplied (Without K b.entityType (Entry.keys b.entries)) I) fun _ => I := by
  refine (Triple.mapM_split (I := fun done _ =>
    Supplied (Without K b.entityType (Entry.keys done)) I) fun done _ e rest hsplit => ?_).weaken
    (fun _ _ hs => ⟨hs.1.mono fun _ _ h => h.1, hs.2⟩) (fun _ _ _ hs => hs) fun _ _ hs => hs
  have he : e ∈ b.entries := hsplit ▸ List.mem_append_right _ List.mem_cons_self
  have hkeys : Entry.keys b.entries = Entry.keys done ++ Entry.keys (e :: rest) := by
    rw [← hsplit, Entry.keys_append]
  refine bindEntry_supplied hbus (fun id _ hid => ⟨hown e he id hid, fun hdone => ?_⟩)
    (fun m hm => (hnested e he m hm).mono fun entityType key h => ⟨h.1, fun hdone => h.2 ?_⟩)
    (fun m hm => runEntry_supplied (runBatch_supplied hbus hwrites levels) b.frontEnd hm)
    fun r hanswers => ?_
  · -- the keys of the entries are distinct, so its own one is not among those before
    rw [hkeys] at hdistinct
    refine (List.nodup_append.mp hdistinct).2.2 _ hdone.2 (idKey id) ?_ rfl
    exact Entry.mem_keys.mpr ⟨e, List.mem_cons_self, id, hid, rfl⟩
  · rw [hkeys]
    exact ⟨hdone.1, List.mem_append_left _ hdone.2⟩
  · obtain ⟨htype, hid⟩ := hanswers
    have hcreate : b.chain ≠ .create := by
      rw [hdelete]
      decide
    obtain ⟨id, i, hgiven, hi, hkey⟩ := hid hcreate
    refine (persist_drops_stock hbus hwrites hdelete hi).weaken (fun _ _ hs => hs)
      (fun _ _ _ hs => ⟨hs.1.mono fun entityType key h => ⟨⟨h.1, fun hdone => h.2 ?_⟩,
        fun hlast => h.2 ?_⟩, hs.2⟩) fun _ _ hs => hs
    · exact ⟨hdone.1, Entry.keys_append ▸ List.mem_append_left _ hdone.2⟩
    · refine ⟨hlast.1.trans htype, Entry.keys_append ▸ List.mem_append_right _ ?_⟩
      exact Entry.mem_keys.mpr ⟨e, List.mem_cons_self, id, hgiven, hkey.symm.trans hlast.2.symm⟩

end

end Gate

end EntityGate
