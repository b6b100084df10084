/-
# One lookup for each type

A mutation that looks up in advance what its batch refers to looks each type up at most once.  After
that every entity that the batch mentions is in the cache, at any depth, and neither an entry nor a
nested batch has to ask for it again: writes put rows into the cache and only deletions take rows
out of it.  So no mention may be one of an entity that was deleted before.  References that are
equal as values must have the same text, since the lookup in advance leaves out all but the first
of equal ones, while the cache goes by the text.
-/
import EntityGate.Proofs.Stock
import EntityGate.Proofs.Tasks
import EntityGate.Proofs.Writeback

namespace EntityGate

open Mutating (Triple)
open Relation (ReflTransGen TransGen)

/-! ## Lookups in a journal -/

/-- The type of the entities that a happening looks up. -/
def Happening.lookup? : Happening → Option String
  | called (.findIn entityType _) _ => some entityType
  | _ => none

namespace Journaled

variable {σ α ε : Type}

/-- The types of the lookups so far, in order. -/
def lookedUp (w : Journaled σ) : List String := w.journal.filterMap Happening.lookup?

lemma lookedUp_snoc (s s' : σ) (journal : List Happening) (h : Happening) :
    lookedUp ⟨s', journal ++ [h]⟩ = lookedUp ⟨s, journal⟩ ++ h.lookup?.toList := by
  rw [lookedUp, List.filterMap_append]
  cases hlookup : h.lookup? <;> simp [lookedUp, hlookup]

/-- Nothing was looked up so far, and the store holds some rows. -/
def Fresh (rows : Rows) (w : Journaled Memory) : Prop := w.lookedUp = [] ∧ w.state.tables = rows

lemma Fresh.nodup {rows : Rows} {w : Journaled Memory} (h : w.Fresh rows) : w.lookedUp.Nodup := by
  rw [h.1]
  exact List.nodup_nil

/-- A happening that is no lookup leaves the lookups as they are. -/
lemma noting_lookedUp {note : Bool → Happening}
    (hnote : ∀ answered, (note answered).lookup? = none) (run : ExceptT ε (StateM σ) α)
    (w : Journaled σ) : (noting note run w).2.lookedUp = w.lookedUp := by
  rw [noting_run]
  cases run w.state with
  | mk result s =>
    cases result with
    | ok a => exact (lookedUp_snoc w.state s w.journal _).trans (by simp [hnote])
    | error f => exact (lookedUp_snoc w.state s w.journal _).trans (by simp [hnote])

end Journaled

namespace Gate

/-- Writes look nothing up. -/
lemma journaled_keepsWrites {σ : Type} (gate : Gate σ) (types : List String) :
    gate.journaled.KeepsWrites fun w => w.lookedUp = types where
  insert _ w hw := (Journaled.noting_lookedUp (fun _ => rfl) _ w).trans hw
  update _ w hw := (Journaled.noting_lookedUp (fun _ => rfl) _ w).trans hw
  remove _ w hw := (Journaled.noting_lookedUp (fun _ => rfl) _ w).trans hw

/-! ## Looking up in advance -/

variable {gate : Gate Memory} {schema : Schema} {rows : Rows}

/-- A lookup that is noted finds what is stored. -/
lemma journaled_findIn (hstore : gate.persistence = Memory.persistence schema)
    (entityType : String) (ids : List Json) (w : Journaled Memory) :
    gate.journaled.persistence.findIn entityType ids w =
      (.ok (ids.filterMap (w.state.row? entityType)),
        ⟨w.state.logged ("find_in:" ++ entityType ++ ":" ++ toString ids.length),
          w.journal ++ [.called (.findIn entityType ids) true]⟩) := by
  have hpersistence : gate.journaled.persistence =
      Journaled.persistence (Memory.persistence schema) := congrArg Journaled.persistence hstore
  rw [hpersistence]
  rfl

section

variable (hstore : gate.persistence = Memory.persistence schema) (hkeyed : rows.WellKeyed)
include hstore hkeyed

/-- Fetching some ids of a type looks the type up once at most, and stocks the cache with them. -/
lemma fetch_once {K : String → String → Prop} {types : List String} {entityType : String}
    {ids : List Json} (hstored : ∀ id ∈ ids, (rows.at? entityType (idKey id)).isSome = true)
    (halike : ∀ i ∈ ids, ∀ id ∈ ids, (i == id) = true → idKey i = idKey id) :
    Triple (Supplied K fun w => w.lookedUp.Sublist types ∧ w.state.tables = rows)
      (gate.journaled.fetch entityType ids)
      (fun _ => Supplied (fun entityType' key => K entityType' key ∨
          entityType' = entityType ∧ ∃ id ∈ ids, key = idKey id)
        fun w => w.lookedUp.Sublist (types ++ [entityType]) ∧ w.state.tables = rows)
      fun _ _ => False := by
  refine .bind (m := fun kept cache w => kept = cache ∧
      Supplied K (fun w => w.lookedUp.Sublist types ∧ w.state.tables = rows) cache w)
    (.getCache fun _ _ hs => ⟨rfl, hs⟩) fun kept => ?_
  have hcovers : ∀ id ∈ ids, (kept.row? entityType id).isSome = true ∨
      ∃ i ∈ missingIds kept entityType ids, i = id ∨ (i == id) = true :=
    fun _ hid => missingIds_covers hid
  have hmissing : ∀ i ∈ missingIds kept entityType ids, i ∈ ids := fun i hi => (mem_missingIds hi).1
  generalize missingIds kept entityType ids = missing at hcovers hmissing
  split
  · refine .pure fun cache w ⟨hkept, hcache, hlooked, hrows⟩ => ?_
    subst hkept
    refine ⟨⟨hcache.keyed, ?_⟩, hlooked.trans (List.sublist_append_left _ _), hrows⟩
    rintro entityType' key (hkey | ⟨rfl, id, hid, rfl⟩)
    · exact hcache.has entityType' key hkey
    · exact (hcovers id hid).resolve_right fun ⟨_, hi, _⟩ => nomatch hi
  · refine .bind (m := fun found cache w =>
        found = missing.filterMap (fun id => rows.at? entityType (idKey id)) ∧ kept = cache ∧
          cache.Stocked K ∧ w.lookedUp.Sublist (types ++ [entityType]) ∧ w.state.tables = rows)
      (.ofEffect fun cache => .ofStore fun w ⟨hkept, hcache, hlooked, hrows⟩ => ?_)
      fun found => .of_fact ?_
    · rw [journaled_findIn hstore]
      refine ⟨?_, hkept, hcache, ?_, hrows⟩
      · rw [← hrows]
        rfl
      · rw [Journaled.lookedUp_snoc w.state]
        exact hlooked.append (.refl _)
    · rintro rfl
      refine .modifyCache fun cache w ⟨hkept, hcache, hlooked, hrows⟩ => ⟨?_, hlooked, hrows⟩
      subst hkept
      -- whatever was in the cache is still there
      have hall : kept.Stocked fun entityType' key =>
          (Rows.at? kept.tables entityType' key).isSome = true := ⟨hcache.keyed, fun _ _ h => h⟩
      refine (hall.storeAll entityType _).mono ?_
      rintro entityType' key (hkey | ⟨rfl, id, hid, rfl⟩)
      · exact .inl (hcache.has entityType' key hkey)
      · refine (hcovers id hid).imp_right fun ⟨i, hi, hsame⟩ => ⟨rfl, ?_⟩
        have hkey : idKey i = idKey id := by
          rcases hsame with rfl | hsame
          · rfl
          · exact halike i (hmissing i hi) id hid hsame
        obtain ⟨row, hrow⟩ := Option.isSome_iff_exists.mp (hstored i (hmissing i hi))
        obtain ⟨own, hown, hownKey⟩ := hkeyed _ _ row hrow
        exact ⟨row, List.mem_filterMap.mpr ⟨i, hi, hrow⟩, own, hown,
          hkey.symm.trans hownKey.symm⟩

end

end Gate

/-! ## Batches that are foreseen -/

namespace Batch

/-- A batch that is to look up in advance, over some rows: the entities that it refers to are there,
and it can be told before it runs what the cache will hold when it comes to each of them. -/
structure Foreseen (registry : Registry) (schema : Schema) (rows : Rows) (config : EntityConfig)
    (b : Batch) : Prop where
  /-- The settings want the lookups in advance. -/
  wanted : ∀ rules wanted, config.mutationRules b.chain = .ok rules →
    Resolve.findBool? registry (Action.ofBatch rules b).ctx "prePopulateEntities"
      (b.layers rules "prePopulateEntities") = .ok wanted → wanted.getD true = true
  stored : ∀ entityType id, b.Names schema entityType id →
    (rows.at? entityType (idKey id)).isSome = true
  /-- Ids that are equal have the same text. -/
  alike : ∀ entityType i id, b.Names schema entityType i → b.Names schema entityType id →
    (i == id) = true → idKey i = idKey id
  /-- No chain request deletes. -/
  kept : ∀ m, b.Nests schema m → m.chain ≠ .delete
  /-- No entity is deleted twice, and none of those that are deleted stands in a chain request. -/
  deleted : b.chain = .delete → (Entry.keys b.entries).Nodup ∧
    ∀ m, b.Nests schema m → ∀ id, m.Names b.entityType id → idKey id ∉ Entry.keys b.entries

/-- What holds of all references of a batch holds of all ids that it gives. -/
lemma forall_names {schema : Schema} {bareLevels : Nat} {b : Batch} {refs : References}
    (hrefs : References.ofBatch? schema bareLevels b = some refs) {P : String → Json → Prop}
    (hP : ∀ entry ∈ refs.entries, ∀ id ∈ entry.2, P entry.1 id) (entityType : String) (id : Json)
    (h : b.Names schema entityType id) : P entityType id := by
  have hmem := References.ofBatch?_gathers hrefs
  obtain ⟨ids, hentry, hid⟩ := References.mem_ofType.mp ((hmem entityType id).mpr h)
  exact hP (entityType, ids) hentry id hid

/-- Texts that are equal are the same. -/
lemma alike_of_texts {schema : Schema} {b : Batch}
    (h : ∀ entityType id, b.Names schema entityType id → ∃ s, id = .str s) (entityType : String)
    (i id : Json) (hi : b.Names schema entityType i) (hid : b.Names schema entityType id)
    (hsame : (i == id) = true) : idKey i = idKey id := by
  obtain ⟨s, rfl⟩ := h entityType i hi
  obtain ⟨t, rfl⟩ := h entityType id hid
  obtain rfl : s = t := of_decide_eq_true hsame
  rfl

/-- The keys of the ids that a batch gives. -/
def NamesKey (schema : Schema) (b : Batch) (entityType key : String) : Prop :=
  ∃ id, b.Names schema entityType id ∧ key = idKey id

variable {schema : Schema} {b : Batch} {e : Entry}

/-- The id of an entry that is not created is one that the batch gives. -/
lemma namesKey_own (hcreate : b.chain ≠ .create) (he : e ∈ b.entries) {id : Json}
    (hid : e.id = some id) : b.NamesKey schema b.entityType (idKey id) :=
  ⟨id, ⟨e, he, b.mention e, .refl, rfl, hcreate, hid⟩, rfl⟩

namespace Foreseen

variable {registry : Registry} {rows : Rows} {config : EntityConfig} {m : Mention}
  (h : b.Foreseen registry schema rows config)
include h

/-- What stands in an entry at any depth has keys that the batch gives. -/
lemma within_held (he : e ∈ b.entries) (hm : Mention.Holds schema (b.mention e) m) :
    m.Within schema (b.NamesKey schema) := by
  intro last hlast
  have hnests : TransGen (Mention.Holds schema) (b.mention e) last := .head' hm hlast
  exact ⟨h.kept last ⟨e, he, hnests⟩,
    fun _ id hnames => ⟨id, ⟨e, he, last, hnests.to_reflTransGen, hnames⟩, rfl⟩⟩

/-- So has an entry itself that is not deleted. -/
lemma within_entry (hchain : b.chain ≠ .delete) (he : e ∈ b.entries) :
    (b.mention e).Within schema (b.NamesKey schema) := by
  intro last hlast
  rcases ReflTransGen.cases_head hlast with rfl | ⟨m, hm, hrest⟩
  · refine ⟨hchain, ?_⟩
    rintro _ id ⟨rfl, hcreate, hid⟩
    exact namesKey_own hcreate he hid
  · exact h.within_held he hm last hrest

/-- What stands in an entry that is deleted is apart from all that are. -/
lemma within_deleted (hchain : b.chain = .delete) (he : e ∈ b.entries)
    (hm : Mention.Holds schema (b.mention e) m) :
    m.Within schema (Without (b.NamesKey schema) b.entityType (Entry.keys b.entries)) := by
  intro last hlast
  obtain ⟨hkept, hnames⟩ := h.within_held he hm last hlast
  refine ⟨hkept, fun entityType id hid => ⟨hnames entityType id hid, ?_⟩⟩
  rintro ⟨rfl, hkey⟩
  exact (h.deleted hchain).2 last ⟨e, he, .head' hm hlast⟩ id hid hkey

end Foreseen

end Batch

namespace Gate

/-- Some references were looked up in advance, no type twice, and their rows are in the cache. -/
def StockedBy (rows : Rows) (done : List (String × List Json)) :
    CallCache → Journaled Memory → Prop :=
  Supplied (fun entityType key =>
      ∃ entry ∈ done, entityType = entry.1 ∧ ∃ id ∈ entry.2, key = idKey id)
    fun w => w.lookedUp.Sublist (done.map Prod.fst) ∧ w.state.tables = rows

variable {gate : Gate Memory} {schema : Schema} {rows : Rows}

section

variable (hstore : gate.persistence = Memory.persistence schema) (hkeyed : rows.WellKeyed)
include hstore hkeyed

/-- Looking up in advance looks each type up once at most, and stocks the cache with all that the
batch refers to. -/
lemma prefetch_once {b : Batch} (hstored : ∀ entityType id, b.Names schema entityType id →
      (rows.at? entityType (idKey id)).isSome = true)
    (halike : ∀ entityType i id, b.Names schema entityType i → b.Names schema entityType id →
      (i == id) = true → idKey i = idKey id) :
    Triple (Supplied (fun _ _ => False) (Journaled.Fresh rows)) (gate.journaled.prefetch b)
      (fun _ cache w => ∃ types, types.Nodup ∧
        Supplied (b.NamesKey schema) (fun w => w.lookedUp = types) cache w)
      fun _ w => w.lookedUp.Nodup := by
  have hschema : gate.journaled.persistence.schema = schema :=
    congrArg Persistence.schema hstore
  unfold prefetch
  rw [hschema]
  cases hrefs : References.ofBatch? schema gate.journaled.bareLevels b with
  | none => exact .throw fun _ w hw => hw.2.nodup
  | some refs =>
    have hmem := References.ofBatch?_gathers hrefs
    have hnames : ∀ entry ∈ refs.entries, ∀ id ∈ entry.2, b.Names schema entry.1 id :=
      fun entry hentry id hid =>
        (hmem entry.1 id).mp (References.mem_ofType.mpr ⟨entry.2, hentry, hid⟩)
    -- the types that were looked up are among those that have been passed
    have hpass : ∀ done entry rest, done ++ entry :: rest = refs.entries →
        Triple (StockedBy rows done) (gate.journaled.fetch entry.1 entry.2)
          (fun _ => StockedBy rows (done ++ [entry])) fun _ w => w.lookedUp.Nodup := by
      intro done entry rest hsplit
      have hentry : entry ∈ refs.entries :=
        hsplit ▸ List.mem_append_right _ List.mem_cons_self
      have hgiven := hnames entry hentry
      refine (fetch_once hstore hkeyed (fun id hid => hstored entry.1 id (hgiven id hid))
        fun i hi id hid => halike entry.1 i id (hgiven i hi) (hgiven id hid)).weaken
        (fun _ _ hw => hw) (fun _ cache w hw => ⟨hw.1.mono ?_, ?_⟩) fun _ _ hw => hw.elim
      · rintro entityType key ⟨entry', hentry', htype, hkey⟩
        rcases List.mem_append.mp hentry' with hdone | hlast
        · exact .inl ⟨entry', hdone, htype, hkey⟩
        · obtain rfl := List.mem_singleton.mp hlast
          exact .inr ⟨htype, hkey⟩
      · rw [List.map_append]
        exact hw.2
    refine (Triple.forM_split hpass).weaken (fun cache w hw => ?_) (fun _ cache w hw => ?_)
      fun _ _ hw => hw
    · refine ⟨hw.1.mono ?_, ?_, hw.2.2⟩
      · rintro entityType key ⟨entry, hentry, -⟩
        cases hentry
      · rw [hw.2.1]
        exact List.nil_sublist _
    · refine ⟨w.lookedUp, refs.nodup_keys.sublist hw.2.1, hw.1.mono ?_, rfl⟩
      rintro entityType key ⟨id, hid, rfl⟩
      obtain ⟨ids, hentry, hid⟩ := References.mem_ofType.mp
        ((hmem entityType id).mpr hid)
      exact ⟨(entityType, ids), hentry, rfl, id, hid, rfl⟩

/-- A batch that is foreseen looks each type up once at most. -/
theorem runBatch_once (hbus : gate.events = []) (levels : Nat) {config : EntityConfig} {b : Batch}
    (hb : b.Foreseen gate.registry schema rows config) :
    Triple (Supplied (fun _ _ => False) (Journaled.Fresh rows))
      (gate.journaled.runBatch levels config b) (fun _ _ w => w.lookedUp.Nodup)
      fun _ w => w.lookedUp.Nodup := by
  have hschema : gate.journaled.persistence.schema = schema :=
    congrArg Persistence.schema hstore
  have hquiet : gate.journaled.events = [] := congrArg (List.map Journaled.subscription) hbus
  cases levels with
  | zero => exact .throw fun _ _ hw => hw.2.nodup
  | succ levels =>
    rw [runBatch_succ]
    have hprefetch := prefetch_once hstore hkeyed hb.stored hb.alike
    refine (openBatchWith_of_prefetch (fun _ _ _ hw => hw.2.nodup) hprefetch
      fun rules wanted hrules hwanted hoff => ?_).bind fun action => .of_fact ?_
    · have hon := hb.wanted rules wanted hrules hwanted
      rw [hoff] at hon
      cases hon
    rintro ⟨rules, -, rfl, -⟩
    refine .of_exists fun types => .of_fact fun hnodup => ?_
    -- all that the batch refers to is in the cache from here on, and nothing more is looked up
    suffices hentries : ∃ K', Triple (Supplied (b.NamesKey schema) fun w => w.lookedUp = types)
        (b.entries.mapM (gate.journaled.bindEntry
          (gate.journaled.runEntry (gate.journaled.runBatch levels) b.frontEnd)
          (Action.ofBatch rules b)))
        (fun _ => Supplied K' fun w => w.lookedUp = types) fun _ w => w.lookedUp = types by
      obtain ⟨K', hentries⟩ := hentries
      exact hentries.weaken (fun _ _ hw => hw) (fun _ _ w hw => hw.2 ▸ hnodup)
        fun _ w hw => hw ▸ hnodup
    have hwrites := gate.journaled_keepsWrites types
    by_cases hchain : b.chain = .delete
    · have hcreate : b.chain ≠ .create := by
        rw [hchain]
        decide
      refine ⟨_, bindEntries_deleted hquiet hwrites rules levels hchain
        (fun e he id => Batch.namesKey_own hcreate he) (hb.deleted hchain).1 fun e he m hm => ?_⟩
      rw [hschema] at hm ⊢
      exact hb.within_deleted hchain he hm
    · refine ⟨_, bindEntries_supplied hquiet hwrites (runBatch_supplied hquiet hwrites levels) rules
        fun e he => ?_⟩
      rw [hschema]
      exact hb.within_entry hchain he

/-! ## Mutations -/

/-- So does a plan whose batch is. -/
lemma carryOut_once (hbus : gate.events = []) {p : Plan}
    (hp : p.batch.Foreseen gate.registry schema rows p.config) (entityType : String) :
    Effect.Triple (Journaled.Fresh rows) (gate.journaled.carryOut entityType p)
      (fun _ w => w.lookedUp.Nodup) fun _ w => w.lookedUp.Nodup := by
  have hkept : ∀ {note : Bool → Happening} {call : StoreCall Memory Unit},
      (∀ answered, (note answered).lookup? = none) →
      StateKept (fun w => w.lookedUp.Nodup) (Journaled.noting note call) := by
    intro note call hnote w hw
    rw [Journaled.noting_lookedUp hnote]
    exact hw
  have hbegin : StateKept (Journaled.Fresh rows) gate.journaled.persistence.begin := by
    intro w hw
    refine ⟨(Journaled.noting_lookedUp (fun _ => rfl) _ w).trans hw.1, ?_⟩
    have hstate : (gate.journaled.persistence.begin w).2.state =
        (gate.persistence.begin w.state).2 := Journaled.noting_state _ _ w
    rw [hstate, hstore]
    exact (Memory.begin_tables w.state).trans hw.2
  have hrun := (runBatch_once hstore hkeyed hbus (p.batch.levels + gate.addedLevels)
    hp).withoutCache
  rw [carryOut_eq]
  refine carryOutWith_triple (performWith_withoutCache_triple (hrun.weaken
    (fun _ hw => ⟨.empty, hw⟩) (fun _ _ hw => hw.elim fun _ h => h) fun _ _ hw => hw)
    (fun _ hw => hw.nodup) (fun _ _ hw => hw) hbegin (fun _ => hkept fun _ => rfl)
    (fun _ => hkept fun _ => rfl) (hkept fun _ => rfl)) (fun _ _ hw => hw) ?_
  intro l hl
  have hquiet : gate.journaled.events = [] := congrArg (List.map Journaled.subscription) hbus
  rw [hquiet] at hl
  cases hl

end

/-- A mutation whose batch is foreseen looks each type up once at most, whether it succeeds or
fails. -/
theorem mutate_looks_up_once (gate : Gate Memory) (schema : Schema)
    (hstore : gate.persistence = Memory.persistence schema) (hbus : gate.events = [])
    (entityType : String) (chain : Chain) (params : Json) (overrides : CallOptions)
    (frontEnd : FrontEndOptions) {m : Memory} (hkeyed : m.tables.WellKeyed)
    (hforeseen : ∀ p, gate.plan entityType chain params overrides frontEnd = .ok p →
      p.batch.Foreseen gate.registry schema m.tables p.config) :
    ∃ result w, (gate.journaled.mutate entityType chain params overrides frontEnd).outcome
        (.opening m) = (result, w) ∧
      (gate.mutate entityType chain params overrides frontEnd).outcome m = (result, w.state) ∧
      w.lookedUp.Nodup := by
  suffices h : ∃ result w, (gate.journaled.mutate entityType chain params overrides
      frontEnd).outcome (.opening m) = (result, w) ∧ w.lookedUp.Nodup by
    obtain ⟨result, w, hrun, hnodup⟩ := h
    exact ⟨result, w, hrun, mutate_of_journaled hrun, hnodup⟩
  rw [Effect.outcome, mutate_run, journaled_plan]
  cases hplan : gate.plan entityType chain params overrides frontEnd with
  | error f => exact ⟨.error f, .opening m, rfl, List.nodup_nil⟩
  | ok p =>
    have hdone := carryOut_once hstore hkeyed hbus (hforeseen p hplan) entityType (.opening m)
      ⟨rfl, rfl⟩
    dsimp only
    cases hrun : gate.journaled.carryOut entityType p (.opening m) with
    | mk result w =>
      rw [hrun] at hdone
      refine ⟨result, w, rfl, ?_⟩
      cases result with
      | ok _ => exact hdone
      | error _ => exact hdone

/-! ## Albums that are mentioned again -/

/-- The batch of the update that comes back to its album by way of the artist. -/
def roundTripBatch : Batch :=
  ⟨"album", .update, roundTrip, [⟨some (.str "al1"), [("artist", .obj [("update",
    .obj [("joni", .obj [("albums", .obj [("update", .obj [("al1",
      .obj [("name", .str "Blue (Live)")])])])])])]), ("year", .int 1971)]⟩], default, default⟩

/-- What the update asks for of the artist. -/
def artistOfTrip : Mention :=
  ⟨"artist", .update, ⟨some (.str "joni"), [("albums", .obj [("update", .obj [("al1",
    .obj [("name", .str "Blue (Live)")])])])]⟩⟩

/-- What it asks for of the album on the way back. -/
def albumOfTrip : Mention :=
  ⟨"album", .update, ⟨some (.str "al1"), [("name", .str "Blue (Live)")]⟩⟩

lemma roundTripBatch_holds {e : Entry} (he : e ∈ roundTripBatch.entries) {m : Mention}
    (h : Mention.Holds shelf.persistence.schema (roundTripBatch.mention e) m) :
    m = artistOfTrip := by
  obtain rfl := List.mem_singleton.mp he
  obtain ⟨target, chain, e⟩ := m
  obtain ⟨field, hfield, a, ha, chains, hchains, request, hrequest, hchain, entries, hentries, he,
    htype⟩ := h
  rcases List.mem_pair.mp hfield with rfl | rfl
  · cases ha
    cases hchains
    obtain rfl := List.mem_singleton.mp hrequest
    cases hchain
    cases hentries
    obtain rfl := List.mem_singleton.mp he
    cases htype
    rfl
  · cases ha

lemma artistOfTrip_holds {m : Mention}
    (h : Mention.Holds shelf.persistence.schema artistOfTrip m) : m = albumOfTrip := by
  obtain ⟨target, chain, e⟩ := m
  obtain ⟨field, hfield, a, ha, chains, hchains, request, hrequest, hchain, entries, hentries, he,
    htype⟩ := h
  obtain rfl := List.mem_singleton.mp hfield
  cases ha
  cases hchains
  obtain rfl := List.mem_singleton.mp hrequest
  cases hchain
  cases hentries
  obtain rfl := List.mem_singleton.mp he
  cases htype
  rfl

/-- Two mentions are nested in the batch. -/
lemma roundTripBatch_nests {m : Mention}
    (h : roundTripBatch.Nests shelf.persistence.schema m) : m = artistOfTrip ∨ m = albumOfTrip := by
  obtain ⟨e, he, hm⟩ := h
  obtain ⟨first, hfirst, hrest⟩ := TransGen.head'_iff.mp hm
  obtain rfl := roundTripBatch_holds he hfirst
  rcases ReflTransGen.cases_head hrest with rfl | ⟨second, hsecond, hrest⟩
  · exact .inl rfl
  · obtain rfl := artistOfTrip_holds hsecond
    rcases ReflTransGen.cases_head hrest with rfl | ⟨third, ⟨field, hfield, a, ha, -⟩, -⟩
    · exact .inr rfl
    · obtain rfl := List.mem_singleton.mp hfield
      cases ha

lemma roundTripBatch_foreseen : roundTripBatch.Foreseen shelf.registry shelf.persistence.schema
    onShelf.tables shelfConfig := by
  have hrefs : References.ofBatch? shelf.persistence.schema shelf.bareLevels roundTripBatch =
      some (.ofList [("album", [.str "al1", .str "al1"]), ("artist", [.str "joni"])]) := rfl
  have htexts := Batch.forall_names hrefs (P := fun _ id => ∃ s, id = .str s) fun entry hentry => by
    rcases List.mem_pair.mp hentry with rfl | rfl
    · simp
    · simp
  refine ⟨fun rules wanted hrules hwanted => ?_, Batch.forall_names hrefs (by decide +kernel),
    Batch.alike_of_texts htexts, fun m hm => ?_, fun hdelete => nomatch hdelete⟩
  · cases hrules
    cases hwanted
    rfl
  · rcases roundTripBatch_nests hm with rfl | rfl <;> exact fun hdelete => nomatch hdelete

/-- The album and its artist are looked up at the beginning, and the album is there when the way
comes back to it. -/
theorem roundTrip_looked_up_once :
    (∀ p, shelf.plan "album" .update roundTrip default default = .ok p →
      p.batch.Foreseen shelf.registry shelf.persistence.schema onShelf.tables p.config) ∧
    ∃ records w, (shelf.journaled.mutate "album" .update roundTrip default default).outcome
        (.opening onShelf) = (.ok records, w) ∧
      w.lookedUp.Nodup ∧ w.lookedUp = ["album", "artist"] := by
  have hforeseen : ∀ p, shelf.plan "album" .update roundTrip default default = .ok p →
      p.batch.Foreseen shelf.registry shelf.persistence.schema onShelf.tables p.config := by
    rintro ⟨config, b, transaction, flush⟩ hp
    obtain ⟨hconfig, hbatch⟩ := plan_parts hp
    have hshelf : shelf.config.entity "album" = .ok shelfConfig := rfl
    have hof : shelf.batchOf "album" .update roundTrip default default = .ok roundTripBatch := rfl
    cases hshelf.symm.trans hconfig
    cases hof.symm.trans hbatch
    exact roundTripBatch_foreseen
  obtain ⟨result, w, hrun, -, hnodup⟩ := mutate_looks_up_once shelf _ rfl rfl "album" .update
    roundTrip default default (m := onShelf)
    (Memory.seed_wellKeyed (Memory.seed_wellKeyed Rows.wellKeyed_empty)) hforeseen
  have hlooked : ((shelf.journaled.mutate "album" .update roundTrip default default).outcome
      (.opening onShelf)).1.isOk = true ∧ ((shelf.journaled.mutate "album" .update roundTrip
        default default).outcome (.opening onShelf)).2.lookedUp = ["album", "artist"] := by
    decide +kernel
  rw [hrun] at hlooked
  refine ⟨hforeseen, ?_⟩
  cases result with
  | ok records => exact ⟨records, w, hrun, hnodup, hlooked.2⟩
  | error f => cases hlooked.1

/-- Two albums whose ids are the two zeros. -/
def zeroAlbums : Memory :=
  (Memory.seed "album" [.obj [("id", .num (.float 0.0)), ("name", .str "Blue")],
    .obj [("id", .num (.float (-0.0))), ("name", .str "Hejira")]] .empty).2

/-- An update of the years of both. -/
def yearsOfZeros : Json :=
  .arr [.obj [("id", .num (.float 0.0)), ("year", .int 1971)],
    .obj [("id", .num (.float (-0.0))), ("year", .int 1976)]]

/-- The zeros are equal, so only the first one is looked up in advance; their texts differ, so the
second one is not in the cache when its entry comes. -/
theorem zeroAlbums_looked_up_twice :
    (∀ id ∈ [Json.num (.float 0.0), .num (.float (-0.0))],
      (zeroAlbums.row? "album" id).isSome = true) ∧
    ((shelf.journaled.mutate "album" .update yearsOfZeros default default).outcome
      (.opening zeroAlbums)).1.isOk = true ∧
    ((shelf.journaled.mutate "album" .update yearsOfZeros default default).outcome
      (.opening zeroAlbums)).2.lookedUp = ["album", "album"] := by
  decide +kernel

end Gate

end EntityGate
