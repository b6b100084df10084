/-
# What an update writes back

An update loads the whole row of its entity, runs the chain requests of its entry, and then writes
the whole row back.  So in all fields that the entry does not name it writes what the row held when
the handling began.  If no entry nested in it has written the same row in between, that is the row
which is stored at the moment of the write, and nothing is lost.  If one has, because the
associations of the schema lead back to the entity, then what it has written is overwritten.
-/
import EntityGate.Proofs.Untouched

namespace EntityGate

open Chronicled (framed_now)
open Mutating (Triple)

/-- How an update handled its entity: `id` is the id that the entry names, and `row` the row of the
entity when the handling began. -/
structure Handling.WritesBack (h : Handling Memory) (id row : Json) : Prop where
  named : h.entry.id = some id
  begunRow : h.begun.row? h.action.entityType id = some row
  /-- The record that is written is one of the same entity. -/
  sameId : h.ready.id = row.get? "id"
  /-- A field that the entry does not name is written as it was. -/
  unnamed : ∀ field, field ≠ "id" → field ∉ h.entry.members.map Prod.fst →
    Json.lookup field h.ready.fields = row.get? field
  /-- The row is stored at the moment of the write as well, if no nested entry wrote it. -/
  latest : (∀ x ∈ h.nested, ¬ x.At h.action.entityType (idKey id)) →
    h.reached.row? h.action.entityType id = some row
  /-- What is stored has the fields that the entry does not name from the row. -/
  stored : ∃ stored, h.after.row? h.action.entityType id = some stored ∧
    ∀ field, field ∉ h.entry.members.map Prod.fst → stored.get? field = row.get? field

namespace Gate

variable {gate : Gate Memory} {schema : Schema}

/-- An update without hooks that replace writes back what it has loaded. -/
lemma writesBack_of_persist (hstore : gate.persistence = Memory.persistence schema)
    (hbus : gate.events = []) {h : Handling Memory} {start : EntityRecord} {id row : Json}
    (hmakes : gate.Makes h.action h.entry start h.bound h.ready)
    (hupdate : h.action.chain = .update)
    (hmutate : h.action.node.hooks.mutate = none) (hforces : h.action.node.hooks.setTo = none)
    (hkeyed : h.begun.tables.WellKeyed) (hid : h.entry.id = some id)
    (hrow : h.begun.tables.at? h.action.entityType (idKey id) = some row) (hshows : start.Shows row)
    (hframe : ∀ key, (∀ x ∈ h.nested, ¬ x.At h.action.entityType key) →
      h.reached.tables.at? h.action.entityType key = h.begun.tables.at? h.action.entityType key)
    {cache cache' : CallCache} (hrun : (gate.persist h.action h.ready).run cache h.reached =
      (.ok (h.result, cache'), h.after)) : h.WritesBack id row := by
  have hread : h.action.chain ≠ .read := by simp [hupdate]
  have hdelete : h.action.chain ≠ .delete := by simp [hupdate]
  obtain ⟨judged, demanded, forced, hprepared⟩ :=
    EntityRecord.prepared_eq_ok hdelete hmakes.prepared
  have hready : h.ready = h.bound := hprepared.eq_of_no_hooks hmutate hforces
  have hsame : h.ready.id = row.get? "id" := by
    rw [hready, hmakes.advanced.sameId, hshows.sameId]
  have hunnamed : ∀ field, field ≠ "id" → field ∉ h.entry.members.map Prod.fst →
      Json.lookup field h.ready.fields = row.get? field := by
    intro field hfield hname
    rw [hready, hmakes.advanced.fields field hname, hshows.fields field hfield]
  obtain ⟨i, hi, hkey⟩ := hkeyed _ _ row hrow
  obtain ⟨stored, hwrote, -, -⟩ := persist_ok hstore hbus hread hrun
  obtain ⟨j, hj, hof, htables⟩ := hwrote.put hdelete
  obtain rfl : i = j := hj i (hsame.trans hi)
  refine ⟨hid, hrow, hsame, hunnamed, fun hleft => (hframe _ hleft).trans hrow, stored, ?_, ?_⟩
  · rw [Memory.row?_eq, htables, Memory.put, Memory.table, Rows.at?_put,
      if_pos ⟨hmakes.readyType.symm, hkey.symm⟩]
  · intro field hname
    by_cases hfield : field = "id"
    · rw [hfield, hi]
      exact Memory.get?_rowOf_id hof fun c hc => hmakes.relation_ne_id hc
    · rw [Memory.get?_rowOf hof hfield, EntityRecord.lookup_sent hfield,
        ← hunnamed field hfield hname]
      refine Change.settled_of_unattached (fun c hc hrelation => ?_) _
      exact absurd (hrelation ▸ (hmakes.asked hc).1) hname

/-- The updates of a chronicle have written back what they loaded. -/
def AllWriteBack (handlings : List (Handling Memory)) : Prop :=
  ∀ h ∈ handlings, h.action.chain = .update → h.action.node.hooks.mutate = none →
    h.action.node.hooks.setTo = none → ∃ id row, h.WritesBack id row

/-- What holds all along a mutation: the cache agrees with the store, and the updates so far have
written back what they loaded. -/
def Consistent (cache : CallCache) (w : Chronicled Memory) : Prop :=
  Coherent cache w.state.tables ∧ AllWriteBack w.handlings

lemma keepsLookups_consistent (hstore : gate.persistence = Memory.persistence schema)
    (hbus : gate.events = []) (n : Nat) (rows : Rows) :
    gate.chronicled.KeepsLookups (fun cache w => Consistent cache w ∧ w.Framed n rows)
      fun _ w => AllWriteBack w.handlings :=
  chronicled_keepsLookups fun _ => keepsLookups_of_store hstore hbus
    (fun _ _ _ hw => ⟨hw.1, hw.2.within, hw.2.unwritten⟩)
    (fun _ _ _ _ _ hw hrow => ⟨⟨hw.1.1.store hrow, hw.1.2⟩, hw.2⟩) fun _ _ _ hw => hw.1.2

/-- An entry starts from what is stored when its handling begins. -/
lemma startRecord_consistent (hstore : gate.persistence = Memory.persistence schema)
    (hbus : gate.events = []) (action : Action) (e : Entry) (begun : Chronicled Memory) :
    Triple (fun cache w => Consistent cache w ∧ w = begun) (gate.chronicled.startRecord action e)
      (fun start cache w => StartsFrom begun.state.tables action e start ∧ Consistent cache w ∧
        w.Framed begun.handlings.length begun.state.tables)
      fun _ w => AllWriteBack w.handlings := by
  have hcurrent : Triple (fun cache w => Coherent cache w.state.tables ∧
      w.state.tables = begun.state.tables) (gate.chronicled.startRecord action e)
      (fun start _ _ => StartsFrom begun.state.tables action e start) fun _ _ => True :=
    .of_images (fun w => ⟨w.handlings, w.state, rfl⟩)
      (fun handlings => (gate.alike_below handlings).startRecord action e)
      fun _ => startRecord_current hstore begun.state.tables action e
  have hkept := (keepsLookups_consistent hstore hbus begun.handlings.length
    begun.state.tables).startRecord action e
  refine (hcurrent.and hkept).weaken ?_ (fun _ _ _ hw => hw) fun _ _ hw => hw.2
  rintro cache w ⟨hw, rfl⟩
  exact ⟨⟨hw.1, rfl⟩, hw, framed_now w⟩

/-- While an entry is handled, the cache goes on to agree with the store, and if the entry is an
update it writes back what it has loaded. -/
lemma handleEntry_consistent (hstore : gate.persistence = Memory.persistence schema)
    (hbus : gate.events = []) {action : Action} (hread : action.chain ≠ .read) (e : Entry)
    (levels : Nat) (frontEnd : FrontEndOptions)
    (hnested : ∀ target chain e, Triple Consistent
      (gate.chronicled.runEntry (gate.chronicled.runBatchWith gate.handleEntry levels) frontEnd
        target chain e) (fun _ => Consistent) fun _ w => AllWriteBack w.handlings) :
    Triple Consistent (gate.handleEntry (gate.chronicled.runEntry
      (gate.chronicled.runBatchWith gate.handleEntry levels) frontEnd) action e)
      (fun _ => Consistent) fun _ w => AllWriteBack w.handlings := by
  refine handleEntry_triple (fun begun w => w.Framed begun.handlings.length begun.state.tables) _
    (startRecord_consistent hstore hbus action e)
    (fun begun => keepsLookups_consistent hstore hbus _ _) (fun begun target chain e => ?_)
    (fun _ _ _ _ _ hw _ => hw.2) ?_
  · exact ((hnested target chain e).and (runEntry_framed hstore hbus _ _ levels frontEnd target
      chain e)).weaken (fun _ _ hw => hw) (fun _ _ _ hw => hw) fun _ _ hw => hw.1
  · intro begun start bound ready reached result cache cache' after hstart hmakes hw hframed
      hpersist
    obtain ⟨_, _, -, -, hcoherent⟩ := persist_rows hstore hbus hread hmakes hpersist
    refine ⟨hcoherent hw.1, fun h hmem hupdate hmutate hforces => ?_⟩
    rcases List.mem_append.mp hmem with hmem | hmem
    · exact hw.2 h hmem hupdate hmutate hforces
    · obtain rfl := List.mem_singleton.mp hmem
      obtain ⟨id, row, hid, hrow, hshows⟩ := hstart.2 fun hcreate => by cases hupdate ▸ hcreate
      exact ⟨id, row, writesBack_of_persist hstore hbus hmakes hupdate hmutate hforces hstart.1
        hid hrow hshows (hframed.unwritten action.entityType) hpersist⟩

/-- All updates of a batch, however deep they are nested, write back what they loaded. -/
lemma chronicle_consistent (hstore : gate.persistence = Memory.persistence schema)
    (hbus : gate.events = []) (levels : Nat) (config : EntityConfig) (b : Batch) :
    Triple Consistent (gate.chronicle levels config b) (fun _ => Consistent)
      fun _ w => AllWriteBack w.handlings := by
  have hlookups : gate.chronicled.KeepsLookups Consistent fun _ w => AllWriteBack w.handlings :=
    chronicled_keepsLookups fun _ => keepsLookups_of_store hstore hbus (fun _ _ _ hw => hw)
      (fun _ _ _ _ _ hw hrow => ⟨hw.1.store hrow, hw.2⟩) fun _ _ _ hw => hw.2
  exact hlookups.runBatchWith (fun levels frontEnd action e hread hnested =>
    handleEntry_consistent hstore hbus hread e levels frontEnd hnested) levels config b

/-- In a mutation of a store in memory without listeners, each update whose action has no hooks
that replace values writes, in all fields that its entry does not name, what was stored when its
handling began.  That is what is stored at the moment of the write if no entry nested in the
update has written the row. -/
theorem updates_write_back (gate : Gate Memory) (schema : Schema) (entityType : String)
    (chain : Chain) (params : Json) (overrides : CallOptions) (frontEnd : FrontEndOptions)
    (m : Memory) (hstore : gate.persistence = Memory.persistence schema) (hbus : gate.events = [])
    (hkeyed : m.tables.WellKeyed) :
    ∀ h ∈ gate.handlings entityType chain params overrides frontEnd m,
      h.action.chain = .update → h.action.node.hooks.mutate = none →
      h.action.node.hooks.setTo = none → ∃ id row, h.WritesBack id row := by
  refine forall_handlings (J := fun cache w => Coherent cache w.state.tables)
    (chronicle_consistent hstore hbus) (.ofEmpty hkeyed) (fun m' hbegin => ?_) entityType chain
    params overrides frontEnd
  rw [hstore] at hbegin
  refine .ofEmpty ?_
  show m'.tables.WellKeyed
  rw [Memory.tables_of_begin hbegin]
  exact hkeyed

/-! ## Albums and their artists -/

/-- A configuration whose updates may set every field and run every chain. -/
def shelfConfig : EntityConfig :=
  { (default : EntityConfig) with
    update := { (default : MutationRules) with
      permissions := { (default : Node) with permissive := some (.literal (.bool true)) } } }

/-- A gate to albums and artists in memory, each of which leads to the other. -/
def shelf : Gate Memory where
  config := ⟨.ofList [("album", shelfConfig), ("artist", shelfConfig)]⟩
  registry := .standard
  persistence := Memory.persistence (.ofTable (.ofList [("album", [⟨"artist", "artist", false⟩]),
    ("artist", [⟨"albums", "album", true⟩])]))
  validator := fun _ _ => []
  events := []
  addedLevels := 2
  bareLevels := 2

/-- A store with an album and its artist. -/
def onShelf : Memory :=
  (Memory.seed "album" [.obj [("artist", .str "joni"), ("id", .str "al1"), ("name", .str "Blue"),
    ("year", .int 1970)]] (Memory.seed "artist" [.obj [("albums", .arr [.str "al1"]),
      ("id", .str "joni")]] .empty).2).2

/-- An update of the year of the album and of the name of its artist. -/
def newYearAndName : Json :=
  .obj [("al1", .obj [("artist", .obj [("update", .obj [("joni",
    .obj [("name", .str "Joni Mitchell")])])]), ("year", .int 1971)])]

/-- An update of the year of the album, and through its artist of the name of the same album. -/
def roundTrip : Json :=
  .obj [("al1", .obj [("artist", .obj [("update", .obj [("joni", .obj [("albums",
    .obj [("update", .obj [("al1", .obj [("name", .str "Blue (Live)")])])])])])]),
    ("year", .int 1971)])]

/-- The update of the album writes back the row that is stored after the artist was updated. -/
theorem newYearAndName_written_back :
    ∃ h ∈ shelf.handlings "album" .update newYearAndName default default onShelf,
      h.action.entityType = "album" ∧
        ∃ id row, h.WritesBack id row ∧ h.reached.row? h.action.entityType id = some row := by
  have halbum : ∃ h ∈ shelf.handlings "album" .update newYearAndName default default onShelf,
      h.action.entityType = "album" ∧ h.action.chain = .update ∧
        h.action.node.hooks.mutate.isNone = true ∧ h.action.node.hooks.setTo.isNone = true ∧
        ∀ x ∈ h.nested, x.entityType ≠ "album" := by
    decide +kernel
  obtain ⟨h, hmem, htype, hupdate, hmutate, hforces, hnested⟩ := halbum
  obtain ⟨id, row, hwritten⟩ := updates_write_back shelf _ "album" .update newYearAndName default
    default onShelf rfl rfl (Memory.seed_wellKeyed (Memory.seed_wellKeyed Rows.wellKeyed_empty)) h
    hmem hupdate (Option.isNone_iff_eq_none.mp hmutate) (Option.isNone_iff_eq_none.mp hforces)
  exact ⟨h, hmem, htype, id, row, hwritten, hwritten.latest fun x hx hat =>
    hnested x hx (hat.1.trans htype)⟩

/-- The text under a field of the album. -/
def albumText (m : Memory) (field : String) : Option String :=
  ((m.row? "album" (.str "al1")).bind fun row => row.get? field).bind Json.str?

/-- The nested update gives the album a name, and then the update around it, which does not name
that field, writes the old name back over it. -/
theorem roundTrip_reverts_name :
    (∃ h ∈ shelf.handlings "album" .update roundTrip default default onShelf,
      h.action.entityType = "album" ∧ h.action.chain = .update ∧
        h.ready.id.bind Json.str? = some "al1" ∧ "name" ∉ h.entry.fields.map Prod.fst ∧
        albumText h.reached "name" = some "Blue (Live)" ∧
        (Json.lookup "name" h.ready.fields).bind Json.str? = some "Blue") ∧
    ((shelf.mutate "album" .update roundTrip default default).outcome onShelf).1.isOk = true ∧
      albumText ((shelf.mutate "album" .update roundTrip default default).outcome onShelf).2
        "name" = some "Blue" := by
  decide +kernel

end Gate

end EntityGate
