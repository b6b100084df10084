/-
# Forced and enforced values in the store

Before the record of an entry is written, the hooks of its action judge it: it has to hold the
enforced values, and then the forced ones are set.  The store comes after the hooks, and what it
does with the record is to apply the changes of its relations.  So a forced or enforced value is
what the stored row holds, unless a change attaches something to the same field.  A change of a
relation comes last, and it wins over the value that the hooks have put there.
-/
import EntityGate.Proofs.Chronicle
import EntityGate.Proofs.Rows

namespace EntityGate

open Mutating (Triple)

namespace Handling

/-- Whether a change attaches something to a field while the record is stored. -/
def Attaches {σ : Type} (h : Handling σ) (field : String) : Prop :=
  ∃ c ∈ h.ready.changes, c.relation = field ∧ c.assign.attaches = true

/-- What is stored for an entry under the hooks of its action: `demanded` are the values that they
enforce on the record, and `forced` those that they set. -/
structure Stored (registry : Registry) (schema : Schema) (h : Handling Memory)
    (judged : EntityRecord) (demanded forced : List (String × Json)) (id row : Json) : Prop where
  /-- The record was judged and filled as the hooks want it. -/
  prepared : EntityRecord.Prepared registry h.action h.bound judged h.ready demanded forced
  identified : h.result.id = some id
  stored : h.after.row? h.action.entityType id = some row
  /-- The id of the row is that of the entity, which no hook replaces. -/
  keyed : row.get? "id" = some id
  /-- A forced value is what the row holds. -/
  forces : ∀ field v, field ≠ "id" → ¬ h.Attaches field →
    (Json.ofFields forced).get? field = some v → row.get? field = some v
  /-- A value that is enforced and not forced is what the row holds; a missing field holds
  `null`. -/
  enforces : ∀ field v, field ≠ "id" → ¬ h.Attaches field → field ∉ forced.map Prod.fst →
    (field, v) ∈ demanded → ((row.get? field).getD .null == v) = true
  /-- Any field is that of the record, settled by the changes. -/
  settles : ∀ field, field ≠ "id" → row.get? field =
    Change.settled schema h.action.entityType field h.ready.changes
      (Json.lookup field h.ready.fields)
  /-- Changes come from members of the entry that name relations. -/
  asked : ∀ field, h.Attaches field → field ∈ h.entry.members.map Prod.fst ∧
    (schema.association? h.action.entityType field).isSome = true

/-- The row that was stored for an entry is one that the hooks of its action want. -/
def Kept (registry : Registry) (schema : Schema) (h : Handling Memory) : Prop :=
  ∃ judged demanded forced id row, h.Stored registry schema judged demanded forced id row

end Handling

namespace Gate

variable {gate : Gate Memory} {schema : Schema}

/-- What the hooks of the action and the changes make of a record is what is stored. -/
lemma kept_of_persist (hstore : gate.persistence = Memory.persistence schema)
    (hbus : gate.events = []) {h : Handling Memory} {start : EntityRecord}
    (hmakes : gate.Makes h.action h.entry start h.bound h.ready) (hread : h.action.chain ≠ .read)
    (hdelete : h.action.chain ≠ .delete) {cache cache' : CallCache}
    (hrun : (gate.persist h.action h.ready).run cache h.reached =
      (.ok (h.result, cache'), h.after)) : h.Kept gate.registry schema := by
  have hschema : gate.persistence.schema = schema := congrArg Persistence.schema hstore
  obtain ⟨judged, demanded, forced, hprepared⟩ :=
    EntityRecord.prepared_eq_ok hdelete hmakes.prepared
  obtain ⟨row, hwrote, hresult, -⟩ := persist_ok hstore hbus hread hrun
  obtain ⟨id, -, hrow, htables⟩ := hwrote.put hdelete
  have hkeyed : row.get? "id" = some id :=
    Memory.get?_rowOf_id hrow fun c hc => hmakes.relation_ne_id hc
  have hsettles : ∀ field, field ≠ "id" → row.get? field =
      Change.settled schema h.action.entityType field h.ready.changes
        (Json.lookup field h.ready.fields) := by
    intro field hfield
    rw [Memory.get?_rowOf hrow hfield, EntityRecord.lookup_sent hfield, ← hmakes.readyType]
    rfl
  have hheld : ∀ field, field ≠ "id" → ¬ h.Attaches field →
      row.get? field = Json.lookup field h.ready.fields := by
    intro field hfield hattaches
    rw [hsettles field hfield]
    refine Change.settled_of_unattached (fun c hc hname => ?_) _
    exact Bool.eq_false_iff.mpr fun h => hattaches ⟨c, hc, hname, h⟩
  refine ⟨judged, demanded, forced, id, row, ?_⟩
  constructor
  case prepared => exact hprepared
  case identified => rw [hresult, EntityRecord.received_id hkeyed]
  case stored =>
    rw [Memory.row?_eq, htables, Memory.put, Memory.table, Rows.at?_put,
      if_pos ⟨hmakes.readyType.symm, rfl⟩]
  case keyed => exact hkeyed
  case forces =>
    intro field v hfield hattaches hforced
    rw [hheld field hfield hattaches, hprepared.lookup, hforced]
    rfl
  case enforces =>
    intro field v hfield hattaches hforced hmem
    rw [hheld field hfield hattaches, hprepared.lookup, Json.get?_ofFields_of_notMem hforced]
    exact Hooks.enforced_of_check hprepared.holds hmem
  case settles => exact hsettles
  case asked =>
    rintro field ⟨c, hc, rfl, -⟩
    rw [← hschema]
    exact hmakes.asked hc

/-- The entries of a chronicle that were not deleted were stored as their hooks want. -/
def AllKept (registry : Registry) (schema : Schema) (handlings : List (Handling Memory)) : Prop :=
  ∀ h ∈ handlings, h.action.chain ≠ .delete → h.Kept registry schema

/-- All entries of a batch, however deep they are nested, are stored as their hooks want. -/
lemma chronicle_kept (hstore : gate.persistence = Memory.persistence schema)
    (hbus : gate.events = []) (levels : Nat) (config : EntityConfig) (b : Batch) :
    Triple (fun _ w => AllKept gate.registry schema w.handlings) (gate.chronicle levels config b)
      (fun _ _ w => AllKept gate.registry schema w.handlings)
      fun _ w => AllKept gate.registry schema w.handlings := by
  have hlookups := keepsLookups_of_handlings gate (AllKept gate.registry schema)
  refine hlookups.runBatchWith (fun levels frontEnd action e hread hrun => ?_) levels config b
  refine handleEntry_keeps hlookups hrun (fun _ _ _ _ _ hw _ => hw) ?_
  intro begun start bound ready reached result cache cache' after hmakes hw hpersist h hmem hdelete
  rcases List.mem_append.mp hmem with hmem | hmem
  · exact hw h hmem hdelete
  · obtain rfl := List.mem_singleton.mp hmem
    exact kept_of_persist hstore hbus hmakes hread hdelete hpersist

/-- Whatever an entry of a mutation asks for and however deep it is nested, once it is created or
updated the values that the hooks of its action force and enforce are in the stored row, in every
field to which no change attaches something. -/
theorem stored_under_hooks (gate : Gate Memory) (schema : Schema) (entityType : String)
    (chain : Chain) (params : Json) (overrides : CallOptions) (frontEnd : FrontEndOptions)
    (m : Memory) (hstore : gate.persistence = Memory.persistence schema) (hbus : gate.events = []) :
    ∀ h ∈ gate.handlings entityType chain params overrides frontEnd m,
      h.action.chain ≠ .delete → ∃ judged demanded forced id row,
        h.Stored gate.registry schema judged demanded forced id row := by
  refine forall_handlings (J := fun _ _ => True) (P := fun h => h.action.chain ≠ .delete →
    h.Kept gate.registry schema) (fun levels config b => ?_) trivial (fun _ _ => trivial)
    entityType chain params overrides frontEnd
  exact (chronicle_kept hstore hbus levels config b).weaken (fun _ _ hw => hw.2)
    (fun _ _ _ hw => ⟨trivial, hw⟩) fun _ _ hw => hw

/-! ## Albums under a label -/

/-- What every update of an album forces on it. -/
def labelHooks : Hooks :=
  { (default : Hooks) with
    setTo := some (.literal (.obj [("artist", .str "joni"), ("published", .bool true)])) }

/-- The rules of albums: every field may be set, and every chain and assignment is allowed. -/
def labelRules : MutationRules :=
  { (default : MutationRules) with
    permissions := { (default : Node) with
      permissive := some (.literal (.bool true)), hooks := labelHooks } }

/-- A gate to albums in memory, each of which has an artist. -/
def label : Gate Memory where
  config := ⟨.ofList [("album", { (default : EntityConfig) with update := labelRules }),
    ("artist", default)]⟩
  registry := .standard
  persistence := Memory.persistence
    (.ofTable (.ofList [("album", [⟨"artist", "artist", false⟩])]))
  validator := fun _ _ => []
  events := []
  addedLevels := 2
  bareLevels := 2

/-- A store with two artists and an album of the first. -/
def oneAlbum : Memory :=
  ((Memory.empty.put "artist" (.str "joni") (.obj [("id", .str "joni")])).put
    "artist" (.str "miles") (.obj [("id", .str "miles")])).put
    "album" (.str "al1") (.obj [("artist", .str "joni"), ("id", .str "al1")])

/-- An update of a field of the album. -/
def newYear : Json := .obj [("al1", .obj [("published", .bool false), ("year", .int 1971)])]

/-- An update that gives the album to the other artist. -/
def newArtist : Json := .obj [("al1", .obj [("artist", .str "miles")])]

/-- The one entry of an update of a field is stored with the forced values. -/
theorem newYear_stored :
    ∃ h, label.handlings "album" .update newYear default default oneAlbum = [h] ∧
      h.after.row? "album" (.str "al1") = some (.obj [("artist", .str "joni"),
        ("id", .str "al1"), ("published", .bool true), ("year", .int 1971)]) ∧
      ∃ judged demanded forced id row,
        h.Stored label.registry label.persistence.schema judged demanded forced id row :=
  ⟨_, rfl, rfl, stored_under_hooks label _ "album" .update newYear default default oneAlbum rfl rfl
    _ List.mem_cons_self (by decide)⟩

/-- The artist that is forced on the album is not the one that is stored: the change of the
relation that the request asks for comes after the hooks. -/
theorem newArtist_replaces_forced :
    ∃ h, label.handlings "album" .update newArtist default default oneAlbum = [h] ∧
      h.action.chain = .update ∧ h.action.entityType = "album" ∧
      Hooks.entriesOf label.registry h.action.node.hooks.setTo
        (h.action.ctx.withExtra "value" h.bound.toRow) =
          .ok [("artist", .str "joni"), ("published", .bool true)] ∧
      h.after.row? "album" (.str "al1") = some (.obj [("artist", .str "miles"),
        ("id", .str "al1"), ("published", .bool true)]) ∧
      ∃ records m, (label.mutate "album" .update newArtist default default).outcome oneAlbum =
        (.ok records, m) :=
  ⟨_, rfl, rfl, rfl, rfl, rfl, _, _, rfl⟩

end Gate

end EntityGate
