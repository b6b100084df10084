/-
# What binding makes of a record

Taking in the members of an entry sets their fields and adds changes of their relations; the type,
the id and all other fields of the record stay as they are, whatever listeners pass on.  The hooks
of the action replace fields and judge the record, and its changes stay.  Without listeners the
record is then sent to the store as it is.
-/
import EntityGate.Proofs.Fields
import EntityGate.Proofs.Steps
import EntityGate.Proofs.Verified

namespace EntityGate

open Decision

/-! ## Parts of a mutation that return values of some kind -/

namespace Mutating

variable {σ α β : Type}

/-- A part of a mutation that returns values of some kind only. -/
def Returns (p : Mutating σ α) (post : α → Prop) : Prop :=
  Triple (fun _ _ => True) p (fun a _ _ => post a) fun _ _ => True

namespace Returns

variable {p : Mutating σ α} {post : α → Prop}

lemma any (p : Mutating σ α) : Returns p fun _ => True := by
  intro cache s _
  cases p.run cache s with
  | mk result s' => cases result <;> trivial

lemma pure {a : α} (h : post a) : Returns (Pure.pure a : Mutating σ α) post :=
  Triple.pure fun _ _ _ => h

lemma mono {post' : α → Prop} (hp : Returns p post) (h : ∀ a, post a → post' a) :
    Returns p post' :=
  Triple.weaken hp (fun _ _ h => h) (fun a _ _ => h a) fun _ _ h => h

lemma bind {next : α → Mutating σ β} {post' : β → Prop} (hp : Returns p post)
    (hnext : ∀ a, post a → Returns (next a) post') : Returns (p >>= next) post' := by
  refine Triple.bind hp fun a => ?_
  intro cache s ha
  exact hnext a ha cache s trivial

/-- What comes after something is returned whatever that returns. -/
lemma after (p : Mutating σ α) {next : α → Mutating σ β} {post : β → Prop}
    (hnext : ∀ a, Returns (next a) post) : Returns (p >>= next) post :=
  (any p).bind fun a _ => hnext a

/-- What a part returns is known next to what else holds after it. -/
lemma and {pre : CallCache → σ → Prop} {post' : α → CallCache → σ → Prop}
    {fail : Fault → σ → Prop} (hp : Returns p post) (h : Triple pre p post' fail) :
    Triple pre p (fun a cache s => post a ∧ post' a cache s) fail :=
  (Triple.and hp h).weaken (fun _ _ hs => ⟨trivial, hs⟩) (fun _ _ _ hs => hs) fun _ _ hs => hs.2

/-- A fold returns what each of its steps keeps. -/
lemma foldlM {I : β → Prop} {step : β → α → Mutating σ β} {l : List α}
    (hstep : ∀ b, ∀ a ∈ l, I b → Returns (step b a) I) {b : β} (hb : I b) :
    Returns (l.foldlM step b) I := by
  have hfold : Triple (fun _ _ => I b) (l.foldlM step b) (fun b _ _ => I b) fun _ _ => True := by
    refine Triple.foldlM (I := fun b _ _ => I b) (fun b a ha => ?_) b
    intro cache s hb
    exact hstep b a ha hb cache s trivial
  exact hfold.weaken (fun _ _ _ => hb) (fun _ _ _ h => h) fun _ _ h => h

end Returns

end Mutating

/-! ## Members -/

lemma Schema.association?_name {schema : Schema} {entityType field : String} {a : Association}
    (h : schema.association? entityType field = some a) : a.name = field := by
  have hfound := List.find?_some h
  simpa using hfound

namespace EntityRecord

/-- What members under some names may change of a record. -/
structure Advanced (schema : Schema) (entityType : String) (names : List String)
    (r r' : EntityRecord) : Prop where
  sameType : r'.entityType = r.entityType
  sameId : r'.id = r.id
  fields : ∀ f, f ∉ names → Json.lookup f r'.fields = Json.lookup f r.fields
  changes : ∃ more, r'.changes = r.changes ++ more ∧ ∀ c ∈ more, c.relation ∈ names ∧
    (schema.association? entityType c.relation).isSome = true

variable {schema : Schema} {entityType : String} {names : List String} {r r' r'' : EntityRecord}

lemma Advanced.refl (r : EntityRecord) : r.Advanced schema entityType names r :=
  ⟨rfl, rfl, fun _ _ => rfl, [], by simp, by simp⟩

lemma Advanced.trans (h : r.Advanced schema entityType names r')
    (h' : r'.Advanced schema entityType names r'') : r.Advanced schema entityType names r'' := by
  obtain ⟨more, hmore, hnames⟩ := h.changes
  obtain ⟨more', hmore', hnames'⟩ := h'.changes
  refine ⟨h'.sameType.trans h.sameType, h'.sameId.trans h.sameId,
    fun f hf => (h'.fields f hf).trans (h.fields f hf), more ++ more', ?_, ?_⟩
  · rw [hmore', hmore, List.append_assoc]
  · intro c hc
    rcases List.mem_append.mp hc with hc | hc
    · exact hnames c hc
    · exact hnames' c hc

lemma advanced_setField {field : String} (hfield : field ∈ names) (v : Json) :
    r.Advanced schema entityType names (r.setField field v) := by
  refine ⟨rfl, rfl, fun f hf => ?_, [], by simp [setField], by simp⟩
  have hne : f ≠ field := fun h => hf (h ▸ hfield)
  rw [setField, Json.lookup_insertField, if_neg hne]

lemma advanced_addChange {c : Change} (hname : c.relation ∈ names)
    (hrelation : (schema.association? entityType c.relation).isSome = true) :
    r.Advanced schema entityType names (r.addChange c) :=
  ⟨rfl, rfl, fun _ _ => rfl, [c], rfl, by simpa using ⟨hname, hrelation⟩⟩

end EntityRecord

/-- The id is no member of an entry. -/
lemma Entry.id_notMem_members (e : Entry) : "id" ∉ e.members.map Prod.fst := by
  intro h
  obtain ⟨member, hmember, hid⟩ := List.mem_map.mp h
  have hkept := (List.mem_filter.mp hmember).2
  rw [hid] at hkept
  cases hkept

namespace Gate

open Mutating EntityRecord

variable {σ : Type} {gate : Gate σ} {action : Action} {names : List String}

/-- An entry starts from a record of its type without changes. -/
lemma startRecord_returns (e : Entry) : Returns (gate.startRecord action e)
    fun r => r.entityType = action.entityType ∧ r.changes = [] := by
  unfold startRecord
  split
  · exact .pure ⟨rfl, rfl⟩
  · split
    · exact .throw fun _ _ _ => trivial
    · exact .after _ fun row => .pure ⟨rfl, rfl⟩

lemma bindValue_returns {field : String} (hfield : field ∈ names) (r : EntityRecord) (v : Json) :
    Returns (gate.bindValue action r field v)
      (r.Advanced gate.persistence.schema action.entityType names) := by
  refine .after _ fun _ => .after _ fun payload => ?_
  dsimp only
  split
  · exact .pure (advanced_setField hfield _)
  · exact .after _ fun w => .pure (advanced_setField hfield w)

lemma attach_advanced {a : Association} (hname : a.name ∈ names)
    (hrelation : (gate.persistence.schema.association? action.entityType a.name).isSome = true)
    (r : EntityRecord) (assign : Option Assign) (child : EntityRecord) :
    r.Advanced gate.persistence.schema action.entityType names (attach r a.name assign child) := by
  unfold attach
  split
  · exact .refl r
  · split
    · exact advanced_addChange hname hrelation
    · split
      · exact advanced_addChange hname hrelation
      · exact .refl r

section

variable {run : ChainEntry → Mutating σ EntityRecord}

lemma bindRelationWith_returns {a : Association} (hname : a.name ∈ names)
    (hrelation : (gate.persistence.schema.association? action.entityType a.name).isSome = true)
    (r : EntityRecord) (v : Json) :
    Returns (gate.bindRelationWith run action a r v)
      (r.Advanced gate.persistence.schema action.entityType names) := by
  refine .after _ fun payload => ?_
  dsimp only
  split
  · exact .after _ fun _ => .pure (advanced_addChange hname hrelation)
  · refine .after _ fun requests => .foldlM (fun r' request _ hr' => ?_) (.refl r)
    refine .after _ fun opened => .foldlM (fun r' e _ hr' => ?_) hr'
    refine .after _ fun entry => .after _ fun child => .pure ?_
    exact hr'.trans (attach_advanced hname hrelation r' _ child)

/-- A member changes its field, or adds changes of its relation. -/
lemma bindMemberWith_returns {field : String} (hfield : field ∈ names) (r : EntityRecord)
    (v : Json) :
    Returns (gate.bindMemberWith run action r field v)
      (r.Advanced gate.persistence.schema action.entityType names) := by
  unfold bindMemberWith
  split
  · rename_i a ha
    have hname := Schema.association?_name ha
    refine bindRelationWith_returns (hname ▸ hfield) ?_ r v
    rw [hname, ha]
    rfl
  · split
    · exact .pure (.refl r)
    · exact bindValue_returns hfield r v

/-- The members of an entry change their fields and add changes of their relations. -/
theorem bindMembersWith_returns (e : Entry) (r : EntityRecord) :
    Returns (e.members.foldlM (fun r (field, v) => gate.bindMemberWith run action r field v) r)
      (r.Advanced gate.persistence.schema action.entityType (e.members.map Prod.fst)) := by
  refine .foldlM (fun r' member hmember hr' => ?_) (.refl r)
  have hname : member.1 ∈ e.members.map Prod.fst := List.mem_map_of_mem hmember
  exact (bindMemberWith_returns hname r' member.2).mono fun _ hr'' => hr'.trans hr''

end

lemma bindMembers_returns {run : String → Chain → Entry → Mutating σ EntityRecord} (e : Entry)
    (r : EntityRecord) :
    Returns (e.members.foldlM (fun r (field, v) => gate.bindMember run action r field v) r)
      (r.Advanced gate.persistence.schema action.entityType (e.members.map Prod.fst)) := by
  simp only [bindMember_eq]
  exact bindMembersWith_returns e r

end Gate

/-! ## Hooks of the action -/

namespace Hooks

/-- A field that is checked holds its enforced value. -/
lemma enforced_of_check {fields enforced : List (String × Json)}
    (h : checkEnforced fields enforced = .ok ()) {field : String} {expected : Json}
    (hmem : (field, expected) ∈ enforced) :
    ((Json.lookup field fields).getD .null == expected) = true := by
  induction enforced with
  | nil => cases hmem
  | cons entry rest ih =>
    obtain ⟨f, v⟩ := entry
    rw [checkEnforced] at h
    split at h
    · rename_i hholds
      rcases List.mem_cons.mp hmem with heq | hmem
      · cases heq
        exact hholds
      · exact ih h hmem
    · cases h

end Hooks

namespace EntityRecord

variable {registry : Registry} {validator : Validator} {action : Action}
  {bound judged ready : EntityRecord}

/-- How a record that is to be written passes the hooks of its action: it is replaced, judged
against enforced values, and then filled with forced ones. -/
structure Prepared (registry : Registry) (action : Action) (bound judged ready : EntityRecord)
    (enforced forced : List (String × Json)) : Prop where
  replaced : bound.mutated registry action.node.hooks action.ctx = .ok judged
  enforces : Hooks.entriesOf registry action.node.hooks.enforce
    (action.ctx.withExtra "value" judged.toRow) = .ok enforced
  holds : Hooks.checkEnforced judged.fields enforced = .ok ()
  forces : Hooks.entriesOf registry action.node.hooks.setTo
    (action.ctx.withExtra "value" judged.toRow) = .ok forced
  filled : ready = forced.foldl (fun r entry => r.setField entry.1 entry.2) judged

lemma prepared_eq_ok (hwrites : action.chain ≠ .delete)
    (h : bound.prepared registry validator action = .ok ready) :
    ∃ judged enforced forced, Prepared registry action bound judged ready enforced forced := by
  rw [prepared] at h
  simp only [hwrites, ne_eq, not_false_eq_true, if_true] at h
  obtain ⟨judged, hjudged, h⟩ := bind_eq_ok.mp h
  obtain ⟨⟨⟩, -, h⟩ := bind_eq_ok.mp h
  obtain ⟨enforced, henforced, h⟩ := bind_eq_ok.mp h
  obtain ⟨⟨⟩, hholds, h⟩ := bind_eq_ok.mp h
  obtain ⟨forced, hforced, h⟩ := bind_eq_ok.mp h
  obtain ⟨⟨⟩, -, h⟩ := bind_eq_ok.mp h
  exact ⟨judged, enforced, forced, hjudged, henforced, hholds, hforced, (Except.ok.inj h).symm⟩

/-- A record that is to be deleted is only judged. -/
lemma prepared_delete (hdelete : action.chain = .delete)
    (h : bound.prepared registry validator action = .ok ready) : ready = bound := by
  rw [prepared] at h
  simp only [hdelete, ne_eq, not_true_eq_false, if_false] at h
  obtain ⟨judged, hjudged, h⟩ := bind_eq_ok.mp h
  obtain ⟨⟨⟩, -, h⟩ := bind_eq_ok.mp h
  obtain ⟨enforced, -, h⟩ := bind_eq_ok.mp h
  obtain ⟨⟨⟩, -, h⟩ := bind_eq_ok.mp h
  cases hjudged
  exact (Except.ok.inj h).symm

/-- Records of one entity with the same changes. -/
structure SameBut (r r' : EntityRecord) : Prop where
  sameType : r'.entityType = r.entityType
  sameId : r'.id = r.id
  changes : r'.changes = r.changes

lemma mutated_sameBut {hooks : Hooks} {ctx : Context}
    (h : bound.mutated registry hooks ctx = .ok judged) : bound.SameBut judged := by
  rw [mutated] at h
  split at h
  · cases h
    exact ⟨rfl, rfl, rfl⟩
  · obtain ⟨v, -, h⟩ := bind_eq_ok.mp h
    split at h
    all_goals
      cases h
      exact ⟨rfl, rfl, rfl⟩

/-- The record after forced values were set: each field holds the last value that is forced on it,
or what it held before. -/
lemma foldl_setField (forced : List (String × Json)) (r : EntityRecord) :
    forced.foldl (fun r entry => r.setField entry.1 entry.2) r =
      { r with fields := forced.foldl (fun acc (k, v) => Json.insertField k v acc) r.fields } := by
  induction forced generalizing r with
  | nil => rfl
  | cons entry rest ih => rw [List.foldl_cons, ih, List.foldl_cons, setField]

lemma Prepared.sameBut {enforced forced : List (String × Json)}
    (h : Prepared registry action bound judged ready enforced forced) : bound.SameBut ready := by
  have hjudged := mutated_sameBut h.replaced
  rw [h.filled, foldl_setField]
  exact ⟨hjudged.sameType, hjudged.sameId, hjudged.changes⟩

lemma Prepared.lookup {enforced forced : List (String × Json)}
    (h : Prepared registry action bound judged ready enforced forced) (field : String) :
    Json.lookup field ready.fields =
      ((Json.ofFields forced).get? field).or (Json.lookup field judged.fields) := by
  rw [h.filled, foldl_setField]
  exact Json.lookup_foldl_insertField field forced judged.fields

/-- Without hooks that replace, a record passes as it is. -/
lemma Prepared.eq_of_no_hooks {enforced forced : List (String × Json)}
    (h : Prepared registry action bound judged ready enforced forced)
    (hmutate : action.node.hooks.mutate = none) (hforces : action.node.hooks.setTo = none) :
    ready = bound := by
  have hreplaced := h.replaced
  have hforced := h.forces
  rw [mutated, hmutate] at hreplaced
  rw [Hooks.entriesOf, hforces] at hforced
  cases hreplaced
  cases hforced
  exact h.filled

/-- Preparing a record leaves its type, its id and its changes alone. -/
lemma prepared_sameBut (h : bound.prepared registry validator action = .ok ready) :
    bound.SameBut ready := by
  by_cases hdelete : action.chain = .delete
  · rw [prepared_delete hdelete h]
    exact ⟨rfl, rfl, rfl⟩
  · obtain ⟨judged, enforced, forced, hprepared⟩ := prepared_eq_ok hdelete h
    exact hprepared.sameBut

end EntityRecord

/-- How a record is made for an entry: it starts without changes, takes in the members of the
entry, and passes the hooks of the action. -/
structure Gate.Makes {σ : Type} (gate : Gate σ) (action : Action) (e : Entry)
    (start bound ready : EntityRecord) : Prop where
  sameType : start.entityType = action.entityType
  unchanged : start.changes = []
  advanced : start.Advanced gate.persistence.schema action.entityType (e.members.map Prod.fst)
    bound
  prepared : bound.prepared gate.registry gate.validator action = .ok ready

namespace Gate.Makes

variable {σ : Type} {gate : Gate σ} {action : Action} {e : Entry}
  {start bound ready : EntityRecord} (h : gate.Makes action e start bound ready)
include h

lemma readyType : ready.entityType = action.entityType :=
  ((EntityRecord.prepared_sameBut h.prepared).sameType.trans h.advanced.sameType).trans h.sameType

/-- Changes come from members of the entry that name relations. -/
lemma asked {c : Change} (hc : c ∈ ready.changes) : c.relation ∈ e.members.map Prod.fst ∧
    (gate.persistence.schema.association? action.entityType c.relation).isSome = true := by
  obtain ⟨more, hmore, hnames⟩ := h.advanced.changes
  rw [(EntityRecord.prepared_sameBut h.prepared).changes, hmore, h.unchanged,
    List.nil_append] at hc
  exact hnames c hc

/-- No change is one of the id. -/
lemma relation_ne_id {c : Change} (hc : c ∈ ready.changes) : c.relation ≠ "id" :=
  fun hid => e.id_notMem_members (hid ▸ (h.asked hc).1)

end Gate.Makes

namespace EntityRecord

/-! ## On the way into the store -/

/-- The record that is sent to the store where no listener changes it. -/
def sent (r : EntityRecord) : EntityRecord :=
  match r.toRow with
  | .obj fields => r.withFields fields
  | _ => r

/-- The record of the row that was stored for it. -/
def received (r : EntityRecord) (row : Json) : EntityRecord :=
  let r' := match row with
    | .obj fields => r.withFields fields
    | _ => r
  { r' with id := row.get? "id" <|> r'.id }

@[simp] lemma sent_entityType (r : EntityRecord) : r.sent.entityType = r.entityType := rfl

/-- The row of a record holds its id. -/
lemma get?_toRow_id {r : EntityRecord} {id : Json} (h : r.id = some id) :
    r.toRow.get? "id" = some id := by
  rw [toRow, h, Json.get?]
  exact (Json.lookup_insertField "id" "id" id r.fields).trans (if_pos rfl)

/-- What is sent holds the fields of the record. -/
lemma lookup_sent {field : String} (hfield : field ≠ "id") (r : EntityRecord) :
    Json.lookup field r.sent.fields = Json.lookup field r.fields := by
  have hsent : r.sent.fields = Json.eraseField "id" (r.toRow.fields?.getD []) := rfl
  rw [hsent, Json.lookup_eraseField hfield, toRow]
  cases r.id with
  | none => rfl
  | some id => exact (Json.lookup_insertField _ _ _ _).trans (if_neg hfield)

@[simp] lemma received_entityType (r : EntityRecord) (row : Json) :
    (r.received row).entityType = r.entityType := by
  cases row <;> rfl

lemma received_id {r : EntityRecord} {row id : Json} (h : row.get? "id" = some id) :
    (r.received row).id = some id := by
  have hreceived : (r.received row).id = (row.get? "id" <|> _) := rfl
  rw [hreceived, h]
  rfl

end EntityRecord

namespace Gate

open Mutating

variable {σ : Type} {gate : Gate σ}

/-- Write a record and remember its row. -/
def writeRemembered (gate : Gate σ) (chain : Chain) (r : EntityRecord) :
    Mutating σ Json := do
  let row ← Mutating.ofStore (gate.writeRecord chain r)
  modify (remember chain (r.received row) row)
  return row

lemma writeRemembered_run (gate : Gate σ) (chain : Chain) (r : EntityRecord)
    (cache : CallCache) (s : σ) : (gate.writeRemembered chain r).run cache s =
      match gate.writeRecord chain r s with
      | (.ok row, s') => (.ok (row, remember chain (r.received row) row cache), s')
      | (.error text, s') => (.error (.execution text), s') := by
  have hrun : (gate.writeRemembered chain r).run cache s =
      (Effect.ofStore (gate.writeRecord chain r) >>= fun row =>
        (Pure.pure (row, remember chain (r.received row) row cache) : Effect σ _)) s := by
    show ((Effect.ofStore (gate.writeRecord chain r) >>= fun row =>
      (Pure.pure (row, cache) : Effect σ _)) >>= fun x => _) s = _
    rw [bind_assoc]
    rfl
  rw [hrun, Effect.run_bind, Effect.ofStore]
  cases gate.writeRecord chain r s with
  | mk result s' => cases result <;> rfl

/-- A record is persisted between two events. -/
lemma persist_eq (gate : Gate σ) (action : Action) (r : EntityRecord) :
    gate.persist action r = (do
      let payload ← ofEffect (gate.publish .beforePersist action.entityType r.toRow)
      let sent := match payload with
        | .obj fields => r.withFields fields
        | _ => r
      let row ← gate.writeRemembered action.chain sent
      let _ ← ofEffect (gate.publish .afterPersist action.entityType row)
      return sent.received row) := by
  unfold persist writeRemembered
  simp only [bind_assoc, pure_bind]
  rfl

/-- Without listeners, a record is sent to the store as it is, and the row that comes back is
remembered. -/
lemma persist_run (hbus : gate.events = []) (action : Action) (r : EntityRecord)
    (cache : CallCache) (s : σ) :
    (gate.persist action r).run cache s =
      match gate.writeRecord action.chain r.sent s with
      | (.ok row, s') => (.ok (r.sent.received row,
          remember action.chain (r.sent.received row) row cache), s')
      | (.error text, s') => (.error (.execution text), s') := by
  have hpersist : gate.persist action r = (do
      let row ← gate.writeRemembered action.chain r.sent
      return r.sent.received row) := by
    rw [persist_eq]
    simp only [publish_nil hbus]
    rfl
  rw [hpersist, StateT.run_bind, Effect.run_bind, writeRemembered_run]
  cases gate.writeRecord action.chain r.sent s with
  | mk result s' => cases result <;> rfl

end Gate

end EntityGate
