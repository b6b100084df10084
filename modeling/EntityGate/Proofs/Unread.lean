/-
# Options that are not read

The options of a call and their configured defaults are part of the context in which settings are
resolved, so any setting may read any option.  A setting ignores an option if it resolves alike in
all contexts that are the same but for that option.

Where all settings that decide about a mutation ignore an option, it matters only in the one place
where the option itself is asked for.  The decisions of a mutation are compared here for two
values of such an option: those of its checks, those of its verification, and its plan.
-/
import EntityGate.Proofs.Abreast
import EntityGate.Proofs.Tables

namespace EntityGate

open Decision

/-! ## The same but for one option -/

/-- Objects that are made from the same entries, but for those under one key. -/
def Json.SameBut (key : String) (v v' : Json) : Prop :=
  ∃ fields fields', v = .ofFields fields ∧ v' = .ofFields fields' ∧
    eraseField key fields = eraseField key fields'

/-- Contexts that are the same but for one option of the call and of the configuration. -/
structure Context.SameBut (key : String) (ctx ctx' : Context) : Prop where
  params : ctx.params = ctx'.params
  options : ctx.options.SameBut key ctx'.options
  optionOverrides : ctx.optionOverrides.SameBut key ctx'.optionOverrides
  frontEndOptions : ctx.frontEndOptions = ctx'.frontEndOptions
  extras : ctx.extras = ctx'.extras

/-- A truth value. -/
def Setting.IsTruth (s : Setting) : Prop := ∃ b, s = .literal (.bool b)

/-- Rules of a mutation in which an option is toggled: it is left as it is, or it is a truth value
or absent. -/
structure MutationRules.Toggled (key : String) (rules rules' : MutationRules) : Prop where
  permissions : rules.permissions = rules'.permissions
  options : rules.options.erase key = rules'.options.erase key
  toggles : rules.options.get? key = rules'.options.get? key ∨
    (∀ s, rules.options.get? key = some s → s.IsTruth) ∧
      ∀ s, rules'.options.get? key = some s → s.IsTruth

/-- Configurations of a type in whose mutations an option is toggled. -/
structure EntityConfig.Toggled (key : String) (config config' : EntityConfig) : Prop where
  read : config.read = config'.read
  create : config.create.Toggled key config'.create
  update : config.update.Toggled key config'.update
  delete : config.delete.Toggled key config'.delete

/-- Configurations in which an option is toggled, for any types. -/
def GateConfig.Toggled (key : String) (config config' : GateConfig) : Prop :=
  ∀ entityType, Pairs (EntityConfig.Toggled key) (config.entity entityType)
    (config'.entity entityType)

/-- Options of a call of which one is toggled: it is left as it is, or it is a truth value.  If it
were absent, the configuration would be asked. -/
structure CallOptions.Toggled (key : String) (o o' : CallOptions) : Prop where
  permissions : o.permissions = o'.permissions
  mutationPermissions : o.mutationPermissions = o'.mutationPermissions
  placeholders : o.placeholders = o'.placeholders
  settings : o.settings.erase key = o'.settings.erase key
  toggles : o.get? key = o'.get? key ∨
    ∃ s s', o.get? key = some s ∧ o'.get? key = some s' ∧ s.IsTruth ∧ s'.IsTruth

/-- Batches that are the same but for an option of their call. -/
structure Batch.Toggled (key : String) (b b' : Batch) : Prop where
  entityType : b.entityType = b'.entityType
  chain : b.chain = b'.chain
  params : b.params = b'.params
  entries : b.entries = b'.entries
  overrides : b.overrides.Toggled key b'.overrides
  frontEnd : b.frontEnd = b'.frontEnd

/-- Actions that are the same but for an option that their settings see. -/
structure Action.SameBut (key : String) (action action' : Action) : Prop where
  entityType : action.entityType = action'.entityType
  chain : action.chain = action'.chain
  node : action.node = action'.node
  ctx : action.ctx.SameBut key action'.ctx

/-! ## Settings that ignore an option -/

/-- A setting that does not read an option. -/
def Setting.Ignores (registry : Registry) (key : String) (s : Setting) : Prop :=
  ∀ ctx ctx', Context.SameBut key ctx ctx' → s.resolve registry ctx = s.resolve registry ctx'

/-- A setting that is absent or does not read an option. -/
def Ignored (registry : Registry) (key : String) (s : Setting?) : Prop :=
  ∀ x, s = some x → x.Ignores registry key

/-- Hooks that do not read an option. -/
structure Hooks.Ignores (registry : Registry) (key : String) (hooks : Hooks) : Prop where
  closure : Ignored registry key hooks.closure
  mutate : Ignored registry key hooks.mutate
  enforce : Ignored registry key hooks.enforce
  setTo : Ignored registry key hooks.setTo

/-- A layer whose settings do not read an option. -/
structure Layer.Ignores (registry : Registry) (key : String) (layer : Layer) : Prop where
  allowed : Ignored registry key layer.allowed
  permissive : Ignored registry key layer.permissive
  entries : ∀ bucket, ∀ entry ∈ (layer.bucket bucket).entries, entry.2.Ignores registry key
  hooks : layer.hooks.Ignores registry key

/-- A node whose settings and those of its fields do not read an option. -/
structure Node.Ignores (registry : Registry) (key : String) (node : Node) : Prop where
  layer : node.toLayer.Ignores registry key
  fields : ∀ entry ∈ node.fields.entries, entry.2.Ignores registry key

/-- Rules of a mutation whose settings do not read an option. -/
structure MutationRules.Ignores (registry : Registry) (key : String) (rules : MutationRules) :
    Prop where
  permissions : rules.permissions.Ignores registry key
  options : ∀ entry ∈ rules.options.entries, entry.2.Ignores registry key

/-- A configuration of a type whose settings for mutations do not read an option. -/
structure EntityConfig.Ignores (registry : Registry) (key : String) (config : EntityConfig) :
    Prop where
  create : config.create.Ignores registry key
  update : config.update.Ignores registry key
  delete : config.delete.Ignores registry key

/-- A configuration whose settings for mutations do not read an option. -/
def GateConfig.Ignores (registry : Registry) (key : String) (config : GateConfig) : Prop :=
  ∀ entityType entity, config.entity entityType = .ok entity → entity.Ignores registry key

/-- Options of a call whose settings do not read one of them. -/
structure CallOptions.Ignores (registry : Registry) (key : String) (o : CallOptions) : Prop where
  mutationPermissions : ∀ node, o.mutationPermissions = some node → node.Ignores registry key
  settings : ∀ entry ∈ o.settings.entries, entry.2.Ignores registry key

/-- A batch under the configuration of its type, and the same with an option toggled that nothing
reads. -/
structure Batch.Unaffected (registry : Registry) (key : String) (config : EntityConfig) (b : Batch)
    (config' : EntityConfig) (b' : Batch) : Prop where
  rules : config.Toggled key config'
  batch : b.Toggled key b'
  rulesIgnore : config.Ignores registry key
  callIgnores : b.overrides.Ignores registry key

variable {registry : Registry} {key : String}

/-! ## Objects and contexts -/

lemma Json.eraseField_append (fields more : List (String × Json)) :
    eraseField key (fields ++ more) = eraseField key fields ++ eraseField key more :=
  List.filter_append ..

lemma Json.eraseField_map {α : Type} (write : α → Json) (t : Table α) :
    eraseField key (t.entries.map fun (k, a) => (k, write a)) =
      (t.erase key).entries.map fun (k, a) => (k, write a) :=
  List.filter_map ..

lemma Json.sameBut_writeTable {α : Type} (write : α → Json) {t t' : Table α}
    (h : t.erase key = t'.erase key) :
    (writeTable write t).SameBut key (writeTable write t') :=
  ⟨_, _, rfl, rfl, by rw [eraseField_map, eraseField_map, h]⟩

lemma CallOptions.Toggled.toJson {o o' : CallOptions} (h : o.Toggled key o') :
    o.toJson.SameBut key o'.toJson := by
  refine ⟨_, _, rfl, rfl, ?_⟩
  rw [← h.permissions, ← h.mutationPermissions, ← h.placeholders, Json.eraseField_append,
    Json.eraseField_append _ (o'.settings.entries.map _), Json.eraseField_map, Json.eraseField_map,
    h.settings]

lemma Context.SameBut.withExtra {ctx ctx' : Context} (h : ctx.SameBut key ctx') (name : String)
    (v : Json) : (ctx.withExtra name v).SameBut key (ctx'.withExtra name v) where
  params := h.params
  options := h.options
  optionOverrides := h.optionOverrides
  frontEndOptions := h.frontEndOptions
  extras := congrArg (Json.insertField name v) h.extras

/-! ## Tables -/

namespace Table

variable {α : Type} {P : α → Prop}

/-- Other options are the same when one is left aside. -/
lemma get?_eq_of_erase {t t' : Table α} (h : t.erase key = t'.erase key) {name : String}
    (hname : name ≠ key) : t.get? name = t'.get? name := by
  have herased := congrArg (·.get? name) h
  simpa only [get?_erase, if_neg hname] using herased

lemma forall_insert {t : Table α} (h : ∀ entry ∈ t.entries, P entry.2) (name : String) {a : α}
    (ha : P a) : ∀ entry ∈ (t.insert name a).entries, P entry.2 := by
  intro entry hentry
  rcases mem_insertEntry hentry with rfl | hold
  · exact ha
  · exact h entry hold

/-- What holds of the values of two tables holds of those of the merged table. -/
lemma forall_merge {t other : Table α} (h : ∀ entry ∈ t.entries, P entry.2)
    (hother : ∀ entry ∈ other.entries, P entry.2) :
    ∀ entry ∈ (t.merge other).entries, P entry.2 := by
  rw [merge_eq_foldl]
  generalize other.entries = entries at hother ⊢
  induction entries generalizing t with
  | nil => exact h
  | cons entry rest ih =>
    obtain ⟨hentry, hrest⟩ := List.forall_mem_cons.mp hother
    exact ih (forall_insert h entry.1 hentry) hrest

end Table

/-! ## Merged settings -/

lemma Setting.ignores_literal (v : Json) : (Setting.literal v).Ignores registry key :=
  fun _ _ _ => rfl

lemma ignored_none : Ignored registry key none := fun _ h => nomatch h

lemma Ignored.orElse {top base : Setting?} (htop : Ignored registry key top)
    (hbase : Ignored registry key base) : Ignored registry key (top <|> base) := by
  cases top with
  | none => exact hbase
  | some s => exact htop

lemma ignored_get? {t : Table Setting} (h : ∀ entry ∈ t.entries, entry.2.Ignores registry key)
    (name : String) : Ignored registry key (t.get? name) :=
  fun _ hs => h _ (Table.mem_of_get? hs)

namespace Layer.Ignores

lemma empty : (default : Layer).Ignores registry key where
  allowed := ignored_none
  permissive := ignored_none
  entries := by rintro (_ | _ | _ | _) _ hentry <;> cases hentry
  hooks := ⟨ignored_none, ignored_none, ignored_none, ignored_none⟩

lemma bucket {layer : Layer} (h : layer.Ignores registry key) (bucket : Bucket) (target : String) :
    Ignored registry key ((layer.bucket bucket).get? target) :=
  ignored_get? (h.entries bucket) target

lemma merge {base top : Layer} (hbase : base.Ignores registry key)
    (htop : top.Ignores registry key) : (base.merge top).Ignores registry key where
  allowed := htop.allowed.orElse hbase.allowed
  permissive := htop.permissive.orElse hbase.permissive
  entries bucket := by
    rw [bucket_merge]
    exact Table.forall_merge (hbase.entries bucket) (htop.entries bucket)
  hooks := ⟨htop.hooks.closure.orElse hbase.hooks.closure,
    htop.hooks.mutate.orElse hbase.hooks.mutate, htop.hooks.enforce.orElse hbase.hooks.enforce,
    htop.hooks.setTo.orElse hbase.hooks.setTo⟩

end Layer.Ignores

lemma ignores_mergeLayers {base top : Table Layer}
    (hbase : ∀ entry ∈ base.entries, entry.2.Ignores registry key)
    (htop : ∀ entry ∈ top.entries, entry.2.Ignores registry key) :
    ∀ entry ∈ (mergeLayers base top).entries, entry.2.Ignores registry key := by
  rw [mergeLayers]
  generalize top.entries = entries at htop ⊢
  induction entries generalizing base with
  | nil => exact hbase
  | cons entry rest ih =>
    obtain ⟨name, layer⟩ := entry
    obtain ⟨hlayer, hrest⟩ := List.forall_mem_cons.mp htop
    refine ih (Table.forall_insert hbase name (Layer.Ignores.merge ?_ hlayer)) hrest
    cases hget : base.get? name with
    | none => exact Layer.Ignores.empty
    | some below => exact hbase _ (Table.mem_of_get? hget)

namespace Node.Ignores

variable {node : Node} (h : node.Ignores registry key)
include h

lemma merge {top : Node} (htop : top.Ignores registry key) :
    (node.merge top).Ignores registry key where
  layer := h.layer.merge htop.layer
  fields := ignores_mergeLayers h.fields htop.fields

lemma field {name : String} {layer : Layer} (hfield : node.field? name = some layer) :
    layer.Ignores registry key :=
  h.fields _ (Table.mem_of_get? hfield)

end Node.Ignores

/-! ## Resolution -/

section

variable {ctx ctx' : Context} (hctx : ctx.SameBut key ctx')
include hctx

namespace Ignored

variable {s : Setting?} (h : Ignored registry key s)
include h

lemma value? : Resolve.value? registry ctx s = Resolve.value? registry ctx' s := by
  cases s with
  | none => rfl
  | some x =>
    unfold Resolve.value?
    dsimp only
    rw [h x rfl ctx ctx' hctx]

lemma bool? (name : String) :
    Resolve.bool? registry ctx name s = Resolve.bool? registry ctx' name s := by
  unfold Resolve.bool?
  rw [h.value? hctx]

lemma nat? (name : String) :
    Resolve.nat? registry ctx name s = Resolve.nat? registry ctx' name s := by
  unfold Resolve.nat?
  rw [h.value? hctx]

end Ignored

/-- The first layer of settings that has an answer is the same. -/
lemma findBool?_sameBut (name : String) {layers : List Setting?}
    (h : ∀ layer ∈ layers, Ignored registry key layer) :
    Resolve.findBool? registry ctx name layers = Resolve.findBool? registry ctx' name layers := by
  unfold Resolve.findBool?
  induction layers with
  | nil => rfl
  | cons layer rest ih =>
    obtain ⟨hlayer, hrest⟩ := List.forall_mem_cons.mp h
    rw [Resolve.first?, Resolve.first?, hlayer.bool? hctx, ih hrest]

lemma bucketCheck_sameBut {aggregate : Layer} {field : Option Layer}
    (haggregate : aggregate.Ignores registry key)
    (hfield : ∀ layer, field = some layer → layer.Ignores registry key) (bucket : Bucket)
    (target : String) : Permission.bucketCheck registry aggregate field bucket target ctx =
      Permission.bucketCheck registry aggregate field bucket target ctx' := by
  have hctx := hctx.withExtra "target" (.str target)
  have hexplicit : Ignored registry key (field.bind fun f => (f.bucket bucket).get? target) := by
    cases field with
    | none => exact ignored_none
    | some layer => exact (hfield layer rfl).bucket bucket target
  have hpermissive : Ignored registry key (field.bind fun f => f.permissive) := by
    cases field with
    | none => exact ignored_none
    | some layer => exact (hfield layer rfl).permissive
  unfold Permission.bucketCheck
  simp only [hexplicit.bool? hctx, hpermissive.bool? hctx,
    (haggregate.bucket bucket target).bool? hctx, haggregate.permissive.bool? hctx]

namespace Hooks.Ignores

variable {hooks : Hooks} (h : hooks.Ignores registry key)
include h

lemma mutated (v : Json) : hooks.mutated registry ctx v = hooks.mutated registry ctx' v := by
  unfold Hooks.mutated
  split
  · rename_i s hs
    exact h.mutate s hs _ _ (hctx.withExtra "value" v)
  · rfl

lemma checkClosure (field : String) :
    hooks.checkClosure registry ctx field = hooks.checkClosure registry ctx' field := by
  unfold Hooks.checkClosure
  split
  · rename_i s hs
    rw [h.closure s hs _ _ hctx]
  · rfl

lemma onField (field : String) (v : Json) :
    hooks.onField registry ctx field v = hooks.onField registry ctx' field v := by
  unfold Hooks.onField
  rw [h.mutated hctx]
  refine bind_congr fun w => ?_
  have hvalue := hctx.withExtra "value" w
  simp only [h.checkClosure hvalue, h.enforce.value? hvalue, h.setTo.value? hvalue]

end Hooks.Ignores

lemma entriesOf_sameBut {s : Setting?} (h : Ignored registry key s) :
    Hooks.entriesOf registry s ctx = Hooks.entriesOf registry s ctx' := by
  unfold Hooks.entriesOf
  rw [h.value? hctx]

end

/-! ## Actions -/

namespace Action.SameBut

variable {action action' : Action} (h : action.SameBut key action')
  (hnode : action.node.Ignores registry key)
include h hnode

lemma checkAllowed : action.checkAllowed registry = action'.checkAllowed registry := by
  unfold Action.checkAllowed
  rw [← h.node, ← h.entityType, ← h.chain, hnode.layer.allowed.bool? h.ctx]

lemma checkField (field : String) :
    action.checkField registry field = action'.checkField registry field := by
  have hctx := h.ctx.withExtra "field" (.str field)
  unfold Action.checkField Action.fieldAllowed Action.fieldContext
  rw [← h.node, ← h.entityType]
  cases hfield : action.node.field? field with
  | none => simp only [hnode.layer.permissive.bool? hctx]
  | some layer =>
    have hlayer := hnode.field hfield
    simp only [hlayer.allowed.bool? hctx, hlayer.permissive.bool? hctx,
      hnode.layer.permissive.bool? hctx]

lemma relationAllows (bucket : Bucket) (relation target : String) :
    action.relationAllows registry bucket relation target =
      action'.relationAllows registry bucket relation target := by
  unfold Action.relationAllows Action.fieldContext
  rw [← h.node]
  exact bucketCheck_sameBut (h.ctx.withExtra "field" (.str relation)) hnode.layer
    (fun layer hlayer => hnode.field hlayer) bucket target

lemma prepared (validator : Validator) (r : EntityRecord) :
    r.prepared registry validator action = r.prepared registry validator action' := by
  have hhooks := hnode.layer.hooks
  have hmutated : r.mutated registry action.node.hooks action.ctx =
      r.mutated registry action.node.hooks action'.ctx := by
    unfold EntityRecord.mutated
    split
    · rfl
    · rename_i s hs
      rw [hhooks.mutate s hs _ _ (h.ctx.withExtra "value" r.toRow)]
  have hjudged := fun judged : EntityRecord => h.ctx.withExtra "value" judged.toRow
  unfold EntityRecord.prepared
  rw [← h.node, ← h.chain, ← h.entityType]
  simp only [hmutated, fun judged => hhooks.checkClosure (hjudged judged),
    fun judged => entriesOf_sameBut (hjudged judged) hhooks.enforce,
    fun judged => entriesOf_sameBut (hjudged judged) hhooks.setTo]

/-- Actions decide alike if none of their settings reads the option. -/
theorem agrees : action.Agrees registry action' where
  entityType := h.entityType
  chain := h.chain
  node := h.node
  checkField := h.checkField hnode
  relationAllows := h.relationAllows hnode
  onField field _ v hlayer := (hnode.field hlayer).hooks.onField (h.ctx.withExtra _ _) field v
  prepared := h.prepared hnode

end Action.SameBut

/-! ## Batches -/

lemma Batch.Toggled.refl (b : Batch) : b.Toggled key b :=
  ⟨rfl, rfl, rfl, rfl, ⟨rfl, rfl, rfl, rfl, .inl rfl⟩, rfl⟩

lemma EntityConfig.Toggled.checkReadChain {config config' : EntityConfig}
    (h : config.Toggled key config') {b b' : Batch} (hb : b.Toggled key b') :
    config.checkReadChain registry b = config'.checkReadChain registry b' := by
  unfold EntityConfig.checkReadChain
  rw [h.read, hb.params, hb.frontEnd, hb.entityType]

/-- A chain has rules in both configurations, in which the option is toggled, or in neither. -/
lemma EntityConfig.Toggled.mutationRules {config config' : EntityConfig}
    (h : config.Toggled key config') (hignores : config.Ignores registry key) (chain : Chain) :
    Pairs (fun rules rules' => rules.Toggled key rules' ∧ rules.Ignores registry key)
      (config.mutationRules chain) (config'.mutationRules chain) := by
  cases chain with
  | create => exact .answered ⟨h.create, hignores.create⟩
  | read => exact .refused _
  | update => exact .answered ⟨h.update, hignores.update⟩
  | delete => exact .answered ⟨h.delete, hignores.delete⟩

namespace Batch.Unaffected

variable {config config' : EntityConfig} {b b' : Batch}

/-- The batch that a chain request leads to has options of its own. -/
lemma nested (h : config.Toggled key config') (hignores : config.Ignores registry key)
    (target : String) (chain : Chain) (e : Entry) (frontEnd : FrontEndOptions) :
    Unaffected registry key config (.nested target chain e frontEnd) config'
      (.nested target chain e frontEnd) where
  rules := h
  batch := .refl _
  rulesIgnore := hignores
  callIgnores := by
    refine ⟨fun _ hnode => (nomatch hnode), ?_⟩
    exact Table.forall_insert (Table.forall_insert (Table.forall_insert
      (fun _ hentry => (nomatch hentry)) _ (Setting.ignores_literal _)) _
      (Setting.ignores_literal _)) _ (Setting.ignores_literal _)

variable (h : Unaffected registry key config b config' b')
include h

variable {rules rules' : MutationRules} (hrules : rules.Toggled key rules')
include hrules

lemma action : (Action.ofBatch rules b).SameBut key (Action.ofBatch rules' b') where
  entityType := h.batch.entityType
  chain := h.batch.chain
  node := by
    unfold Action.ofBatch
    rw [← h.batch.overrides.mutationPermissions, ← hrules.permissions]
  ctx := ⟨h.batch.params, Json.sameBut_writeTable _ hrules.options, h.batch.overrides.toJson,
    congrArg FrontEndOptions.toJson h.batch.frontEnd, rfl⟩

lemma layers_eq {name : String} (hname : name ≠ key) :
    b.layers rules name = b'.layers rules' name := by
  unfold Batch.layers CallOptions.get?
  rw [Table.get?_eq_of_erase h.batch.overrides.settings hname,
    Table.get?_eq_of_erase hrules.options hname]

omit h hrules in
/-- The settings that are asked for by name, and those of the action, do not read the option. -/
lemma ignores (hcall : b.overrides.Ignores registry key) (hrules : rules.Ignores registry key) :
    (Action.ofBatch rules b).node.Ignores registry key ∧
      ∀ name, Ignored registry key (b.overrides.get? name) ∧
        Ignored registry key (rules.options.get? name) := by
  refine ⟨?_, fun name => ⟨ignored_get? hcall.settings name, ignored_get? hrules.options name⟩⟩
  unfold Action.ofBatch
  dsimp only
  split
  · rename_i top htop
    exact hrules.permissions.merge (hcall.mutationPermissions top htop)
  · exact hrules.permissions

variable (hignores : rules.Ignores registry key)
include hignores

lemma checkAllowed : (Action.ofBatch rules b).checkAllowed registry =
    (Action.ofBatch rules' b').checkAllowed registry :=
  (h.action hrules).checkAllowed (ignores h.callIgnores hignores).1

lemma checkSize (hkey : "batchMax" ≠ key) (size : Nat) :
    (Action.ofBatch rules b).checkSize registry (b.batchMax rules) size =
      (Action.ofBatch rules' b').checkSize registry (b'.batchMax rules') size := by
  obtain ⟨hcall, hconfigured⟩ := (ignores h.callIgnores hignores).2 "batchMax"
  have hsame : b.batchMax rules = b'.batchMax rules' := by
    unfold Batch.batchMax CallOptions.get?
    rw [Table.get?_eq_of_erase h.batch.overrides.settings hkey,
      Table.get?_eq_of_erase hrules.options hkey]
  have hignored : Ignored registry key (b.batchMax rules) := hcall.orElse hconfigured
  unfold Action.checkSize
  rw [← hsame, hignored.nat? (h.action hrules).ctx]

/-- An option other than the one in question is read alike. -/
lemma findBool? {name : String} (hname : name ≠ key) :
    Resolve.findBool? registry (Action.ofBatch rules b).ctx name (b.layers rules name) =
      Resolve.findBool? registry (Action.ofBatch rules' b').ctx name (b'.layers rules' name) := by
  obtain ⟨hcall, hconfigured⟩ := (ignores h.callIgnores hignores).2 name
  rw [← h.layers_eq hrules hname]
  refine findBool?_sameBut (h.action hrules).ctx name fun layer hlayer => ?_
  rcases List.mem_cons.mp hlayer with rfl | hlayer
  · exact hcall
  · rw [List.mem_singleton.mp hlayer]
    exact hconfigured

omit h hrules hignores in
/-- A truth value, or no setting, has an answer in every context. -/
lemma exists_answer {s : Setting?} (h : ∀ x, s = some x → x.IsTruth) (ctx : Context)
    (name : String) : ∃ answer, Resolve.findBool? registry ctx name [s] = .ok answer := by
  cases s with
  | none => exact ⟨_, rfl⟩
  | some x =>
    obtain ⟨b, rfl⟩ := h x rfl
    exact ⟨_, rfl⟩

/-- The option itself may have another answer, but it has one or it has the same fault. -/
lemma findToggled : Pairs (fun _ _ => True)
    (Resolve.findBool? registry (Action.ofBatch rules b).ctx key (b.layers rules key))
    (Resolve.findBool? registry (Action.ofBatch rules' b').ctx key (b'.layers rules' key)) := by
  obtain ⟨hcall, hconfigured⟩ := (ignores h.callIgnores hignores).2 key
  have hctx := (h.action hrules).ctx
  have hrest : Pairs (fun _ _ => True)
      (Resolve.findBool? registry (Action.ofBatch rules b).ctx key [rules.options.get? key])
      (Resolve.findBool? registry (Action.ofBatch rules' b').ctx key
        [rules'.options.get? key]) := by
    rcases hrules.toggles with hsame | ⟨hplain, hplain'⟩
    · rw [← hsame]
      refine (Pairs.of_eq (findBool?_sameBut hctx key fun layer hlayer => ?_)).mono
        fun _ _ _ => trivial
      rw [List.mem_singleton.mp hlayer]
      exact hconfigured
    · obtain ⟨_, hanswer⟩ := exists_answer hplain (Action.ofBatch rules b).ctx key
      obtain ⟨_, hanswer'⟩ := exists_answer hplain' (Action.ofBatch rules' b').ctx key
      rw [hanswer, hanswer']
      exact .answered trivial
  unfold Batch.layers Resolve.findBool? Resolve.first?
  -- an option of the call decides, and where there is none the configuration does
  rcases h.batch.overrides.toggles with hsame | ⟨_, _, hon, hoff, ⟨_, rfl⟩, ⟨_, rfl⟩⟩
  · rw [← hsame, ← hcall.bool? hctx]
    refine (Pairs.refl _).bind ?_
    rintro (_ | answer) _ rfl
    · exact hrest
    · exact .answered trivial
  · rw [hon, hoff]
    exact .answered trivial

lemma agrees : (Action.ofBatch rules b).Agrees registry (Action.ofBatch rules' b') :=
  (h.action hrules).agrees (ignores h.callIgnores hignores).1

end Batch.Unaffected

/-! ## Verification -/

namespace Rules

/-- Rules with a configuration, and the same with an option toggled that nothing reads. -/
structure Unaffected (key : String) (rules rules' : Rules) : Prop where
  registry : rules.registry = rules'.registry
  schema : rules.schema = rules'.schema
  config : rules.config.Toggled key rules'.config
  ignores : rules.config.Ignores rules.registry key

namespace Unaffected

variable {rules rules' : Rules} (h : rules.Unaffected key rules')
include h

lemma entity (entityType : String) :
    Pairs (fun config config' => config.Toggled key config' ∧ config.Ignores rules.registry key)
      (rules.config.entity entityType) (rules'.config.entity entityType) :=
  (h.config entityType).and_left (h.ignores entityType)

section

variable {next next' : EntityConfig → Batch → Except Fault Unit}
  (hnext : ∀ {config b config' b'}, Batch.Unaffected rules.registry key config b config' b' →
    next config b = next' config' b')
  {action action' : Action} (hactions : action.Agrees rules.registry action')
include hnext hactions

lemma verifyRelation (frontEnd : FrontEndOptions) (a : Association) (v : Json) :
    rules.verifyRelation next action frontEnd a v =
      rules'.verifyRelation next' action' frontEnd a v := by
  unfold Rules.verifyRelation
  rw [← h.registry, hactions.checkAssign]
  split
  · rfl
  · refine ((h.entity a.target).bind fun config config' ⟨hconfig, hignores⟩ => .of_eq ?_).eq
    have htarget : ∀ chain e, next config (.nested a.target chain e frontEnd) =
        next' config' (.nested a.target chain e frontEnd) :=
      fun chain e => hnext (.nested hconfig hignores a.target chain e frontEnd)
    simp only [hactions.openChain, hactions.openEntry, htarget]

lemma verifyEntry (frontEnd : FrontEndOptions) (e : Entry) :
    rules.verifyEntry next action frontEnd e = rules'.verifyEntry next' action' frontEnd e := by
  have hmember : ∀ member : String × Json,
      rules.verifyMember next action frontEnd member.1 member.2 =
        rules'.verifyMember next' action' frontEnd member.1 member.2 := by
    intro member
    unfold Rules.verifyMember
    rw [← h.schema, ← hactions.entityType, ← hactions.chain, ← h.registry]
    split
    · exact h.verifyRelation hnext hactions frontEnd _ _
    · rw [hactions.checkField]
  unfold Rules.verifyEntry
  rw [← hactions.chain, ← hactions.entityType]
  simp only [hmember]

end

/-- Verification goes alike, whatever the value of the option. -/
theorem verify (hkey : "batchMax" ≠ key) (levels : Nat) : ∀ {config b config' b'},
    Batch.Unaffected rules.registry key config b config' b' →
    rules.verify levels config b = rules'.verify levels config' b' := by
  induction levels with
  | zero => exact fun _ => rfl
  | succ levels ih =>
    intro config b config' b' hb
    unfold Rules.verify Rules.verifyRead
    rw [← hb.batch.chain, ← hb.batch.entries, ← hb.batch.entityType, ← hb.batch.frontEnd,
      ← h.registry, hb.rules.checkReadChain hb.batch]
    split
    · rfl
    · rename_i hread
      refine ((hb.rules.mutationRules hb.rulesIgnore b.chain).bind ?_).eq
      rintro mutation mutation' ⟨hmutation, hignores⟩
      dsimp only
      rw [hb.checkAllowed hmutation hignores, hb.checkSize hmutation hignores hkey]
      have hentry := h.verifyEntry ih (hb.agrees hmutation hignores) b.frontEnd
      simp only [funext hentry]
      exact .refl _

end Unaffected

end Rules

/-! ## Plans -/

/-- Plans that differ in nothing but an option that nothing reads. -/
structure Plan.Unaffected (registry : Registry) (key : String) (p p' : Plan) : Prop where
  batch : Batch.Unaffected registry key p.config p.batch p'.config p'.batch
  transaction : p.transaction = p'.transaction
  flush : p.flush = p'.flush

namespace Gate

variable {σ : Type}

/-- The gate with another configuration. -/
def withConfig (gate : Gate σ) (config : GateConfig) : Gate σ := { gate with config }

variable {gate : Gate σ} {config' : GateConfig} {overrides overrides' : CallOptions}

/-- The batch of a call differs in the options of the call only. -/
lemma batchOf_toggled (hoverrides : overrides.Toggled key overrides') (entityType : String)
    (chain : Chain) (params : Json) (frontEnd : FrontEndOptions) :
    Pairs (fun b b' => b.Toggled key b' ∧ b.overrides = overrides)
      (gate.batchOf entityType chain params overrides frontEnd)
      ((gate.withConfig config').batchOf entityType chain params overrides' frontEnd) := by
  have hentries : ∀ params, Pairs (fun b b' => b.Toggled key b' ∧ b.overrides = overrides)
      (do return (⟨entityType, chain, params, ← Entry.ofParams chain params, overrides,
        frontEnd⟩ : Batch))
      (do return (⟨entityType, chain, params, ← Entry.ofParams chain params, overrides',
        frontEnd⟩ : Batch)) := by
    refine fun params => (Pairs.refl _).bind ?_
    rintro entries _ rfl
    exact .answered ⟨⟨rfl, rfl, rfl, rfl, hoverrides, rfl⟩, rfl⟩
  unfold batchOf
  dsimp only
  split
  · refine (Pairs.refl _).bind ?_
    rintro params _ rfl
    exact hentries params
  · exact hentries params

lemma transactionSettings_unaffected {config config' : EntityConfig} {b b' : Batch}
    (h : Batch.Unaffected gate.registry key config b config' b')
    (htransaction : "transaction" ≠ key) (hflush : "flush" ≠ key) {entities : GateConfig} :
    gate.transactionSettings config b =
      (gate.withConfig entities).transactionSettings config' b' := by
  unfold transactionSettings
  rw [← h.batch.chain]
  refine ((h.rules.mutationRules h.rulesIgnore b.chain).bind ?_).eq
  rintro rules rules' ⟨hrules, hignores⟩
  dsimp only
  rw [h.findBool? hrules hignores htransaction, h.findBool? hrules hignores hflush]
  exact .refl _

/-- A mutation has the same plan, but for the option, or it is refused with the same fault. -/
theorem plan_unaffected (hconfig : gate.config.Toggled key config')
    (hignores : gate.config.Ignores gate.registry key)
    (hoverrides : overrides.Toggled key overrides')
    (hcall : overrides.Ignores gate.registry key)
    (hkey : key ∉ ["batchMax", "transaction", "flush"]) (entityType : String) (chain : Chain)
    (params : Json) (frontEnd : FrontEndOptions) :
    Pairs (Plan.Unaffected gate.registry key)
      (gate.plan entityType chain params overrides frontEnd)
      ((gate.withConfig config').plan entityType chain params overrides' frontEnd) := by
  have hrules : gate.rules.Unaffected key (gate.withConfig config').rules :=
    ⟨rfl, rfl, hconfig, hignores⟩
  simp only [List.mem_cons, not_or, List.not_mem_nil, not_false_eq_true, and_true] at hkey
  obtain ⟨hmax, htransaction, hflush⟩ := hkey
  unfold plan
  refine (hrules.entity entityType).bind fun config config' ⟨hentity, hentityIgnores⟩ => ?_
  refine (batchOf_toggled hoverrides entityType chain params frontEnd).bind
    fun b b' ⟨hb, hoptions⟩ => ?_
  have h : Batch.Unaffected gate.registry key config b config' b' :=
    ⟨hentity, hb, hentityIgnores, hoptions ▸ hcall⟩
  refine (hentity.mutationRules hentityIgnores chain).bind fun _ _ _ => ?_
  have hlevels : b.levels = b'.levels := by rw [Batch.levels, h.batch.entries]; rfl
  refine (Pairs.of_eq (hlevels ▸ hrules.verify (Ne.symm hmax) b.levels h)).bind fun _ _ _ => ?_
  refine (Pairs.of_eq (transactionSettings_unaffected h (Ne.symm htransaction)
    (Ne.symm hflush))).bind ?_
  rintro settings _ rfl
  exact .answered ⟨h, rfl, rfl⟩

end Gate

end EntityGate
