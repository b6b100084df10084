/-
# Collapsing settings is not seen

A setting keeps the parts that hold no call as literals, however deep the calls stand.  Beside it
stands the evaluation of a configuration entry as it is written, which knows no settings: an object
with the key of calls applies a callable to the values of its arguments, all other objects and lists
are evaluated part by part.  Resolving the setting of an entry comes to the same, value or fault, so
it cannot be told from outside which parts were collapsed.
-/
import EntityGate.Setting.Resolve
import EntityGate.Proofs.Canonical
import EntityGate.Proofs.Decision

namespace EntityGate

/-! ## Values inside values -/

namespace Json

/-- A value is another value or stands inside of it, at any depth. -/
inductive Inside : Json → Json → Prop
  | same (v : Json) : Inside v v
  | item {v w : Json} {items : List Json} : w ∈ items → Inside v w → Inside v (.arr items)
  | entry {v : Json} {e : String × Json} {fields : List (String × Json)} :
    e ∈ fields → Inside v e.2 → Inside v (.obj fields)

/-- No object at any depth of a value has a key. -/
def Lacks (key : String) (v : Json) : Prop :=
  ∀ fields, Inside (.obj fields) v → lookup key fields = none

variable {key : String}

lemma lacks_arr {items : List Json} : Lacks key (.arr items) ↔ ∀ v ∈ items, Lacks key v := by
  constructor
  · exact fun h v hv fields hinside => h fields (.item hv hinside)
  · rintro h fields hinside
    cases hinside with
    | item hv hinside => exact h _ hv fields hinside

lemma lacks_obj {fields : List (String × Json)} :
    Lacks key (.obj fields) ↔ lookup key fields = none ∧ ∀ e ∈ fields, Lacks key e.2 := by
  constructor
  · exact fun h => ⟨h fields (.same _), fun e he inner hinside => h inner (.entry he hinside)⟩
  · rintro ⟨hown, hinner⟩ inner hinside
    cases hinside with
    | same => exact hown
    | entry he hinside => exact hinner _ he inner hinside

end Json

namespace Setting

open Json (Canonical Lacks)

/-! ## Which settings are literals -/

lemma literals?_map_literal (values : List Json) :
    literals? (values.map literal) = some values := by
  induction values with
  | nil => rfl
  | cons v rest ih =>
    rw [literals?] at ih
    rw [List.map_cons, literals?, List.mapM_cons, ih]
    rfl

lemma literalEntries?_map_literal (fields : List (String × Json)) :
    literalEntries? (fields.map fun e => (e.1, literal e.2)) = some fields := by
  induction fields with
  | nil => rfl
  | cons e rest ih =>
    rw [literalEntries?] at ih
    rw [List.map_cons, literalEntries?, List.mapM_cons, ih]
    rfl

/-- Items that are all literal have the values they were collapsed to. -/
lemma eq_map_of_literals? {items : List Setting} : ∀ {values : List Json},
    literals? items = some values → items = values.map literal := by
  induction items with
  | nil =>
    intro values h
    cases h
    rfl
  | cons s rest ih =>
    intro values h
    rw [literals?, List.mapM_cons] at h
    obtain ⟨v, hv, h⟩ := Option.bind_eq_some_iff.mp h
    obtain ⟨others, hothers, h⟩ := Option.bind_eq_some_iff.mp h
    cases h
    rw [literal?_eq_some hv, ih hothers]
    rfl

lemma eq_map_of_literalEntries? {entries : List (String × Setting)} :
    ∀ {fields : List (String × Json)}, literalEntries? entries = some fields →
      entries = fields.map fun e => (e.1, literal e.2) := by
  induction entries with
  | nil =>
    intro fields h
    cases h
    rfl
  | cons entry rest ih =>
    obtain ⟨k, s⟩ := entry
    intro fields h
    rw [literalEntries?, List.mapM_cons] at h
    obtain ⟨field, hfield, h⟩ := Option.bind_eq_some_iff.mp h
    obtain ⟨others, hothers, h⟩ := Option.bind_eq_some_iff.mp h
    obtain ⟨v, hv, rfl⟩ := Option.map_eq_some_iff.mp hfield
    cases h
    rw [literal?_eq_some hv, ih hothers]
    rfl

/-- What is collapsed is literal throughout. -/
lemma literal_of_ofItems {items : List Setting} {v : Json} (h : ofItems items = literal v) :
    ∀ s ∈ items, ∃ w, s = literal w := by
  rw [ofItems] at h
  split at h
  · rename_i values hvalues
    intro s hs
    rw [eq_map_of_literals? hvalues] at hs
    obtain ⟨w, -, rfl⟩ := List.mem_map.mp hs
    exact ⟨w, rfl⟩
  · cases h

lemma literal_of_ofEntries {entries : List (String × Setting)} {v : Json}
    (h : ofEntries entries = literal v) : ∀ entry ∈ entries, ∃ w, entry.2 = literal w := by
  rw [ofEntries] at h
  split at h
  · rename_i fields hfields
    intro entry hentry
    rw [eq_map_of_literalEntries? hfields] at hentry
    obtain ⟨field, -, rfl⟩ := List.mem_map.mp hentry
    exact ⟨field.2, rfl⟩
  · cases h

mutual

/-- A value without calls is kept as it is. -/
theorem ofJson_of_lacks : ∀ v : Json, Lacks callKey v → ofJson v = literal v
  | .null, _ => rfl
  | .bool _, _ => rfl
  | .num _, _ => rfl
  | .str _, _ => rfl
  | .arr items, h => by
    rw [ofJson, ofItems, ofJsonItems_of_lacks items (Json.lacks_arr.mp h), literals?_map_literal]
  | .obj fields, h => by
    obtain ⟨hown, hinner⟩ := Json.lacks_obj.mp h
    rw [ofJson, hown]
    dsimp only
    rw [ofEntries, ofJsonFields_of_lacks fields hinner, literalEntries?_map_literal]

theorem ofJsonItems_of_lacks : ∀ items : List Json, (∀ v ∈ items, Lacks callKey v) →
    ofJsonItems items = items.map literal
  | [], _ => rfl
  | v :: rest, h => by
    rw [ofJsonItems, ofJson_of_lacks v (h v List.mem_cons_self),
      ofJsonItems_of_lacks rest fun w hw => h w (List.mem_cons_of_mem _ hw), List.map_cons]

theorem ofJsonFields_of_lacks : ∀ fields : List (String × Json),
    (∀ e ∈ fields, Lacks callKey e.2) →
      ofJsonFields fields = fields.map fun e => (e.1, literal e.2)
  | [], _ => rfl
  | (k, v) :: rest, h => by
    rw [ofJsonFields, ofJson_of_lacks v (h (k, v) List.mem_cons_self),
      ofJsonFields_of_lacks rest fun e he => h e (List.mem_cons_of_mem _ he), List.map_cons]

end

mutual

/-- A value that is kept as a literal has no call at any depth. -/
theorem lacks_of_literal : ∀ v : Json, (∃ w, ofJson v = literal w) → Lacks callKey v
  | .null, _ => fun _ h => nomatch h
  | .bool _, _ => fun _ h => nomatch h
  | .num _, _ => fun _ h => nomatch h
  | .str _, _ => fun _ h => nomatch h
  | .arr items, ⟨w, h⟩ => by
    rw [ofJson] at h
    exact Json.lacks_arr.mpr (lacks_of_literal_items items (literal_of_ofItems h))
  | .obj fields, ⟨w, h⟩ => by
    rw [ofJson] at h
    split at h
    · cases h
    · rename_i hown
      have hinner := lacks_of_literal_fields fields (literal_of_ofEntries h)
      exact Json.lacks_obj.mpr ⟨hown, hinner⟩

theorem lacks_of_literal_items : ∀ items : List Json,
    (∀ s ∈ ofJsonItems items, ∃ w, s = literal w) → ∀ v ∈ items, Lacks callKey v
  | [], _ => List.forall_mem_nil _
  | v :: rest, h => by
    obtain ⟨hv, hrest⟩ := List.forall_mem_cons.mp h
    exact List.forall_mem_cons.mpr ⟨lacks_of_literal v hv, lacks_of_literal_items rest hrest⟩

theorem lacks_of_literal_fields : ∀ fields : List (String × Json),
    (∀ entry ∈ ofJsonFields fields, ∃ w, entry.2 = literal w) → ∀ e ∈ fields, Lacks callKey e.2
  | [], _ => List.forall_mem_nil _
  | (k, v) :: rest, h => by
    obtain ⟨hv, hrest⟩ := List.forall_mem_cons.mp h
    exact List.forall_mem_cons.mpr ⟨lacks_of_literal v hv, lacks_of_literal_fields rest hrest⟩

end

/-! ## Evaluation as it is written -/

/-- The arguments that an object with a call names: the items of a list, none for `null` or no
entry, and any other value as the only one. -/
def argumentsIn (fields : List (String × Json)) : List Json :=
  match Json.lookup argsKey fields with
  | some (.arr items) => items
  | some .null | none => []
  | some v => [v]

/-- What the callable of some name returns for some arguments.  A name that is not known is the
fault, whatever the arguments come to. -/
def applyCallable (registry : Registry) (ctx : Context) (name : String)
    (arguments : Except Fault (List Json)) : Except Fault Json :=
  match registry.find? name with
  | none => .error (.unknownCallable name)
  | some callable => do
    match callable (← arguments) ctx with
    | .ok v => return v
    | .error text => throw (.callFailed name text)

lemma size_pos (v : Json) : 0 < v.size := by
  cases v <;> simp [Json.size]

/-- Measures are a size and whether it is one of entries: the first of some entries is smaller than
all of them. -/
lemma first_smaller (m n : Nat) : Prod.Lex (· < ·) (· < ·) (m, 0) (m + n, 1) := by
  rw [Prod.lex_def]
  dsimp only
  omega

/-- The others are smaller too, since the first has a size. -/
lemma others_smaller {m : Nat} (h : 0 < m) (n : Nat) :
    Prod.Lex (· < ·) (· < ·) (n, 1) (m + n, 1) := by
  rw [Prod.lex_def]
  dsimp only
  omega

lemma sizeItems_argumentsIn_le (fields : List (String × Json)) :
    Json.sizeItems (argumentsIn fields) ≤ Json.sizeFields fields := by
  have hlookup : ∀ v, Json.lookup argsKey fields = some v → v.size ≤ Json.sizeFields fields := by
    induction fields with
    | nil => exact fun _ h => nomatch h
    | cons e rest ih =>
      obtain ⟨k, w⟩ := e
      intro v h
      rw [Json.lookup_cons] at h
      rw [Json.sizeFields]
      split at h
      · cases h
        exact Nat.le_add_right _ _
      · exact (ih v h).trans (Nat.le_add_left _ _)
  rw [argumentsIn]
  split
  · rename_i items hargs
    have hsize := hlookup _ hargs
    rw [Json.size] at hsize
    exact Nat.le_of_succ_le hsize
  · exact Nat.zero_le _
  · exact Nat.zero_le _
  · rename_i v _ _ hargs
    exact hlookup v hargs

mutual

/-- The value of a configuration entry, evaluated as it is written: an object with a call applies
the callable, other objects and lists are evaluated part by part, in order. -/
def evaluate (registry : Registry) (ctx : Context) : Json → Except Fault Json
  | .arr items => do return .arr (← evaluateItems registry ctx items)
  | .obj fields =>
    match Json.lookup callKey fields with
    | some name =>
      -- the arguments may end in a fault, which only counts if the name is known
      applyCallable registry ctx name.textOrCompact
        (evaluateItems registry ctx (argumentsIn fields))
    | none => do return .obj (← evaluateFields registry ctx fields)
  | v => .ok v
termination_by v => (v.size, 0)
decreasing_by
  · exact .left _ _ (Nat.lt_succ_self _)
  · exact .left _ _ (Nat.lt_succ_of_le (sizeItems_argumentsIn_le fields))
  · exact .left _ _ (Nat.lt_succ_self _)

/-- The values of some entries, evaluated in order. -/
def evaluateItems (registry : Registry) (ctx : Context) : List Json → Except Fault (List Json)
  | [] => .ok []
  | v :: rest => do
    let w ← evaluate registry ctx v
    let ws ← evaluateItems registry ctx rest
    return w :: ws
termination_by items => (Json.sizeItems items, 1)
decreasing_by
  · exact first_smaller _ _
  · exact others_smaller (size_pos v) _

/-- The entries of an object with their values evaluated in order. -/
def evaluateFields (registry : Registry) (ctx : Context) :
    List (String × Json) → Except Fault (List (String × Json))
  | [] => .ok []
  | (k, v) :: rest => do
    let w ← evaluate registry ctx v
    let ws ← evaluateFields registry ctx rest
    return (k, w) :: ws
termination_by fields => (Json.sizeFields fields, 1)
decreasing_by
  · exact first_smaller _ _
  · exact others_smaller (size_pos v) _

end

/-! ## Resolving -/

section

variable (registry : Registry) (ctx : Context)

lemma resolve_call (name : String) (args : List Setting) :
    (call name args).resolve registry ctx =
      applyCallable registry ctx name (resolveItems registry ctx args) := by
  rw [resolve, applyCallable]
  cases registry.find? name <;> rfl

lemma resolveItems_map_literal (values : List Json) :
    resolveItems registry ctx (values.map literal) = .ok values := by
  induction values with
  | nil => rfl
  | cons v rest ih =>
    rw [List.map_cons, resolveItems, resolve, ih]
    rfl

lemma resolveEntries_map_literal (fields : List (String × Json)) :
    resolveEntries registry ctx (fields.map fun e => (e.1, literal e.2)) = .ok fields := by
  induction fields with
  | nil => rfl
  | cons e rest ih =>
    rw [List.map_cons, resolveEntries, resolve, ih]
    rfl

/-- A list resolves item by item, collapsed or not. -/
lemma resolve_ofItems (items : List Setting) :
    (ofItems items).resolve registry ctx =
      (do return .arr (← resolveItems registry ctx items)) := by
  rw [ofItems]
  split
  · rename_i values hvalues
    rw [eq_map_of_literals? hvalues, resolveItems_map_literal]
    rfl
  · rw [resolve]

lemma keys_of_resolveEntries {entries : List (String × Setting)} :
    ∀ {fields : List (String × Json)}, resolveEntries registry ctx entries = .ok fields →
      fields.map Prod.fst = entries.map Prod.fst := by
  induction entries with
  | nil =>
    intro fields h
    cases h
    rfl
  | cons entry rest ih =>
    obtain ⟨k, s⟩ := entry
    intro fields h
    rw [resolveEntries] at h
    obtain ⟨v, -, h⟩ := Decision.bind_eq_ok.mp h
    obtain ⟨others, hothers, h⟩ := Decision.bind_eq_ok.mp h
    cases h
    rw [List.map_cons, List.map_cons, ih hothers]

/-- So does an object whose keys are in order: its values are put together as they come. -/
lemma resolve_ofEntries {entries : List (String × Setting)} (h : Increasing entries) :
    (ofEntries entries).resolve registry ctx =
      (do return .obj (← resolveEntries registry ctx entries)) := by
  rw [ofEntries]
  split
  · rename_i fields hfields
    rw [eq_map_of_literalEntries? hfields, resolveEntries_map_literal]
    rfl
  · rw [resolve]
    cases hvalues : resolveEntries registry ctx entries with
    | error f => rfl
    | ok fields =>
      -- the values are others now, but the keys are not, so nothing moves
      have hkeys : Increasing fields := by
        rw [Increasing, ← List.pairwise_map (f := Prod.fst), keys_of_resolveEntries _ _ hvalues,
          List.pairwise_map]
        exact h
      show Except.ok (Json.ofFields fields) = .ok (.obj fields)
      rw [Json.ofFields_eq, Json.sortedFields_of_increasing hkeys]

lemma argsOf_eq (fields : List (String × Json)) :
    argsOf fields = ofJsonItems (argumentsIn fields) := by
  induction fields with
  | nil => rfl
  | cons e rest ih =>
    obtain ⟨k, v⟩ := e
    rw [argumentsIn, Json.lookup_cons]
    unfold argsOf
    by_cases hk : k = argsKey
    · rw [if_pos hk, if_pos hk.symm]
      cases v <;> rfl
    · rw [if_neg hk, if_neg (Ne.symm hk), ih]
      rfl

lemma canonical_argumentsIn {fields : List (String × Json)} (h : ∀ e ∈ fields, Canonical e.2) :
    ∀ v ∈ argumentsIn fields, Canonical v := by
  have hlookup : ∀ v, Json.lookup argsKey fields = some v → Canonical v := by
    intro v hv
    exact h (argsKey, v) (Table.mem_of_lookup hv)
  rw [argumentsIn]
  split
  · rename_i items hargs
    exact (hlookup _ hargs).of_arr
  · exact List.forall_mem_nil _
  · exact List.forall_mem_nil _
  · rename_i v _ _ hargs
    intro w hw
    rw [List.mem_singleton.mp hw]
    exact hlookup v hargs

mutual

/-- A setting resolves to what its value evaluates to. -/
theorem resolve_ofJson : ∀ v : Json, Canonical v →
    (ofJson v).resolve registry ctx = evaluate registry ctx v
  | .null, _ => by rw [ofJson, resolve, evaluate] <;> exact fun _ h => nomatch h
  | .bool b, _ => by rw [ofJson, resolve, evaluate] <;> exact fun _ h => nomatch h
  | .num n, _ => by rw [ofJson, resolve, evaluate] <;> exact fun _ h => nomatch h
  | .str s, _ => by rw [ofJson, resolve, evaluate] <;> exact fun _ h => nomatch h
  | .arr items, h => by
    rw [ofJson, resolve_ofItems, resolveItems_ofJson items h.of_arr, evaluate]
  | .obj fields, h => by
    obtain ⟨hkeys, hvalues⟩ := h.of_obj
    rw [ofJson, evaluate]
    cases Json.lookup callKey fields with
    | some name =>
      have hargs := canonical_argumentsIn hvalues
      dsimp only
      rw [resolve_call, argsOf_eq, resolveItems_ofJson (argumentsIn fields) hargs]
    | none =>
      have hentries : Increasing (ofJsonFields fields) := by
        rw [ofJsonFields_eq_map]
        exact hkeys.map ofJson
      dsimp only
      rw [resolve_ofEntries registry ctx hentries, resolveEntries_ofJson fields hvalues]
termination_by v => (v.size, 0)
decreasing_by
  · exact .left _ _ (Nat.lt_succ_self _)
  · exact .left _ _ (Nat.lt_succ_self _)
  · exact .left _ _ (Nat.lt_succ_of_le (sizeItems_argumentsIn_le fields))

theorem resolveItems_ofJson : ∀ items : List Json, (∀ v ∈ items, Canonical v) →
    resolveItems registry ctx (ofJsonItems items) = evaluateItems registry ctx items
  | [], _ => by rw [ofJsonItems, resolveItems, evaluateItems]
  | v :: rest, h => by
    obtain ⟨hv, hrest⟩ := List.forall_mem_cons.mp h
    rw [ofJsonItems, resolveItems, evaluateItems, resolve_ofJson v hv,
      resolveItems_ofJson rest hrest]
termination_by items => (Json.sizeItems items, 1)
decreasing_by
  · exact first_smaller _ _
  · exact others_smaller (size_pos v) _

theorem resolveEntries_ofJson : ∀ fields : List (String × Json), (∀ e ∈ fields, Canonical e.2) →
    resolveEntries registry ctx (ofJsonFields fields) = evaluateFields registry ctx fields
  | [], _ => by rw [ofJsonFields, resolveEntries, evaluateFields]
  | (k, v) :: rest, h => by
    obtain ⟨hv, hrest⟩ := List.forall_mem_cons.mp h
    rw [ofJsonFields, resolveEntries, evaluateFields, resolve_ofJson v hv,
      resolveEntries_ofJson rest hrest]
termination_by fields => (Json.sizeFields fields, 1)
decreasing_by
  · exact first_smaller _ _
  · exact others_smaller (size_pos v) _

end

end

/-- Collapsing is not seen: a value is kept as a literal exactly if no object at any depth of it
has the key of calls, and then as it is; the setting of a value is written as a value with the same
setting; and the setting of a canonical value resolves to what the value evaluates to as it is
written, be it a value or the first fault. -/
theorem collapsing_unseen (v : Json) :
    ((∃ w, ofJson v = literal w) ↔ Lacks callKey v) ∧ (∀ w, ofJson v = literal w → w = v) ∧
      ofJson (ofJson v).toJson = ofJson v ∧
        (Canonical v → ∀ registry ctx,
          (ofJson v).resolve registry ctx = evaluate registry ctx v) := by
  refine ⟨⟨lacks_of_literal v, fun h => ⟨v, ofJson_of_lacks v h⟩⟩, fun w hw => ?_, ofJson_toJson v,
    fun h registry ctx => resolve_ofJson registry ctx v h⟩
  have hsame := ofJson_of_lacks v (lacks_of_literal v ⟨w, hw⟩)
  exact literal.inj (hw.symm.trans hsame)

/-- Default values of an album: an owner that is computed and tags that are fixed. -/
def albumDefaults : Json :=
  .obj [("owner", .obj [("$call", .str "coalesce"),
    ("args", .arr [.obj [("$call", .str "ctx"), ("args", .str "params.owner")], .str "nobody"])]),
    ("tags", .arr [.str "new"])]

/-- A call without params. -/
def bareContext : Context := .ofCall (.obj []) .null .null .null

/-- The owner is computed from the inner call outwards, and the tags stay what they are. -/
theorem albumDefaults_evaluate : Canonical albumDefaults ∧
    (¬ ∃ w, ofJson albumDefaults = literal w) ∧
    evaluate .standard bareContext albumDefaults =
      .ok (.obj [("owner", .str "nobody"), ("tags", .arr [.str "new"])]) := by
  have hcanonical : Canonical albumDefaults := rfl
  obtain ⟨hliteral, -, -, hevaluate⟩ := collapsing_unseen albumDefaults
  refine ⟨hcanonical, fun h => ?_, ?_⟩
  · have howner : Json.lookup callKey _ = none :=
      hliteral.mp h _ (.entry List.mem_cons_self (.same _))
    cases howner
  · rw [← hevaluate hcanonical .standard bareContext]
    rfl

end Setting

end EntityGate
