/-
# Simplified params and what they unfold to

The relation between simplified params and the params with chains that they stand for, said
without the expansion: the fields of an entity keep their names and their order, a field that is no
relation keeps its value, and so does a relation with a bare id or `null`; a relation with a list or
an object gets a map of chains, where each element has become an item under its chain.  Elements are
entities again, so the relation goes on inside of them, at any depth.

What the map has to do with the items is left open (`rel`).  The expansion puts the items into the
map one after the other (`Arranged`), and what follows from that for the map holds at every relation
at every depth.
-/
import EntityGate.Request.Simplified
import EntityGate.Proofs.Decision
import EntityGate.Proofs.Depth

namespace EntityGate

open Decision

/-! ## Chains by name -/

lemma Chain.ofName?_eq_some {s : String} {chain : Chain} (h : ofName? s = some chain) :
    chain.name = s := by
  unfold ofName? at h
  split at h <;> cases h <;> rfl

lemma Chain.name_inj {c d : Chain} (h : c.name = d.name) : c = d := by
  cases c <;> cases d <;> first | rfl | exact absurd h (by decide)

namespace Simplified

/-! ## Elements and the items they become -/

/-- The fields of an element that are neither its id nor directives. -/
def values (source : List (String × Json)) : List (String × Json) :=
  source.filter fun entry => entry.1 ∉ ["id", "assignType", "chainType"]

/-- The text of a chain that an element names; `null` names none. -/
def Names (source : List (String × Json)) (name : String) : Prop :=
  Json.lookup "chainType" source = some (.str name)

/-- An item goes by the rules for an element of a relation with some fields: it lies under the chain
that the element names, else it is created if the element has no id, updated if it has an id and a
field that is neither id nor directive, and read if it has an id and nothing else; it has the id of
the element; it has the assignment of the element or else the usual one, except that none is added
to what is deleted; and neither an id nor a chain is left among its fields. -/
structure Item.Follows (item : Item) (defaultAssign : String) (source : List (String × Json)) :
    Prop where
  named : ∀ name, Names source name → item.chain.name = name
  created : (∀ name, ¬ Names source name) → Entry.idOf? source = none → item.chain = .create
  updated : (∀ name, ¬ Names source name) → Entry.idOf? source ≠ none → values source ≠ [] →
    item.chain = .update
  read : (∀ name, ¬ Names source name) → Entry.idOf? source ≠ none → values source = [] →
    item.chain = .read
  id : item.id = Entry.idOf? source
  assign : Json.lookup "assignType" item.fields = (Json.lookup "assignType" source).or
    (if item.chain = .delete then none else some (.str defaultAssign))
  stripped : "id" ∉ item.fields.map Prod.fst ∧ "chainType" ∉ item.fields.map Prod.fst

section

variable {source : List (String × Json)} {defaultAssign : String} {item : Item}

lemma values_eq (source : List (String × Json)) : values source =
    Json.eraseField "assignType" (Json.eraseField "id" (Json.eraseField "chainType" source)) := by
  simp only [values, Json.eraseField, List.filter_filter]
  refine List.filter_congr fun entry _ => ?_
  simp only [List.mem_cons, List.not_mem_nil, or_false, not_or, ne_eq]
  grind

/-- The fields that are left after the id and the chain was taken out have another one than the
assignment exactly if the element has values. -/
lemma any_eq_true_iff : (Json.eraseField "id" (Json.eraseField "chainType" source)).any
    (fun entry => entry.1 ≠ "assignType") = true ↔ values source ≠ [] := by
  rw [values_eq, ne_eq, Json.eraseField.eq_def "assignType", List.filter_eq_nil_iff,
    List.any_eq_true]
  push Not
  rfl

lemma explicitChain?_eq_ok {explicit : Option Chain} (h : explicitChain? source = .ok explicit) :
    (∃ chain, explicit = some chain ∧ Names source chain.name) ∨
      (explicit = none ∧ ∀ name, ¬ Names source name) := by
  unfold explicitChain? at h
  split at h
  · rename_i hnone
    cases h
    exact .inr ⟨rfl, fun name hname => nomatch hnone.symm.trans hname⟩
  · rename_i hnull
    cases h
    exact .inr ⟨rfl, fun name hname => nomatch hnull.symm.trans hname⟩
  · rename_i name hname
    obtain ⟨chain, hchain, h⟩ := bind_eq_ok.mp h
    cases h
    rw [Chain.ofName] at hchain
    split at hchain
    · rename_i hofName
      cases hchain
      exact .inl ⟨_, rfl, by rw [Names, hname, Chain.ofName?_eq_some hofName]⟩
    · cases hchain
  · cases h

/-- The fields of an item with the usual assignment, where there is none and one is due. -/
def assigned (chain : Chain) (defaultAssign : String) (fields : List (String × Json)) :
    List (String × Json) :=
  if chain ≠ .delete ∧ (Json.lookup "assignType" fields).isNone then
    Json.insertField "assignType" (.str defaultAssign) fields
  else fields

lemma lookup_assigned (chain : Chain) (defaultAssign : String) (fields : List (String × Json)) :
    Json.lookup "assignType" (assigned chain defaultAssign fields) =
      (Json.lookup "assignType" fields).or
        (if chain = .delete then none else some (.str defaultAssign)) := by
  rw [assigned]
  cases hown : Json.lookup "assignType" fields with
  | some v => simp [hown]
  | none =>
    by_cases hdelete : chain = .delete
    · simp [hdelete, hown]
    · simp [hdelete, Json.lookup_insertField]

lemma eraseField_assigned (chain : Chain) (defaultAssign : String)
    (fields : List (String × Json)) :
    Json.eraseField "assignType" (assigned chain defaultAssign fields) =
      Json.eraseField "assignType" fields := by
  rw [assigned]
  split
  · exact Json.eraseField_insertField "assignType" _ fields
  · rfl

lemma mem_keys_assigned {chain : Chain} {fields : List (String × Json)} {name : String}
    (h : name ∈ (assigned chain defaultAssign fields).map Prod.fst) :
    name = "assignType" ∨ name ∈ fields.map Prod.fst := by
  rw [assigned] at h
  split at h
  · exact Json.mem_keys_insertField h
  · exact .inr h

/-- The chain that an item is put under. -/
def chainOf (explicit : Option Chain) (source : List (String × Json)) : Chain :=
  match explicit, Entry.idOf? source with
  | some chain, _ => chain
  | none, none => .create
  | none, some _ =>
    if (Json.eraseField "id" (Json.eraseField "chainType" source)).any
      (fun entry => entry.1 ≠ "assignType") then .update else .read

/-- Sorting an element out finds its chain, and takes its id and its chain out of its fields. -/
lemma of_eq_ok (h : Item.of source defaultAssign = .ok item) : ∃ explicit,
    explicitChain? source = .ok explicit ∧ item.chain = chainOf explicit source ∧
      item.id = Entry.idOf? source ∧ item.fields = assigned item.chain defaultAssign
        (Json.eraseField "id" (Json.eraseField "chainType" source)) := by
  obtain ⟨explicit, hexplicit, h⟩ := bind_eq_ok.mp h
  cases h
  exact ⟨explicit, hexplicit, rfl, rfl, rfl⟩

/-- Sorting an element out goes by the rules, and leaves its values alone. -/
lemma Item.follows_of (h : Item.of source defaultAssign = .ok item) :
    item.Follows defaultAssign source ∧
      Json.eraseField "assignType" item.fields = values source := by
  obtain ⟨explicit, hexplicit, hchain, hid, hfields⟩ := of_eq_ok h
  have hassign : Json.lookup "assignType" item.fields = (Json.lookup "assignType" source).or
      (if item.chain = .delete then none else some (.str defaultAssign)) := by
    rw [hfields, lookup_assigned, Json.lookup_eraseField (by decide),
      Json.lookup_eraseField (by decide)]
  have hstripped : "id" ∉ item.fields.map Prod.fst ∧ "chainType" ∉ item.fields.map Prod.fst := by
    rw [hfields]
    constructor <;>
    · intro hkey
      rcases mem_keys_assigned hkey with heq | hmem
      · exact absurd heq (by decide)
      · simp [Json.mem_keys_eraseField] at hmem
  refine ⟨?_, by rw [hfields, eraseField_assigned, values_eq]⟩
  rcases explicitChain?_eq_ok hexplicit with ⟨chain, rfl, hnamed⟩ | ⟨rfl, hnone⟩
  · exact {
      named := fun name hname => by
        have hsame := hnamed.symm.trans hname
        rw [hchain]
        exact Json.str.inj (Option.some.inj hsame)
      created := fun h => absurd hnamed (h _)
      updated := fun h => absurd hnamed (h _)
      read := fun h => absurd hnamed (h _)
      id := hid
      assign := hassign
      stripped := hstripped }
  · exact {
      named := fun name hname => absurd hname (hnone name)
      created := fun _ hnoId => by simp only [hchain, chainOf, hnoId]
      updated := fun _ hsome hvalues => by
        obtain ⟨v, hv⟩ := Option.ne_none_iff_exists'.mp hsome
        simp only [hchain, chainOf, hv]
        exact if_pos (any_eq_true_iff.mpr hvalues)
      read := fun _ hsome hvalues => by
        obtain ⟨v, hv⟩ := Option.ne_none_iff_exists'.mp hsome
        simp only [hchain, chainOf, hv]
        exact if_neg fun hany => any_eq_true_iff.mp hany hvalues
      id := hid
      assign := hassign
      stripped := hstripped }

end

/-! ## Unfolding -/

/-- What is asked of the map of chains at a relation: the usual assignment, each element's fields
with the item that the element has become, and the map. -/
abbrev Arrangement : Type :=
  String → List (List (String × Json) × Item) → List (String × Json) → Prop

mutual

/-- The fields of an entity of a type and what they unfold to. -/
inductive Unfolds (schema : Schema) (rel : Arrangement) :
    String → List (String × Json) → List (String × Json) → Prop
  | nil {entityType : String} : Unfolds schema rel entityType [] []
  | cons {entityType name : String} {v w : Json} {rest others : List (String × Json)} :
    MemberUnfolds schema rel entityType name v w → Unfolds schema rel entityType rest others →
      Unfolds schema rel entityType ((name, v) :: rest) ((name, w) :: others)

/-- The value of a field and what it unfolds to. -/
inductive MemberUnfolds (schema : Schema) (rel : Arrangement) :
    String → String → Json → Json → Prop
  /-- A field that is no relation. -/
  | plain {entityType name : String} {v : Json} : schema.association? entityType name = none →
    MemberUnfolds schema rel entityType name v v
  /-- A relation with a bare id or another value that is neither a list nor an object. -/
  | bare {entityType name : String} {a : Association} {v : Json} :
    schema.association? entityType name = some a → v.items? = none → v.fields? = none →
      MemberUnfolds schema rel entityType name v v
  /-- A relation with a list: its elements are added. -/
  | list {entityType name : String} {a : Association} {elements : List Json}
    {items : List (List (String × Json) × Item)} {chains : List (String × Json)} :
    schema.association? entityType name = some a →
      ItemsUnfold schema rel a.target "addSingle" elements items → rel "addSingle" items chains →
        MemberUnfolds schema rel entityType name (.arr elements) (.obj chains)
  /-- A relation with an object: this one is set. -/
  | single {entityType name : String} {a : Association} {fields : List (String × Json)}
    {items : List (List (String × Json) × Item)} {chains : List (String × Json)} :
    schema.association? entityType name = some a →
      ItemsUnfold schema rel a.target "set" [.obj fields] items → rel "set" items chains →
        MemberUnfolds schema rel entityType name (.obj fields) (.obj chains)

/-- The elements of a relation to entities of a type and the items that they become, each with the
fields that it comes from: its values and its assignment are unfolded in their turn. -/
inductive ItemsUnfold (schema : Schema) (rel : Arrangement) :
    String → String → List Json → List (List (String × Json) × Item) → Prop
  | nil {target defaultAssign : String} : ItemsUnfold schema rel target defaultAssign [] []
  | cons {target defaultAssign : String} {v : Json} {source expanded : List (String × Json)}
    {item : Item} {elements : List Json} {items : List (List (String × Json) × Item)} :
    itemFields v = .ok source → item.Follows defaultAssign source →
      Json.eraseField "assignType" item.fields = values source →
        Unfolds schema rel target item.fields expanded →
          ItemsUnfold schema rel target defaultAssign elements items →
            ItemsUnfold schema rel target defaultAssign (v :: elements)
              ((source, ⟨item.chain, item.id, expanded⟩) :: items)

end

section

variable {schema : Schema} {rel : Arrangement} {entityType : String}
  {fields expanded : List (String × Json)}

lemma Unfolds.keys (h : Unfolds schema rel entityType fields expanded) :
    expanded.map Prod.fst = fields.map Prod.fst := by
  induction fields generalizing expanded with
  | nil =>
    cases h
    rfl
  | cons entry rest ih =>
    cases h with
    | cons _ hrest => rw [List.map_cons, List.map_cons, ih hrest]

/-- A field that is no relation is found with the value it had. -/
lemma Unfolds.lookup {name : String} (h : Unfolds schema rel entityType fields expanded)
    (hplain : schema.association? entityType name = none) :
    Json.lookup name expanded = Json.lookup name fields := by
  induction fields generalizing expanded with
  | nil =>
    cases h
    rfl
  | cons entry rest ih =>
    cases h with
    | @cons _ k v w _ others hmember hrest =>
      rw [Json.lookup_cons, Json.lookup_cons, ih hrest]
      split
      · rename_i hsame
        subst hsame
        cases hmember with
        | plain _ => rfl
        | bare ha => cases hplain.symm.trans ha
        | list ha => cases hplain.symm.trans ha
        | single ha => cases hplain.symm.trans ha
      · rfl

end

/-! ## The expansion unfolds -/

/-- The map that holds some items, put into it one after the other. -/
def Arranged (items : List Item) (chains : List (String × Json)) : Prop :=
  items.foldlM (fun chains item => place chains item item.fields) [] = .ok chains

section

variable {schema : Schema} {rel : Arrangement}

lemma depth_of_itemFields {v : Json} {source : List (String × Json)}
    (h : itemFields v = .ok source) : Json.depthFields source ≤ v.depth - 1 := by
  unfold itemFields at h
  split at h <;> cases h <;> simp [Json.depth, Json.depthFields]

/-- Sorting out does not add depth. -/
lemma depth_of_item {source : List (String × Json)} {defaultAssign : String} {item : Item}
    (h : Item.of source defaultAssign = .ok item) :
    Json.depthFields item.fields ≤ Json.depthFields source := by
  obtain ⟨-, -, -, -, hfields⟩ := of_eq_ok h
  have hrest : Json.depthFields (Json.eraseField "id" (Json.eraseField "chainType" source)) ≤
      Json.depthFields source :=
    (Json.depthFields_eraseField_le _ _).trans (Json.depthFields_eraseField_le _ _)
  rw [hfields, assigned]
  split
  · refine Json.depthFields_le.mpr fun entry hentry => ?_
    rcases Json.mem_insertField hentry with rfl | hmem
    · exact Nat.zero_le _
    · exact (Json.depthFields_le.mp (Nat.le_refl _) entry hmem).trans hrest
  · exact hrest

/-- The elements of a relation unfold into items, which are arranged on top of what the map holds
already, if the fields of each of them unfold. -/
lemma itemsUnfold_of_foldlM {next : List (String × Json) → Except Fault (List (String × Json))}
    {target defaultAssign : String} {depth : Nat} (hdepth : 0 < depth)
    (hnext : ∀ fields expanded, Json.depthFields fields < depth → next fields = .ok expanded →
      Unfolds schema rel target fields expanded)
    {elements : List Json} (helements : ∀ v ∈ elements, v.depth ≤ depth)
    {before after : List (String × Json)}
    (h : elements.foldlM (fun chains v => do
      let item ← Item.of (← itemFields v) defaultAssign
      place chains item (← next item.fields)) before = .ok after) :
    ∃ items, ItemsUnfold schema rel target defaultAssign elements items ∧
      (items.map Prod.snd).foldlM (fun chains item => place chains item item.fields) before =
        .ok after := by
  induction elements generalizing before with
  | nil => exact ⟨[], .nil, h⟩
  | cons v rest ih =>
    rw [List.foldlM_cons] at h
    obtain ⟨between, hstep, hrest⟩ := bind_eq_ok.mp h
    obtain ⟨source, hsource, hstep⟩ := bind_eq_ok.mp hstep
    obtain ⟨item, hitem, hstep⟩ := bind_eq_ok.mp hstep
    obtain ⟨expanded, hexpanded, hplace⟩ := bind_eq_ok.mp hstep
    obtain ⟨hv, hothers⟩ := List.forall_mem_cons.mp helements
    obtain ⟨items, hitems, hfold⟩ := ih hothers hrest
    obtain ⟨hfollows, hvalues⟩ := Item.follows_of hitem
    have hshallow : Json.depthFields item.fields < depth := by
      have hsourceDepth := depth_of_itemFields hsource
      have hitemDepth := depth_of_item hitem
      omega
    have hunfolds := hnext _ _ hshallow hexpanded
    refine ⟨(source, ⟨item.chain, item.id, expanded⟩) :: items,
      .cons hsource hfollows hvalues hunfolds hitems, ?_⟩
    -- an item is placed by its chain and its id, whatever its fields are
    have hplaced : place before ⟨item.chain, item.id, expanded⟩ expanded = .ok between := hplace
    rw [List.map_cons, List.foldlM_cons, hplaced]
    exact hfold

variable (hrel : ∀ {target defaultAssign : String} {elements : List Json}
  {items : List (List (String × Json) × Item)} {chains : List (String × Json)},
  ItemsUnfold schema rel target defaultAssign elements items →
    Arranged (items.map Prod.snd) chains → rel defaultAssign items chains)

include hrel in
/-- The value of a relation unfolds if the fields of its elements do. -/
lemma memberUnfolds_of_expandRelation {entityType name : String} {a : Association}
    (ha : schema.association? entityType name = some a) {depth : Nat}
    {next : List (String × Json) → Except Fault (List (String × Json))}
    (hnext : ∀ fields expanded, Json.depthFields fields < depth → next fields = .ok expanded →
      Unfolds schema rel a.target fields expanded)
    {v w : Json} (hdepth : v.depth ≤ depth) (h : expandRelation next v = .ok w) :
    MemberUnfolds schema rel entityType name v w := by
  cases v with
  | arr elements =>
    rw [Json.depth] at hdepth
    obtain ⟨chains, hchains, h⟩ := bind_eq_ok.mp h
    cases h
    have helements : ∀ u ∈ elements, u.depth ≤ depth := fun u hu =>
      (Json.depth_le_depthItems hu).trans (Nat.le_of_succ_le hdepth)
    obtain ⟨items, hitems, harranged⟩ :=
      itemsUnfold_of_foldlM (by omega) hnext helements hchains
    exact .list ha hitems (hrel hitems harranged)
  | obj source =>
    obtain ⟨chains, hchains, h⟩ := bind_eq_ok.mp h
    cases h
    have hpositive : 0 < depth := Nat.lt_of_lt_of_le (Nat.succ_pos _) hdepth
    have helements : ∀ u ∈ [Json.obj source], u.depth ≤ depth := by simpa using hdepth
    obtain ⟨items, hitems, harranged⟩ := itemsUnfold_of_foldlM hpositive hnext helements hchains
    exact .single ha hitems (hrel hitems harranged)
  | null =>
    cases h
    exact .bare ha rfl rfl
  | bool b =>
    cases h
    exact .bare ha rfl rfl
  | num n =>
    cases h
    exact .bare ha rfl rfl
  | str s =>
    cases h
    exact .bare ha rfl rfl

include hrel in
/-- The expansion unfolds the fields of an entity, down to any depth, if arranging the items of a
relation makes the map that is asked for. -/
theorem unfolds_of_expandFields : ∀ (depth : Nat) (entityType : String)
    {fields expanded : List (String × Json)}, Json.depthFields fields < depth →
      expandFields schema depth entityType fields = .ok expanded →
        Unfolds schema rel entityType fields expanded
  | 0, _, _, _, hdepth, _ => nomatch hdepth
  | depth + 1, entityType, fields, expanded, hdepth, h => by
    rw [expandFields] at h
    -- the depth goes down at a relation only, so its fields are gone through at one depth
    induction fields generalizing expanded with
    | nil =>
      cases h
      exact .nil
    | cons entry rest ih =>
      obtain ⟨name, v⟩ := entry
      rw [Json.depthFields] at hdepth
      obtain ⟨member, hmember, others, hothers, rfl⟩ := mapM_cons_eq_ok.mp h
      have hrest := ih others (by omega) hothers
      dsimp only at hmember
      split at hmember
      · rename_i a ha
        obtain ⟨w, hw, hmember⟩ := bind_eq_ok.mp hmember
        cases hmember
        have hv : v.depth ≤ depth := by omega
        exact .cons (memberUnfolds_of_expandRelation hrel ha
          (fun _ _ => unfolds_of_expandFields depth a.target) hv hw) hrest
      · rename_i hplain
        cases hmember
        exact .cons (.plain hplain) hrest

end

end Simplified

end EntityGate
