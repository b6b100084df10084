/-
# Query pairs are decoded as they were encoded

The decoder goes through the pairs once.  It gathers the values of a key wherever they stand, and
the keys of conditions are all different, so nothing of one condition reaches another; the keys of
orders, groups, placeholders and options begin like that of no condition.  So what has been
collected at the end is what the options were made of, part by part.
-/
import EntityGate.Proofs.Encoding

namespace EntityGate

open Decision

namespace GetParams

/-! ## What the decoder collects -/

section

variable {collected : Collected}

lemma collect_condition {pair : String × String} {parts : ConditionKey}
    (h : conditionKey? (plainKey pair.1) = some parts) :
    let name := String.ofList (plainKey pair.1)
    let found := (collected.conditions.get? name).getD (parts, [])
    collect collected pair = { collected with
      conditions := collected.conditions.insert name (found.1, found.2 ++ [pair.2]) } := by
  rw [collect]
  simp only [h]

/-- Pairs under one new key that is a condition's make up one condition. -/
lemma foldl_collect_condition {key : List Char} {parts : ConditionKey}
    (hkey : conditionKey? key = some parts) {pairs : List (String × String)} (hne : pairs ≠ [])
    (hpairs : ∀ pair ∈ pairs, plainKey pair.1 = key)
    (hnew : String.ofList key ∉ collected.conditions.keys) :
    pairs.foldl collect collected = { collected with
      conditions := collected.conditions.insert (String.ofList key)
        (parts, pairs.map Prod.snd) } := by
  -- from the end, since a value goes behind those collected before
  induction pairs using List.reverseRecOn with
  | nil => exact absurd rfl hne
  | append_singleton front pair ih =>
    have hpair : plainKey pair.1 = key := hpairs pair (by simp)
    have hfront : ∀ pair ∈ front, plainKey pair.1 = key := fun p hp => hpairs p (by simp [hp])
    rw [List.foldl_append, List.foldl_cons, List.foldl_nil, List.map_append]
    by_cases hempty : front = []
    · subst hempty
      have hnone : collected.conditions.get? (String.ofList key) = none :=
        Table.lookup_eq_none_of_notMem hnew
      rw [List.foldl_nil, collect_condition (by rw [hpair, hkey]), hpair, hnone]
      rfl
    · rw [ih hempty hfront, collect_condition (by rw [hpair, hkey]), hpair]
      dsimp only
      rw [Table.get?_insert, if_pos rfl, Table.insert_insert]
      rfl

/-- What is collected of a condition. -/
def collectedOf (scheme : Scheme) (i : Nat) (having : Bool) (c : Condition) :
    String × ConditionKey × List String :=
  (String.ofList (keyOf scheme i having c),
    ⟨c.connective, having, c.operator, fieldOf (subject scheme i c)⟩, textsOf c)

section

variable {field : Option String} {connective : Connective} {operator : Operator}
  {arguments : List Json} {conditions : List Condition}

lemma textsOf_group (h : operator.isCombinator = true) :
    textsOf ⟨field, connective, operator.name, arguments, conditions⟩ =
      [(Json.arr (Condition.toJsonItems conditions)).compact] := by
  cases operator <;> first | rfl | exact absurd h (by decide)

lemma textsOf_null (h : operator = .isNull ∨ operator = .isNotNull) :
    textsOf ⟨field, connective, operator.name, arguments, conditions⟩ = [""] := by
  rcases h with rfl | rfl <;> rfl

lemma textsOf_test (hcombinator : operator.isCombinator = false) (hnull : operator ≠ .isNull)
    (hnotNull : operator ≠ .isNotNull) :
    textsOf ⟨field, connective, operator.name, arguments, conditions⟩ =
      arguments.map Json.textOrCompact := by
  cases operator <;> first | rfl | exact absurd rfl hnull | exact absurd rfl hnotNull |
    exact absurd hcombinator (by decide)

end

/-- A condition that can be encoded has a text. -/
lemma Encodable.texts {c : Condition} (h : Encodable c) : textsOf c ≠ [] := by
  cases h with
  | group _ hcombinator _ => rw [textsOf_group hcombinator]; exact List.cons_ne_nil _ _
  | null _ hnull _ => rw [textsOf_null hnull]; exact List.cons_ne_nil _ _
  | test _ hcombinator hnull hnotNull _ hne _ =>
    rw [textsOf_test hcombinator hnull hnotNull]
    simpa using hne

/-- Conditions with numbers of their own are collected one by one. -/
lemma foldl_collect_conditions {scheme : Scheme} {conditions : List ((Bool × Condition) × Nat)}
    (hconditions : ∀ p ∈ conditions, Encodable p.1.2) (hnodup : (conditions.map Prod.snd).Nodup)
    (hnew : ∀ p ∈ conditions, String.ofList (keyOf scheme p.2 p.1.1 p.1.2) ∉
      collected.conditions.keys) :
    (conditions.flatMap fun p => pairsOf scheme p.2 p.1.1 p.1.2).foldl collect collected =
      { collected with
        conditions := (conditions.map fun p => collectedOf scheme p.2 p.1.1 p.1.2).foldl
          (fun t (k, v) => t.insert k v) collected.conditions } := by
  induction conditions generalizing collected with
  | nil => rfl
  | cons p rest ih =>
    obtain ⟨⟨having, c⟩, i⟩ := p
    obtain ⟨hc, hrest⟩ := List.forall_mem_cons.mp hconditions
    obtain ⟨hi, hdistinct⟩ := List.nodup_cons.mp hnodup
    obtain ⟨hfresh, hfreshRest⟩ := List.forall_mem_cons.mp hnew
    have hne : pairsOf scheme i having c ≠ [] := by
      intro hnil
      have hmap : (pairsOf scheme i having c).map Prod.snd = textsOf c := map_snd_pairsOf i having
      rw [hnil] at hmap
      exact hc.texts hmap.symm
    rw [List.flatMap_cons, List.foldl_append, foldl_collect_condition
      (conditionKey?_keyOf hc i having) hne (fun _ => mem_pairsOf) hfresh, map_snd_pairsOf,
      ih hrest hdistinct]
    · rfl
    · -- a key that was collected before is no other condition's: their numbers differ
      intro q hq hmem
      rcases Table.mem_keys_insert.mp hmem with hold | hlast
      · exact hfreshRest q hq hold
      · have hkeys : keyOf scheme q.2 q.1.1 q.1.2 = keyOf scheme i having c := by
          simpa [String.ofList_inj] using hlast
        exact hi (List.mem_map.mpr ⟨q, hq, keyOf_inj hkeys⟩)

/-- Conditions with numbers of their own are collected under keys of their own. -/
lemma nodup_collectedOf {scheme : Scheme} {conditions : List ((Bool × Condition) × Nat)}
    (hnodup : (conditions.map Prod.snd).Nodup) :
    ((conditions.map fun p => collectedOf scheme p.2 p.1.1 p.1.2).map Prod.fst).Nodup := by
  rw [List.map_map]
  refine List.pairwise_map.mpr ((List.pairwise_map.mp hnodup).imp fun {p q} hne hkeys => hne ?_)
  exact keyOf_inj (String.ofList_inj.mp hkeys)

/-! ### Other pairs -/

/-- A key that begins like that of no condition is none. -/
lemma conditionKey?_other (word : String) (hand : ∀ cs, after? "and_" (word.toList ++ cs) = none)
    (hor : ∀ cs, after? "or_" (word.toList ++ cs) = none) (cs : List Char) :
    conditionKey? (word.toList ++ cs) = none := by
  rw [conditionKey?, hand, hor]
  rfl

lemma plainKey_append {word : String} {cs : List Char} (hcs : cs ≠ [])
    (h : cs.getLast? ≠ some ']') : plainKey (word ++ String.ofList cs) = word.toList ++ cs := by
  have hlist : (word ++ String.ofList cs).toList = word.toList ++ cs := by
    rw [String.toList_append, String.toList_ofList]
  rw [plainKey_eq_self, hlist]
  rw [hlist]
  refine not_brackets_of_getLast? ?_
  rwa [List.getLast?_append_of_ne_nil _ hcs]

lemma collect_order {entry : String × String} (h : Field.WellFormed entry.1) :
    collect collected (orderPair entry) =
      { collected with orderBy := collected.orderBy.insert entry.1 entry.2 } := by
  have hkey : plainKey (orderPair entry).1 = "orderBy_".toList ++ dashed entry.1 := by
    obtain ⟨hne, hchars⟩ := dashed_chars h
    refine plainKey_append hne fun hlast => ?_
    rcases hchars _ (List.mem_of_getLast? hlast) with heq | hword
    · exact absurd heq (by decide)
    · exact absurd hword (by decide)
  have hnone := conditionKey?_other "orderBy_" (fun _ => rfl) (fun _ => rfl) (dashed entry.1)
  rw [collect]
  simp only [hkey, hnone, after?_append, fieldOf_dashed h]
  rfl

lemma collect_group {field : String} (h : Field.WellFormed field) :
    collect collected ("groupBy[]", field) =
      { collected with groupBy := collected.groupBy ++ [field] } := by
  have hkey : plainKey "groupBy[]" = "groupBy".toList := rfl
  have hnone : conditionKey? "groupBy".toList = none := rfl
  have horder : after? "orderBy_" "groupBy".toList = none := rfl
  rw [collect]
  simp only [hkey, hnone, horder, fieldOf_toList h, if_pos]

/-- The name of a placeholder is told from its type by the first underscore. -/
lemma placeholderKey_append {name : String} (h : '_' ∉ name.toList) (paramType : Option String) :
    placeholderKey (name.toList ++ ((paramType.map fun t => "_" ++ t).getD "").toList) =
      (name, paramType) := by
  have hall : ∀ c ∈ name.toList, decide (c ≠ '_') = true := by
    intro c hc
    refine decide_eq_true ?_
    rintro rfl
    exact h hc
  rw [placeholderKey, Text.cutFirst?]
  simp only [String.toList_ofList]
  cases paramType with
  | none =>
    have hnone : ((Option.map (fun t => "_" ++ t) none).getD "").toList = [] := rfl
    rw [hnone, List.dropWhile_append_of_pos hall, List.append_nil]
    exact congrArg (fun s => (s, none)) String.ofList_toList
  | some t =>
    have htype : ((Option.map (fun t => "_" ++ t) (some t)).getD "").toList = '_' :: t.toList := by
      simp
    rw [htype, List.dropWhile_append_of_pos hall, List.takeWhile_append_of_pos hall,
      List.dropWhile_cons_of_neg (by simp), List.takeWhile_cons_of_neg (by simp), List.append_nil]
    simp only [String.ofList_toList]

lemma collect_placeholder {entry : String × FrontEndPlaceholder} (hname : '_' ∉ entry.1.toList)
    (hend : ¬ ['[', ']'] <:+ (placeholderPair entry).1.toList)
    (hvalue : Argument entry.2.value) : collect collected (placeholderPair entry) =
      { collected with placeholders := collected.placeholders.insert entry.1 entry.2 } := by
  obtain ⟨name, value, paramType⟩ := entry
  let rest := name.toList ++ ((paramType.map fun t => "_" ++ t).getD "").toList
  have hkey : plainKey (placeholderPair (name, ⟨value, paramType⟩)).1 =
      "placeholder_".toList ++ rest := by
    rw [plainKey_eq_self hend, placeholderPair, String.append_assoc, String.toList_append,
      String.toList_append]
  have hnone := conditionKey?_other "placeholder_" (fun _ => rfl) (fun _ => rfl) rest
  have horder : after? "orderBy_" ("placeholder_".toList ++ rest) = none := rfl
  have hgroup : "placeholder_".toList ++ rest ≠ "groupBy".toList := nofun
  rw [collect]
  simp only [hkey, hnone, horder, if_neg hgroup, after?_append, placeholderKey_append hname, rest]
  have hscalar : scalar (placeholderPair (name, ⟨value, paramType⟩)).2 = value := hvalue.scalar
  rw [hscalar]

lemma collect_option {entry : String × Json} (hname : entry.1 ∈ RequestOptions.partNames)
    (hvalue : Argument entry.2) : collect collected (optionPair entry) =
      { collected with options := Json.insertField entry.1 entry.2 collected.options } := by
  obtain ⟨name, value⟩ := entry
  have hplain : ∀ name ∈ RequestOptions.partNames, name.toList ≠ [] ∧
      name.toList.getLast? ≠ some ']' := by decide
  have hkey : plainKey (optionPair (name, value)).1 = "option_".toList ++ name.toList := by
    have happend : plainKey ("option_" ++ String.ofList name.toList) =
        "option_".toList ++ name.toList :=
      plainKey_append (hplain name hname).1 (hplain name hname).2
    rwa [String.ofList_toList] at happend
  have hnone := conditionKey?_other "option_" (fun _ => rfl) (fun _ => rfl) name.toList
  have horder : after? "orderBy_" ("option_".toList ++ name.toList) = none := rfl
  have hgroup : "option_".toList ++ name.toList ≠ "groupBy".toList := nofun
  have hplaceholder : after? "placeholder_" ("option_".toList ++ name.toList) = none := rfl
  rw [collect]
  simp only [hkey, hnone, horder, if_neg hgroup, hplaceholder, after?_append, String.ofList_toList]
  have hscalar : scalar (optionPair (name, value)).2 = value := hvalue.scalar
  rw [hscalar]

/-- A loop over pairs that all go to one place. -/
lemma foldl_collect {α β : Type} (put : β → Collected) {pair : α → String × String}
    {f : β → α → β} {l : List α} (h : ∀ b, ∀ a ∈ l, collect (put b) (pair a) = put (f b a))
    (b : β) : (l.map pair).foldl collect (put b) = put (l.foldl f b) := by
  induction l generalizing b with
  | nil => rfl
  | cons a rest ih =>
    rw [List.map_cons, List.foldl_cons, List.foldl_cons, h b a List.mem_cons_self]
    exact ih (fun b a ha => h b a (List.mem_cons_of_mem _ ha)) (f b a)

lemma foldl_collect_orders {entries : List (String × String)}
    (h : ∀ entry ∈ entries, Field.WellFormed entry.1) :
    (entries.map orderPair).foldl collect collected = { collected with
      orderBy := entries.foldl (fun t (k, v) => t.insert k v) collected.orderBy } :=
  foldl_collect (fun t => { collected with orderBy := t })
    (fun _ entry hentry => collect_order (h entry hentry)) collected.orderBy

lemma foldl_collect_groups {fields : List String} (h : ∀ field ∈ fields, Field.WellFormed field) :
    (fields.map fun field => ("groupBy[]", field)).foldl collect collected =
      { collected with groupBy := collected.groupBy ++ fields } := by
  induction fields generalizing collected with
  | nil => simp
  | cons field rest ih =>
    obtain ⟨hfield, hrest⟩ := List.forall_mem_cons.mp h
    rw [List.map_cons, List.foldl_cons, collect_group hfield, ih hrest]
    simp

lemma foldl_collect_placeholders {entries : List (String × FrontEndPlaceholder)}
    (h : ∀ entry ∈ entries, '_' ∉ entry.1.toList ∧
      ¬ ['[', ']'] <:+ (placeholderPair entry).1.toList ∧ Argument entry.2.value) :
    (entries.map placeholderPair).foldl collect collected = { collected with
      placeholders := entries.foldl (fun t (k, v) => t.insert k v) collected.placeholders } :=
  foldl_collect (fun t => { collected with placeholders := t })
    (fun _ entry hentry =>
      collect_placeholder (h entry hentry).1 (h entry hentry).2.1 (h entry hentry).2.2)
    collected.placeholders

lemma foldl_collect_options {fields : List (String × Json)}
    (h : ∀ entry ∈ fields, entry.1 ∈ RequestOptions.partNames ∧ Argument entry.2) :
    (fields.map optionPair).foldl collect collected = { collected with
      options := fields.foldl (fun acc (k, v) => Json.insertField k v acc) collected.options } :=
  foldl_collect (fun options => { collected with options := options })
    (fun _ entry hentry => collect_option (h entry hentry).1 (h entry hentry).2) collected.options

end

/-! ## Decoding what was encoded -/

/-- What is collected of a condition makes it up again. -/
lemma condition_texts {c : Condition} (h : Encodable c) (key : String) (having : Bool)
    {field : String} (hfield : ∀ f, c.field = some f → field = f) :
    condition key ⟨c.connective, having, c.operator, field⟩ (textsOf c) = .ok c := by
  cases h with
  | @group connective operator conditions _ hcombinator hlegible =>
    have hread : Json.read? (Json.arr (Condition.toJsonItems conditions)).compact =
        some (.arr (Condition.toJsonItems conditions)) := by
      rw [Json.read?_compact hlegible.whole, if_pos hlegible.depth]
    have hitems : Shape.list Condition.ofJson? (.arr (Condition.toJsonItems conditions)) =
        some conditions := by
      have hcanonical := hlegible.canonical.of_arr
      rw [Condition.toJsonItems_eq_map] at hcanonical
      rw [Shape.list, Condition.toJsonItems_eq_map, List.mapM_map]
      exact (mapM_eq_some (g := id) fun c hc => Condition.ofJson?_toJson c
        (hcanonical _ (List.mem_map_of_mem hc))).trans (congrArg some (List.map_id _))
    have hof : Operator.ofName operator.name = .ok operator := Operator.ofName_eq_ok.mpr rfl
    rw [textsOf_group hcombinator, condition, hof, ok_bind]
    cases operator <;> first
      | exact absurd hcombinator (by decide)
      | simp only [List.headD_cons, hread, Option.bind_some, hitems]; rfl
  | @null connective operator f _ hnull _ =>
    rw [hfield f rfl, textsOf_null hnull, condition]
    rcases hnull with rfl | rfl <;> rfl
  | @test connective operator f arguments _ hcombinator hnull hnotNull _ _ harguments =>
    have hvalues : (arguments.map Json.textOrCompact).map scalar = arguments := by
      rw [List.map_map]
      exact (List.map_congr_left fun v hv => (harguments v hv).scalar).trans (List.map_id _)
    have hof : Operator.ofName operator.name = .ok operator := Operator.ofName_eq_ok.mpr rfl
    rw [hfield f rfl, textsOf_test hcombinator hnull hnotNull, condition, hof, ok_bind]
    cases operator <;> first
      | exact absurd rfl hnull
      | exact absurd rfl hnotNull
      | exact absurd hcombinator (by decide)
      | simp only [hvalues]; rfl

lemma map_fst_numbered (q : FrontEndQuery) : (numbered q).map Prod.fst =
    q.conditions.map (Prod.mk false) ++ q.having.map (Prod.mk true) := by
  rw [numbered, List.zipIdx_map_fst]

lemma nodup_numbered (q : FrontEndQuery) : ((numbered q).map Prod.snd).Nodup := by
  rw [numbered, List.zipIdx_map_snd]
  exact List.nodup_range'

/-- The conditions are told apart by clause again. -/
lemma clauses (q : FrontEndQuery) :
    ((((numbered q).map Prod.fst).filter fun p => !p.1).map Prod.snd = q.conditions) ∧
      ((((numbered q).map Prod.fst).filter fun p => p.1).map Prod.snd = q.having) := by
  rw [map_fst_numbered]
  constructor <;> simp [List.filter_map, Function.comp_def]

lemma encodable_of_numbered {o : FrontEndOptions} (h : o.Encodable) :
    ∀ p ∈ numbered o.query, Encodable p.1.2 := by
  intro p hp
  have hmem : p.1 ∈ (numbered o.query).map Prod.fst := List.mem_map_of_mem hp
  rw [map_fst_numbered, List.mem_append, List.mem_map, List.mem_map] at hmem
  rcases hmem with ⟨c, hc, heq⟩ | ⟨c, hc, heq⟩
  · rw [← heq]
    exact h.conditions c hc
  · rw [← heq]
    exact h.having c hc

/-- The options that are written have names and values that can be encoded. -/
lemma option_fields {o : FrontEndOptions} (h : o.Encodable) {fields : List (String × Json)}
    (hfields : o.options.toJson = .obj fields) : Increasing fields ∧
      ∀ entry ∈ fields, entry.1 ∈ RequestOptions.partNames ∧ Argument entry.2 := by
  have hbool : ∀ {name : String} {b : Option Bool}, name ∈ RequestOptions.partNames →
      ∀ entry ∈ Json.writeOption name .bool b,
        entry.1 ∈ RequestOptions.partNames ∧ Argument entry.2 := by
    intro name b hname entry hentry
    cases b with
    | none => cases hentry
    | some b =>
      rw [List.mem_singleton.mp hentry]
      exact ⟨hname, .bool b⟩
  have hnat : ∀ {name : String} {n : Option Nat}, (∀ m ∈ n, Number.FitsWord m) →
      name ∈ RequestOptions.partNames → ∀ entry ∈ Json.writeOption name .nat n,
        entry.1 ∈ RequestOptions.partNames ∧ Argument entry.2 := by
    intro name n hn hname entry hentry
    cases n with
    | none => cases hentry
    | some n =>
      rw [List.mem_singleton.mp hentry]
      exact ⟨hname, .int (hn n rfl)⟩
  rw [RequestOptions.toJson, Json.ofFields_eq] at hfields
  cases hfields
  refine ⟨Json.increasing_sortedFields _, fun entry hentry => ?_⟩
  have hmem := Json.mem_sortedFields hentry
  simp only [List.mem_append, or_assoc] at hmem
  rcases hmem with hmem | hmem | hmem | hmem | hmem
  · exact hbool (by decide) entry hmem
  · exact hnat h.limit (by decide) entry hmem
  · exact hnat h.offset (by decide) entry hmem
  · exact hbool (by decide) entry hmem
  · exact hbool (by decide) entry hmem

/-- What is collected of front-end options that were encoded. -/
lemma foldl_encode {scheme : Scheme} {o : FrontEndOptions} (h : o.Encodable)
    {fields : List (String × Json)} (hfields : o.options.toJson = .obj fields) :
    (encode scheme o).foldl collect default =
      ⟨.ofList ((numbered o.query).map fun p => collectedOf scheme p.2 p.1.1 p.1.2),
        o.query.orderBy, o.query.groupBy, o.query.placeholders, fields⟩ := by
  obtain ⟨hincreasing, hoptions⟩ := option_fields h hfields
  have horders : ∀ entry ∈ o.query.orderBy.entries, Field.WellFormed entry.1 := fun entry hentry =>
    h.orders entry.1 (List.mem_map_of_mem hentry)
  have hconditions := @foldl_collect_conditions default scheme _ (encodable_of_numbered h)
    (nodup_numbered o.query) fun _ _ => List.not_mem_nil
  have hgetD : o.options.toJson.fields?.getD [] = fields := by rw [hfields]; rfl
  rw [encode, hgetD, List.foldl_append, List.foldl_append, List.foldl_append, List.foldl_append]
  show List.foldl _ (List.foldl _ (List.foldl _ (List.foldl _ (((numbered o.query).flatMap
    fun p => pairsOf scheme p.2 p.1.1 p.1.2).foldl collect default) _) _) _) _ = _
  rw [hconditions, foldl_collect_orders horders, foldl_collect_groups h.groups,
    foldl_collect_placeholders h.placeholders, foldl_collect_options hoptions]
  have hsorted : fields.foldl (fun acc (k, v) => Json.insertField k v acc) [] = fields :=
    Json.sortedFields_of_increasing hincreasing
  have horderBy : o.query.orderBy.entries.foldl (fun t (k, v) => t.insert k v) Table.empty =
      o.query.orderBy := Table.ofList_entries (Table.nodup _)
  have hplaceholders : o.query.placeholders.entries.foldl (fun t (k, v) => t.insert k v)
      Table.empty = o.query.placeholders := Table.ofList_entries (Table.nodup _)
  show Collected.mk _ (List.foldl _ Table.empty _) ([] ++ _) (List.foldl _ Table.empty _)
    (List.foldl _ [] _) = _
  rw [hsorted, horderBy, hplaceholders]
  rfl

/-- The conditions are made up again in order, each with its clause. -/
lemma mapM_condition {scheme : Scheme} {o : FrontEndOptions} (h : o.Encodable) :
    ((numbered o.query).map fun p => collectedOf scheme p.2 p.1.1 p.1.2).mapM
      (fun (key, parts, values) => do return (parts.having, ← condition key parts values)) =
        .ok ((numbered o.query).map Prod.fst) := by
  rw [List.mapM_map]
  refine mapM_eq_ok_map fun p hp => ?_
  have hc := encodable_of_numbered h p hp
  have hfield : ∀ f, p.1.2.field = some f → fieldOf (subject scheme p.2 p.1.2) = f := by
    intro f hf
    rw [subject, hf]
    exact fieldOf_dashed (hc.field f hf)
  show (condition _ _ _ >>= _) = _
  rw [condition_texts hc _ _ hfield]
  rfl

/-- Decoding undoes encoding, for front-end options that can be encoded; and the request is marked
as one of query pairs. -/
theorem decode_encode (scheme : Scheme) {o : FrontEndOptions} (h : o.Encodable) :
    decode (encode scheme o) =
      .ok { o with options := { o.options with useGetParams := some true } } := by
  obtain ⟨fields, hfields⟩ : ∃ fields, o.options.toJson = .obj fields := ⟨_, rfl⟩
  have hoptions : options fields = .ok o.options := by
    have hread := RequestOptions.ofJson?_toJson o.options
    rw [hfields] at hread
    rw [options, hread]
    cases fields with
    | nil => exact congrArg _ (Option.some.inj hread)
    | cons entry rest => rfl
  obtain ⟨hwhere, hhaving⟩ := clauses o.query
  rw [decode, foldl_encode h hfields, Table.ofList_entries (nodup_collectedOf
    (nodup_numbered o.query))]
  dsimp only
  rw [mapM_condition h, ok_bind, hoptions, ok_bind, hwhere, hhaving]
  rfl

/-- Conditions that are numbered in decimal, with one label for all combinations. -/
def Scheme.decimal : Scheme where
  suffix := Nat.toDigits 10
  label _ := "group".toList
  digits _ := ⟨Nat.toDigits_ne_nil, fun _ => Nat.isDigit_of_mem_toDigits (by decide) (by decide)⟩
  distinct {i j} h := by
    have hvalue := congrArg (fun digits => Nat.ofDigitChars 10 digits 0) h
    simpa using hvalue
  words _ := ⟨by decide, List.all_eq_true.mp (by decide)⟩

/-- The genres of which more than some number was sold, with the albums that have a label. -/
def soldGenres : FrontEndOptions where
  query := {
    conditions := [⟨some "t.genre_2", .and, "in", [.str "folk", .int 7], []⟩,
      ⟨none, .or, "orX", [], [⟨some "t.label", .and, "isNotNull", [], []⟩]⟩]
    having := [⟨some "t.sold", .and, "gt", [.int (-1)], []⟩]
    orderBy := .ofList [("t.name", "DESC")]
    groupBy := ["t.genre_2"]
    placeholders := .ofList [("owner", ⟨.bool true, some "user_id"⟩)] }
  options := { (default : RequestOptions) with limit := some 10 }

lemma soldGenres_encodable : soldGenres.Encodable where
  conditions := by
    refine List.forall_mem_cons.mpr ⟨?_, List.forall_mem_singleton.mpr ?_⟩
    · have hfolk : Json.read? "folk" = none := by decide
      refine @Encodable.test .and .isIn "t.genre_2" [.str "folk", .int 7] (by decide) rfl
        (by decide) (by decide) (Field.isQualified_iff.mp (by decide)) (List.cons_ne_nil _ _) ?_
      refine List.forall_mem_cons.mpr ⟨.text ?_ ?_, List.forall_mem_singleton.mpr ?_⟩
      · rw [hfolk]
        exact fun _ => nofun
      · rw [hfolk]
        exact fun _ => nofun
      · exact .int (by decide)
    · exact @Encodable.group .or .orX _ (by decide) rfl ⟨rfl, by decide, by decide⟩
  having := List.forall_mem_singleton.mpr <|
    @Encodable.test .and .gt "t.sold" [.int (-1)] (by decide) rfl (by decide) (by decide)
      (Field.isQualified_iff.mp (by decide)) (List.cons_ne_nil _ _)
      (List.forall_mem_singleton.mpr (.int (by decide)))
  orders := List.forall_mem_singleton.mpr (Field.isQualified_iff.mp (by decide))
  groups := List.forall_mem_singleton.mpr (Field.isQualified_iff.mp (by decide))
  placeholders := List.forall_mem_singleton.mpr ⟨by decide, by decide, .bool true⟩
  limit := by
    rintro n ⟨⟩
    decide
  offset := nofun

theorem soldGenres_decoded : soldGenres.Encodable ∧
    encode .decimal soldGenres = [("and_where_in_t-genre_2_0[]", "folk"),
      ("and_where_in_t-genre_2_0[]", "7"),
      ("or_where_orX_group_1",
        "[\x7b\"field\":\"t.label\",\"operator\":\"isNotNull\",\"type\":\"and\"\x7d]"),
      ("and_having_gt_t-sold_2", "-1"), ("orderBy_t-name", "DESC"), ("groupBy[]", "t.genre_2"),
      ("placeholder_owner_user_id", "true"), ("option_limit", "10")] ∧
    decode (encode .decimal soldGenres) = .ok { soldGenres with
      options := { soldGenres.options with useGetParams := some true } } :=
  ⟨soldGenres_encodable, by decide, decode_encode .decimal soldGenres_encodable⟩

/-! ## What is not decoded as it was encoded -/

/-- A test inside of combinations of one condition each. -/
def nested : Nat → Condition
  | 0 => ⟨some "t.name", .and, "isNull", [], []⟩
  | n + 1 => ⟨none, .and, "andX", [], [nested n]⟩

lemma toJson_nested_succ (n : Nat) : (nested (n + 1)).toJson =
    .obj [("conditions", .arr [(nested n).toJson]), ("operator", .str "andX"),
      ("type", .str "and")] := rfl

/-- Each combination nests a list in an object. -/
lemma toJson_nested (n : Nat) :
    (nested n).toJson.isWhole = true ∧ (nested n).toJson.depth = 2 * n + 1 := by
  induction n with
  | zero => exact ⟨rfl, rfl⟩
  | succ n ih =>
    rw [toJson_nested_succ]
    simp [Json.isWhole, Json.isWholeFields, Json.isWholeItems, Json.depth, Json.depthFields,
      Json.depthItems, ih]
    omega

lemma isWhole_singleton {v : Json} (h : v.isWhole = true) :
    (Json.arr [v]).isWhole = true ∧ (Json.arr [v]).depth = v.depth + 1 := by
  simp [Json.isWhole, Json.isWholeItems, Json.depth, Json.depthItems, h]

lemma decode_unreadable {text : String} (h : Json.read? text = none) :
    decode [("and_where_andX_group_0", text)] =
      .error (.invalidParams (.conditionsExpected "and_where_andX_group_0")) := by
  have hcollected : [("and_where_andX_group_0", text)].foldl collect default =
      ⟨.ofList [("and_where_andX_group_0", ⟨.and, false, "andX", "group"⟩, [text])], .empty, [],
        .empty, []⟩ := by
    have hkey : conditionKey? (plainKey "and_where_andX_group_0") =
        some ⟨.and, false, "andX", "group"⟩ := rfl
    have hname : String.ofList (plainKey "and_where_andX_group_0") = "and_where_andX_group_0" := rfl
    have hcollect := @collect_condition default ("and_where_andX_group_0", text) _ hkey
    rw [List.foldl_cons, List.foldl_nil, hcollect, hname]
    rfl
  have hcondition : condition "and_where_andX_group_0" ⟨.and, false, "andX", "group"⟩ [text] =
      .error (.invalidParams (.conditionsExpected "and_where_andX_group_0")) := by
    have hof : Operator.ofName "andX" = .ok .andX := rfl
    rw [condition, hof, ok_bind]
    simp only [List.headD_cons, h, Option.bind_none]
    rfl
  rw [decode, hcollected]
  dsimp only
  rw [@Table.ofList_entries _ [_] (List.nodup_singleton _)]
  simp only [List.mapM_cons, hcondition]
  rfl

/-- Combinations inside of 63 others are refused, since their text is nested 128 deep.  A
placeholder with an underscore in its name gets the rest of the name for a type, and one with
brackets at the end loses them. -/
theorem nested_refused :
    decode (encode .decimal (FrontEndOptions.withCondition default (nested 64))) =
      .error (.invalidParams (.conditionsExpected "and_where_andX_group_0")) ∧
    (decode (encode .decimal (FrontEndOptions.withPlaceholder default "a_b" (.int 1)))).map
      (fun o => o.query.placeholders.entries) = .ok [("a", ⟨.int 1, some "b"⟩)] ∧
    (decode (encode .decimal (FrontEndOptions.withPlaceholder default "a[]" (.int 1)))).map
      (fun o => o.query.placeholders.entries) = .ok [("a", ⟨.int 1, none⟩)] := by
  refine ⟨?_, rfl, rfl⟩
  obtain ⟨hwhole, hdepth⟩ := toJson_nested 63
  have hread : Json.read? (Json.arr [(nested 63).toJson]).compact = none := by
    obtain ⟨hlist, hdeep⟩ := isWhole_singleton hwhole
    rw [Json.read?_compact hlist, if_neg]
    rw [hdeep, hdepth]
    decide
  exact decode_unreadable hread

end GetParams

end EntityGate
