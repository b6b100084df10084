/-
# Configurations survive being written and read again

A configuration that was read is written as a value that is read as the same configuration, with
the entries of its tables in the order of their keys.  Each type of part has a reader and a writer
of its own, and what they have to do with each other is put together part by part: a record is
written with its parts under their names, parts that are absent being left out, so a reader finds
each of them again and nothing else.
-/
import EntityGate.Config.Document
import EntityGate.Proofs.Canonical
import Mathlib.Data.List.Induction

namespace EntityGate

/-! ## Readers and writers -/

lemma mapM_eq_some {α β : Type} {f : α → Option β} {g : α → β} {l : List α}
    (h : ∀ a ∈ l, f a = some (g a)) : l.mapM f = some (l.map g) := by
  induction l with
  | nil => rfl
  | cons a rest ih =>
    rw [List.mapM_cons, h a List.mem_cons_self, ih fun b hb => h b (List.mem_cons_of_mem _ hb)]
    rfl

lemma mem_of_mapM_eq_some {α β : Type} {f : α → Option β} {l : List α} {bs : List β}
    (h : l.mapM f = some bs) : ∀ b ∈ bs, ∃ a ∈ l, f a = some b := by
  induction l generalizing bs with
  | nil =>
    cases h
    exact fun _ hb => nomatch hb
  | cons a rest ih =>
    rw [List.mapM_cons] at h
    obtain ⟨b, hb, h⟩ := Option.bind_eq_some_iff.mp h
    obtain ⟨others, hothers, h⟩ := Option.bind_eq_some_iff.mp h
    cases h
    intro c hc
    rcases List.mem_cons.mp hc with rfl | hc
    · exact ⟨a, List.mem_cons_self, hb⟩
    · obtain ⟨a', ha', hfa⟩ := ih hothers c hc
      exact ⟨a', List.mem_cons_of_mem _ ha', hfa⟩

/-- A value that was read is written such that it is read again, with its tables sorted; sorting
does not change what is written, and only `null` is written as `null`. -/
structure Reloads {α : Type} (shape : Shape α) (write : α → Json) (sort : α → α) : Prop where
  again : ∀ {v a}, shape v = some a → shape (write a) = some (sort a) ∧ write (sort a) = write a
  null : ∀ {v a}, shape v = some a → write a = .null → v = .null

namespace Reloads

lemma setting : Reloads Shape.setting Setting.toJson id where
  again {v s} h := by
    obtain rfl : Setting.ofJson v.canonical = s := Option.some.inj h
    have hcanonical := Setting.canonical_toJson v.canonical v.canonical_canonical
    rw [Shape.setting, hcanonical, Setting.ofJson_toJson]
    exact ⟨rfl, rfl⟩
  null {v s} h hnull := by
    obtain rfl : Setting.ofJson v.canonical = s := Option.some.inj h
    exact Json.canonical_eq_null (Setting.toJson_eq_null hnull)

lemma basePart : Reloads (fun v => some (BasePart.ofJson v.canonical)) BasePart.toJson id where
  again {v p} h := by
    obtain rfl : BasePart.ofJson v.canonical = p := Option.some.inj h
    have hcanonical := BasePart.canonical_toJson v.canonical v.canonical_canonical
    rw [hcanonical, BasePart.ofJson_toJson]
    exact ⟨rfl, rfl⟩
  null {v p} h hnull := by
    obtain rfl : BasePart.ofJson v.canonical = p := Option.some.inj h
    exact Json.canonical_eq_null (BasePart.toJson_eq_null hnull)

lemma text : Reloads Shape.text .str id where
  again _ := ⟨rfl, rfl⟩
  null _ h := nomatch h

/-- A choice is written by name. -/
lemma choice {α : Type} {find? : String → Option α} {name : α → String}
    (h : ∀ a, find? (name a) = some a) :
    Reloads (Shape.choice find?) (fun a => .str (name a)) id where
  again {_ a} _ := ⟨h a, rfl⟩
  null _ h := nomatch h

lemma texts : Reloads (Shape.list Shape.text) (fun texts => .arr (texts.map .str)) id where
  again {_ texts} _ := by
    have hread : texts.mapM (Shape.text ∘ Json.str) = some (texts.map id) :=
      mapM_eq_some fun _ _ => rfl
    rw [List.map_id] at hread
    rw [Shape.list, List.mapM_map]
    exact ⟨hread, rfl⟩
  null _ h := nomatch h

end Reloads

/-! ## Tables -/

namespace Table

variable {α β : Type}

lemma sorted_perm (t : Table α) : t.sorted.entries.Perm t.entries :=
  List.perm_insertionSort KeyOrder t.entries

lemma increasing_sorted (t : Table α) : Increasing t.sorted.entries :=
  increasing_insertionSort t.nodup

lemma map_id (t : Table α) : t.map id = t := Table.ext (List.map_id t.entries)

/-- Entries with distinct keys make up a table as they are. -/
lemma ofList_entries {entries : List (String × α)} (h : (entries.map Prod.fst).Nodup) :
    ofList entries = ⟨entries, h⟩ := by
  induction entries using List.reverseRecOn with
  | nil => rfl
  | append_singleton front entry ih =>
    obtain ⟨k, v⟩ := entry
    have hparts := h
    rw [List.map_append, List.nodup_append] at hparts
    obtain ⟨hfront, -, hdisjoint⟩ := hparts
    have hk : k ∉ front.map Prod.fst := fun hmem => hdisjoint k hmem k List.mem_cons_self rfl
    rw [ofList_append, ih hfront]
    exact Table.ext (insertEntry_of_notMem hk)

end Table

section

variable {α : Type} {shape : Shape α} {write : α → Json} {sort : α → α}

/-- The values of a table that was read were read themselves. -/
lemma Shape.table_eq_some {v : Json} {t : Table α} (h : Shape.table shape v = some t) :
    ∀ entry ∈ t.entries, ∃ w, shape w = some entry.2 := by
  cases v with
  | obj fields =>
    obtain ⟨entries, hentries, rfl⟩ := Option.map_eq_some_iff.mp h
    intro entry hentry
    have hread : ∀ entry ∈ entries, ∃ w, shape w = some entry.2 := by
      intro entry hentry
      obtain ⟨field, -, hfield⟩ := mem_of_mapM_eq_some hentries entry hentry
      obtain ⟨a, ha, rfl⟩ := Option.map_eq_some_iff.mp hfield
      exact ⟨field.2, ha⟩
    have hmem : entry ∈ entries := Table.mem_of_mem_ofList hentry
    exact hread entry hmem
  | null => cases h
  | bool _ => cases h
  | num _ => cases h
  | str _ => cases h
  | arr _ => cases h

/-- A table is written with its entries in the order of their keys. -/
lemma Json.writeTable_eq (t : Table α) (write : α → Json) :
    Json.writeTable write t =
      .obj (t.sorted.entries.map fun entry => (entry.1, write entry.2)) := by
  have hkeys : ((t.entries.map fun entry => (entry.1, write entry.2)).map Prod.fst).Nodup := by
    rw [List.map_map]
    exact t.nodup
  have hperm := t.sorted_perm.map fun entry => (entry.1, write entry.2)
  rw [Json.writeTable, Json.ofFields_eq]
  congr 1
  exact (Json.increasing_sortedFields _).eq_of_perm (t.increasing_sorted.map write)
    ((Json.sortedFields_perm hkeys).trans hperm.symm)

lemma Reloads.ofTable (h : Reloads shape write sort) :
    Reloads (Shape.table shape) (Json.writeTable write) fun t => t.sorted.map sort where
  again {v t} ht := by
    have hread := Shape.table_eq_some ht
    have hagain : ∀ entry ∈ t.sorted.entries, shape (write entry.2) = some (sort entry.2) ∧
        write (sort entry.2) = write entry.2 := by
      intro entry hentry
      obtain ⟨w, hw⟩ := hread entry (t.sorted_perm.mem_iff.mp hentry)
      exact h.again hw
    have hincreasing := t.increasing_sorted
    constructor
    · rw [Json.writeTable_eq, Shape.table, List.mapM_map]
      rw [mapM_eq_some (g := fun entry => (entry.1, sort entry.2)) fun entry hentry => ?_]
      · exact congrArg some (Table.ofList_entries (hincreasing.map sort).nodup)
      · show (shape (write entry.2)).map _ = _
        rw [(hagain entry hentry).1]
        rfl
    · have hsame : (t.sorted.map sort).entries.map (fun entry => (entry.1, write entry.2)) =
          t.sorted.entries.map fun entry => (entry.1, write entry.2) := by
        rw [Table.entries_map, List.map_map]
        exact List.map_congr_left fun entry hentry => congrArg _ (hagain entry hentry).2
      rw [Json.writeTable_eq t, Json.writeTable, hsame, Json.ofFields_eq,
        Json.sortedFields_of_increasing (hincreasing.map write)]
  null _ h := nomatch h

end

/-! ## Records -/

namespace Json

variable {name k : String}

@[simp] lemma get?_ofFields_append (name : String) (entries more : List (String × Json)) :
    (ofFields (entries ++ more)).get? name =
      ((ofFields more).get? name).or ((ofFields entries).get? name) := by
  rw [ofFields_eq (entries ++ more), sortedFields, List.foldl_append]
  exact lookup_foldl_insertField name more (sortedFields entries)

@[simp] lemma get?_ofFields_cons (name k : String) (v : Json) (rest : List (String × Json)) :
    (ofFields ((k, v) :: rest)).get? name =
      ((ofFields rest).get? name).or (if name = k then some v else none) := by
  have hone : (ofFields [(k, v)]).get? name = if name = k then some v else none :=
    lookup_cons name k v []
  rw [← hone]
  exact get?_ofFields_append name [(k, v)] rest

@[simp] lemma get?_ofFields_nil (name : String) : (ofFields []).get? name = none := rfl

@[simp] lemma get?_writeOption {α : Type} (name k : String) (write : α → Json) (o : Option α) :
    (ofFields (writeOption k write o)).get? name = if name = k then o.map write else none := by
  cases o with
  | none => exact (ite_self none).symm
  | some a => exact lookup_cons name k (write a) []

@[simp] lemma get?_writeNonempty {α : Type} (name k : String) (write : α → Json) (t : Table α) :
    (ofFields (writeNonempty k write t)).get? name =
      if name = k then if t.isEmpty then none else some (writeTable write t) else none := by
  rw [writeNonempty]
  split
  · exact (ite_self none).symm
  · exact lookup_cons name k (writeTable write t) []

end Json

namespace Record

variable {names : List String}

lemma occurrences_le_one {fields : List (String × Json)} (h : (fields.map Prod.fst).Nodup)
    (name : String) : occurrences name fields ≤ 1 := by
  have hcount : occurrences name fields = (fields.map Prod.fst).count name := by
    rw [occurrences, List.count, List.countP_map, List.countP_eq_length_filter]
    rfl
  rw [hcount]
  exact List.nodup_iff_count.mp h name

lemma lookup_filter {name : String} (h : name ∈ names) (fields : List (String × Json)) :
    (fields.filter fun entry => entry.1 ∈ names).lookup name = fields.lookup name := by
  induction fields with
  | nil => rfl
  | cons entry rest ih =>
    obtain ⟨k, v⟩ := entry
    rw [List.filter_cons]
    by_cases hk : k ∈ names
    · rw [if_pos (decide_eq_true hk), Table.lookup_cons, Table.lookup_cons, ih]
    · have hne : name ≠ k := fun hsame => hk (hsame ▸ h)
      rw [if_neg (by simpa using hk), Table.lookup_cons, if_neg hne, ih]

/-- A part is its default or was read. -/
lemma of_withDefault {α : Type} {shape : Shape α} {P : α → Prop} {r : Record} {name : String}
    {default a : α} (h : r.withDefault name shape default = some a) (hdefault : P default)
    (hread : ∀ v, r.part? name = some v → ∀ b, shape v = some b → P b) : P a := by
  rw [withDefault] at h
  split at h
  · cases h
    exact hdefault
  · rename_i v hpart
    exact hread v hpart a h

/-- An object that is made from some entries is a record of them. -/
lemma exists_ofFields (names : List String) {v : Json} {fields : List (String × Json)}
    (hv : v = .ofFields fields) :
    ∃ r, ofJson? names v = some r ∧ ∀ name ∈ names, r.part? name = v.get? name := by
  subst hv
  have hall : names.all (fun name => occurrences name (Json.sortedFields fields) ≤ 1) = true :=
    List.all_eq_true.mpr fun name _ =>
      decide_eq_true (occurrences_le_one (Json.increasing_sortedFields fields).nodup name)
  refine ⟨_, if_pos hall, fun name hname => ?_⟩
  exact lookup_filter hname (Json.sortedFields fields)

end Record

/-! ### Parts -/

namespace Reloads

variable {α : Type} {shape : Shape α} {write : α → Json} {sort : α → α} {r : Record}
  (again : Record) {name : String} {a default : α}

lemma withDefault (h : Reloads shape write sort)
    (hread : r.withDefault name shape default = some a) (hdefault : ∃ v, shape v = some default)
    (hpart : again.part? name = some (write a)) :
    again.withDefault name shape default = some (sort a) ∧ write (sort a) = write a := by
  obtain ⟨v, hv⟩ : ∃ v, shape v = some a :=
    Record.of_withDefault (P := fun a => ∃ v, shape v = some a) hread hdefault
      fun v _ _ hv => ⟨v, hv⟩
  rw [Record.withDefault, hpart]
  exact h.again hv

lemma required (h : Reloads shape write sort) (hread : r.required name shape = some a)
    (hpart : again.part? name = some (write a)) :
    again.required name shape = some (sort a) ∧ write (sort a) = write a := by
  obtain ⟨v, -, hv⟩ := Option.bind_eq_some_iff.mp hread
  rw [Record.required, hpart]
  exact h.again hv

/-- A part that may be absent is not taken for absent when it is there, since it is not written as
`null`. -/
lemma optional (h : Reloads shape write sort) {o : Option α}
    (hread : r.optional name shape = some o) (hpart : again.part? name = o.map write) :
    again.optional name shape = some (o.map sort) ∧ (o.map sort).map write = o.map write := by
  cases o with
  | none =>
    rw [Record.optional, Record.withDefault, hpart]
    exact ⟨rfl, rfl⟩
  | some a =>
    have ha : ∃ v, v ≠ .null ∧ shape v = some a := by
      rw [Record.optional, Record.withDefault] at hread
      split at hread
      · cases hread
      · rename_i v _
        unfold Shape.optional at hread
        split at hread
        · cases hread
        · rename_i hnull
          obtain ⟨a', ha', hsome⟩ := Option.map_eq_some_iff.mp hread
          cases hsome
          exact ⟨v, hnull, ha'⟩
    obtain ⟨v, hnull, hv⟩ := ha
    have hwritten : write a ≠ .null := fun hw => hnull (h.null hv hw)
    have hoptional : Shape.optional shape (write a) = (shape (write a)).map some := by
      unfold Shape.optional
      split
      · rename_i hw
        exact absurd hw hwritten
      · rfl
    rw [Record.optional, Record.withDefault, hpart]
    show Shape.optional shape (write a) = _ ∧ _
    rw [hoptional, (h.again hv).1]
    exact ⟨rfl, congrArg some (h.again hv).2⟩

lemma table (h : Reloads shape write sort) {t : Table α} (hread : r.table name shape = some t)
    (hpart : again.part? name = some (Json.writeTable write t)) :
    again.table name shape = some (t.sorted.map sort) ∧
      Json.writeTable write (t.sorted.map sort) = Json.writeTable write t :=
  h.ofTable.withDefault again hread ⟨.obj [], rfl⟩ hpart

/-- A table without entries may be left out. -/
lemma nonempty (h : Reloads shape write sort) {t : Table α} (hread : r.table name shape = some t)
    (hpart : again.part? name = if t.isEmpty then none else some (Json.writeTable write t)) :
    again.table name shape = some (t.sorted.map sort) ∧
      Json.writeNonempty name write (t.sorted.map sort) = Json.writeNonempty name write t := by
  cases hempty : t.isEmpty with
  | true =>
    obtain ⟨entries⟩ := t
    obtain rfl : entries = [] := List.isEmpty_iff.mp hempty
    rw [Record.table, Record.withDefault, hpart]
    exact ⟨rfl, rfl⟩
  | false =>
    rw [hempty, if_neg Bool.false_ne_true] at hpart
    obtain ⟨hagain, hwritten⟩ := h.table again hread hpart
    have hsorted : (t.sorted.map sort).isEmpty = t.isEmpty := by
      rw [Table.isEmpty, Table.map, List.isEmpty_map, t.sorted_perm.isEmpty_eq]
      rfl
    refine ⟨hagain, ?_⟩
    rw [Json.writeNonempty, Json.writeNonempty, hsorted, hempty, hwritten]

/-! ### Parts without tables -/

section

variable {shape : Shape α} {write : α → Json} {r : Record} (again : Record)
  {name : String}

lemma withDefault_same {a default : α} (h : Reloads shape write id)
    (hread : r.withDefault name shape default = some a) (hdefault : ∃ v, shape v = some default)
    (hpart : again.part? name = some (write a)) :
    again.withDefault name shape default = some a :=
  (h.withDefault again hread hdefault hpart).1

lemma required_same {a : α} (h : Reloads shape write id)
    (hread : r.required name shape = some a) (hpart : again.part? name = some (write a)) :
    again.required name shape = some a :=
  (h.required again hread hpart).1

lemma optional_same {o : Option α} (h : Reloads shape write id)
    (hread : r.optional name shape = some o) (hpart : again.part? name = o.map write) :
    again.optional name shape = some o := by
  have hagain := (h.optional again hread hpart).1
  rw [Option.map_id] at hagain
  exact hagain

lemma table_same {t : Table α} (h : Reloads shape write id) (hread : r.table name shape = some t)
    (hpart : again.part? name = some (Json.writeTable write t)) :
    again.table name shape = some t.sorted ∧
      Json.writeTable write t.sorted = Json.writeTable write t := by
  have hagain := h.table again hread hpart
  rw [Table.map_id] at hagain
  exact hagain

lemma nonempty_same {t : Table α} (h : Reloads shape write id)
    (hread : r.table name shape = some t)
    (hpart : again.part? name = if t.isEmpty then none else some (Json.writeTable write t)) :
    again.table name shape = some t.sorted ∧
      Json.writeNonempty name write t.sorted = Json.writeNonempty name write t := by
  have hagain := h.nonempty again hread hpart
  rw [Table.map_id] at hagain
  exact hagain

end

end Reloads

/-! ## Base queries -/

lemma BaseCondition.reloads : Reloads BaseCondition.ofJson? BaseCondition.toJson id where
  again {v c} h := by
    simp only [ofJson?, Option.bind_eq_bind, Option.bind_eq_some_iff, Option.pure_def,
      Option.some.injEq] at h ⊢
    obtain ⟨r, -, connective, htype, part, hpart, rfl⟩ := h
    obtain ⟨again, hagain, hparts⟩ := Record.exists_ofFields ["type", "value"]
      (v := toJson ⟨connective, part⟩) rfl
    have hnames : ∀ c : Connective, Connective.ofName? c.name = some c := by
      rintro (_ | _ | _) <;> rfl
    have htype' := (Reloads.choice hnames).withDefault_same again htype
      ⟨.str "and", rfl⟩ (by simp [hparts, toJson])
    have hpart' := Reloads.basePart.required_same again hpart (by simp [hparts, toJson])
    exact ⟨⟨again, hagain, connective, htype', part, hpart', rfl⟩, rfl⟩
  null _ h := nomatch h

lemma BaseSource.reloads : Reloads BaseSource.ofJson? BaseSource.toJson id where
  again {v s} h := by
    simp only [ofJson?, Option.bind_eq_bind, Option.bind_eq_some_iff, Option.pure_def,
      Option.some.injEq] at h ⊢
    obtain ⟨r, -, entity, hentity, aliasName, halias, indexBy, hindex, rfl⟩ := h
    obtain ⟨again, hagain, hparts⟩ := Record.exists_ofFields ["entity", "alias", "indexBy"]
      (v := toJson ⟨entity, aliasName, indexBy⟩) rfl
    have hentity' := Reloads.setting.required_same again hentity (by simp [hparts, toJson])
    have halias' := Reloads.setting.required_same again halias (by simp [hparts, toJson])
    have hindex' := Reloads.setting.optional_same again hindex (by simp [hparts, toJson])
    exact ⟨⟨again, hagain, entity, hentity', aliasName, halias', indexBy, hindex', rfl⟩, rfl⟩
  null _ h := nomatch h

lemma BaseJoin.reloads : Reloads BaseJoin.ofJson? BaseJoin.toJson id where
  again {v j} h := by
    simp only [ofJson?, Option.bind_eq_bind, Option.bind_eq_some_iff, Option.pure_def,
      Option.some.injEq] at h ⊢
    obtain ⟨r, -, target, htarget, joinAlias, halias, kind, hkind, conditionType, htype, condition,
      hcondition, indexBy, hindex, rfl⟩ := h
    obtain ⟨again, hagain, hparts⟩ := Record.exists_ofFields partNames
      (v := toJson ⟨target, joinAlias, kind, conditionType, condition, indexBy⟩) rfl
    rw [partNames] at hparts
    have hkinds : ∀ k : JoinKind, JoinKind.ofName? k.name = some k := by
      rintro (_ | _) <;> rfl
    have htarget' := Reloads.setting.required_same again htarget (by simp [hparts, toJson])
    have halias' := Reloads.setting.required_same again halias (by simp [hparts, toJson])
    have hkind' := (Reloads.choice hkinds).withDefault_same again hkind
      ⟨.str "left", rfl⟩ (by simp [hparts, toJson])
    have htype' := Reloads.setting.optional_same again htype (by simp [hparts, toJson])
    have hcondition' := Reloads.setting.optional_same again hcondition (by simp [hparts, toJson])
    have hindex' := Reloads.setting.optional_same again hindex (by simp [hparts, toJson])
    exact ⟨⟨again, hagain, target, htarget', joinAlias, halias', kind, hkind', conditionType,
      htype', condition, hcondition', indexBy, hindex', rfl⟩, rfl⟩
  null _ h := nomatch h

lemma BaseOrder.reloads : Reloads BaseOrder.ofJson? BaseOrder.toJson id where
  again {v o} h := by
    simp only [ofJson?, Option.bind_eq_bind, Option.bind_eq_some_iff, Option.pure_def,
      Option.some.injEq] at h ⊢
    obtain ⟨r, -, sort, hsort, order, horder, rfl⟩ := h
    obtain ⟨again, hagain, hparts⟩ := Record.exists_ofFields ["sort", "order"]
      (v := toJson ⟨sort, order⟩) rfl
    have hsort' := Reloads.setting.required_same again hsort (by simp [hparts, toJson])
    have horder' := Reloads.setting.withDefault_same again horder ⟨.str "ASC", rfl⟩
      (by simp [hparts, toJson])
    exact ⟨⟨again, hagain, sort, hsort', order, horder', rfl⟩, rfl⟩
  null _ h := nomatch h

/-- A base query with its tables sorted. -/
def BaseQuery.sorted (q : BaseQuery) : BaseQuery where
  select := q.select.sorted
  sources := q.sources.sorted
  joins := q.joins.sorted
  conditions := q.conditions.sorted
  having := q.having.sorted
  orderBy := q.orderBy.sorted
  groupBy := q.groupBy.sorted

lemma BaseQuery.reloads : Reloads BaseQuery.ofJson? BaseQuery.toJson BaseQuery.sorted where
  again {v q} h := by
    simp only [ofJson?, Option.bind_eq_bind, Option.bind_eq_some_iff, Option.pure_def,
      Option.some.injEq] at h ⊢
    obtain ⟨r, -, select, hselect, sources, hsources, joins, hjoins, conditions, hconditions,
      having, hhaving, orderBy, horder, groupBy, hgroup, rfl⟩ := h
    obtain ⟨again, hagain, hparts⟩ := Record.exists_ofFields partNames
      (v := toJson ⟨select, sources, joins, conditions, having, orderBy, groupBy⟩) rfl
    rw [partNames] at hparts
    have hselect' := Reloads.setting.table_same again hselect (by simp [hparts, toJson])
    have hsources' := BaseSource.reloads.table_same again hsources (by simp [hparts, toJson])
    have hjoins' := BaseJoin.reloads.table_same again hjoins (by simp [hparts, toJson])
    have hconditions' := BaseCondition.reloads.table_same again hconditions
      (by simp [hparts, toJson])
    have hhaving' := BaseCondition.reloads.table_same again hhaving (by simp [hparts, toJson])
    have horder' := BaseOrder.reloads.table_same again horder (by simp [hparts, toJson])
    have hgroup' := Reloads.setting.table_same again hgroup (by simp [hparts, toJson])
    refine ⟨⟨again, hagain, _, hselect'.1, _, hsources'.1, _, hjoins'.1, _, hconditions'.1, _,
      hhaving'.1, _, horder'.1, _, hgroup'.1, rfl⟩, ?_⟩
    simp only [toJson, sorted, hselect'.2, hsources'.2, hjoins'.2, hconditions'.2, hhaving'.2,
      horder'.2, hgroup'.2]
  null _ h := nomatch h

/-! ## Settings of reads -/

lemma Placeholder.reloads : Reloads Placeholder.ofJson? Placeholder.toJson id where
  again {v p} h := by
    simp only [ofJson?, Option.bind_eq_bind, Option.bind_eq_some_iff, Option.pure_def,
      Option.some.injEq] at h ⊢
    obtain ⟨r, -, value, hvalue, paramType, htype, rfl⟩ := h
    obtain ⟨again, hagain, hparts⟩ := Record.exists_ofFields ["value", "type"]
      (v := toJson ⟨value, paramType⟩) rfl
    have hvalue' := Reloads.setting.withDefault_same again hvalue ⟨.null, rfl⟩
      (by simp [hparts, toJson])
    have htype' := Reloads.setting.optional_same again htype (by simp [hparts, toJson])
    exact ⟨⟨again, hagain, value, hvalue', paramType, htype', rfl⟩, rfl⟩
  null _ h := nomatch h

lemma CacheRules.reloads : Reloads CacheRules.ofJson? CacheRules.toJson id where
  again {v c} h := by
    simp only [ofJson?, Option.bind_eq_bind, Option.bind_eq_some_iff, Option.pure_def,
      Option.some.injEq] at h ⊢
    obtain ⟨r, -, query, hquery, result, hresult, time, htime, cacheId, hid, queryDriver,
      hqueryDriver, resultDriver, hresultDriver, rfl⟩ := h
    obtain ⟨again, hagain, hparts⟩ := Record.exists_ofFields partNames
      (v := toJson ⟨query, result, time, cacheId, queryDriver, resultDriver⟩) rfl
    rw [partNames] at hparts
    have hquery' := Reloads.setting.optional_same again hquery (by simp [hparts, toJson])
    have hresult' := Reloads.setting.optional_same again hresult (by simp [hparts, toJson])
    have htime' := Reloads.setting.optional_same again htime (by simp [hparts, toJson])
    have hid' := Reloads.setting.optional_same again hid (by simp [hparts, toJson])
    have hqueryDriver' := Reloads.setting.optional_same again hqueryDriver
      (by simp [hparts, toJson])
    have hresultDriver' := Reloads.setting.optional_same again hresultDriver
      (by simp [hparts, toJson])
    exact ⟨⟨again, hagain, query, hquery', result, hresult', time, htime', cacheId, hid',
      queryDriver, hqueryDriver', resultDriver, hresultDriver', rfl⟩, rfl⟩
  null _ h := nomatch h

/-- Read settings with their placeholders sorted. -/
def ReadSettings.sorted (s : ReadSettings) : ReadSettings :=
  { s with placeholders := s.placeholders.sorted }

lemma ReadSettings.reloads :
    Reloads ReadSettings.ofJson? ReadSettings.toJson ReadSettings.sorted where
  again {v s} h := by
    simp only [ofJson?, Option.bind_eq_bind, Option.bind_eq_some_iff, Option.pure_def,
      Option.some.injEq] at h ⊢
    obtain ⟨r, -, cache, hcache, placeholders, hplaceholders, fetchJoin, hfetch, rfl⟩ := h
    obtain ⟨again, hagain, hparts⟩ := Record.exists_ofFields ["cache", "placeholders", "fetchJoin"]
      (v := toJson ⟨cache, placeholders, fetchJoin⟩) rfl
    have hcache' := CacheRules.reloads.withDefault_same again hcache ⟨.obj [], rfl⟩
      (by simp [hparts, toJson])
    have hplaceholders' := Placeholder.reloads.table_same again hplaceholders
      (by simp [hparts, toJson])
    have hfetch' := Reloads.setting.optional_same again hfetch (by simp [hparts, toJson])
    refine ⟨⟨again, hagain, _, hcache', _, hplaceholders'.1, _, hfetch', rfl⟩, ?_⟩
    simp only [toJson, sorted, hplaceholders'.2]
  null _ h := nomatch h

/-! ## Permissions -/

/-- A validation with its tables sorted. -/
def Validation.sorted (v : Validation) : Validation :=
  { v with
    rules := v.rules.sorted
    messages := v.messages.sorted
    customAttributes := v.customAttributes.sorted }

lemma Validation.reloads : Reloads Validation.ofJson? Validation.toJson Validation.sorted where
  again {v a} h := by
    simp only [ofJson?, Option.bind_eq_bind, Option.bind_eq_some_iff, Option.pure_def,
      Option.some.injEq] at h ⊢
    obtain ⟨r, -, fields, hfields, rules, hrules, messages, hmessages, attributes, hattributes,
      rfl⟩ := h
    obtain ⟨again, hagain, hparts⟩ := Record.exists_ofFields partNames
      (v := toJson ⟨fields, rules, messages, attributes⟩) rfl
    rw [partNames] at hparts
    have hfields' := Reloads.texts.withDefault_same again hfields ⟨.arr [], rfl⟩
      (by simp [hparts, toJson])
    have hrules' := Reloads.text.table_same again hrules (by simp [hparts, toJson])
    have hmessages' := Reloads.text.table_same again hmessages (by simp [hparts, toJson])
    have hattributes' := Reloads.text.table_same again hattributes (by simp [hparts, toJson])
    refine ⟨⟨again, hagain, _, hfields', _, hrules'.1, _, hmessages'.1, _, hattributes'.1, rfl⟩,
      ?_⟩
    simp only [toJson, sorted, hrules'.2, hmessages'.2, hattributes'.2]
  null _ h := nomatch h

/-- Hooks with the tables of their validation sorted. -/
def Hooks.sorted (h : Hooks) : Hooks := { h with validate := h.validate.map Validation.sorted }

lemma Json.writeOption_map {α : Type} {write : α → Json} {sort : α → α} {o : Option α}
    (name : String) (h : (o.map sort).map write = o.map write) :
    Json.writeOption name write (o.map sort) = Json.writeOption name write o := by
  cases o with
  | none => rfl
  | some a => exact congrArg (fun v => [(name, v)]) (Option.some.inj h)

lemma Hooks.reloads : Reloads Hooks.ofJson? Hooks.toJson Hooks.sorted where
  again {v a} h := by
    simp only [ofJson?, Option.bind_eq_bind, Option.bind_eq_some_iff, Option.pure_def,
      Option.some.injEq] at h ⊢
    obtain ⟨r, -, closure, hclosure, mutate, hmutate, enforce, henforce, setTo, hset, validate,
      hvalidate, rfl⟩ := h
    obtain ⟨again, hagain, hparts⟩ := Record.exists_ofFields partNames
      (v := toJson ⟨closure, mutate, enforce, setTo, validate⟩) rfl
    rw [partNames] at hparts
    have hclosure' := Reloads.setting.optional_same again hclosure (by simp [hparts, toJson])
    have hmutate' := Reloads.setting.optional_same again hmutate (by simp [hparts, toJson])
    have henforce' := Reloads.setting.optional_same again henforce (by simp [hparts, toJson])
    have hset' := Reloads.setting.optional_same again hset (by simp [hparts, toJson])
    have hvalidate' := Validation.reloads.optional again hvalidate (by simp [hparts, toJson])
    refine ⟨⟨again, hagain, _, hclosure', _, hmutate', _, henforce', _, hset', _, hvalidate'.1,
      rfl⟩, ?_⟩
    simp only [toJson, sorted, Json.writeOption_map "validate" hvalidate'.2]
  null _ h := nomatch h

/-- A layer with its tables sorted. -/
def Layer.sorted (l : Layer) : Layer :=
  { l with
    operators := l.operators.sorted
    directions := l.directions.sorted
    assign := l.assign.sorted
    chain := l.chain.sorted
    hooks := l.hooks.sorted }

/-- A layer is read again out of any record that has its parts. -/
lemma Layer.ofRecord?_again {r : Record} (again : Record) {l : Layer} (h : ofRecord? r = some l)
    (hparts : ∀ name ∈ partNames, again.part? name = (Json.ofFields l.toFields).get? name) :
    ofRecord? again = some l.sorted ∧ l.sorted.toFields = l.toFields := by
  simp only [ofRecord?, Option.bind_eq_bind, Option.bind_eq_some_iff, Option.pure_def,
    Option.some.injEq] at h ⊢
  obtain ⟨allowed, hallowed, permissive, hpermissive, operators, hoperators, directions,
    hdirections, assign, hassign, chain, hchain, hooks, hhooks, rfl⟩ := h
  rw [partNames] at hparts
  have hallowed' := Reloads.setting.optional_same again hallowed (by simp [hparts, toFields])
  have hpermissive' := Reloads.setting.optional_same again hpermissive (by simp [hparts, toFields])
  have hoperators' := Reloads.setting.nonempty_same again hoperators (by simp [hparts, toFields])
  have hdirections' := Reloads.setting.nonempty_same again hdirections (by simp [hparts, toFields])
  have hassign' := Reloads.setting.nonempty_same again hassign (by simp [hparts, toFields])
  have hchain' := Reloads.setting.nonempty_same again hchain (by simp [hparts, toFields])
  have hhooks' := Hooks.reloads.withDefault again hhooks ⟨.obj [], rfl⟩ (by simp [hparts, toFields])
  refine ⟨⟨_, hallowed', _, hpermissive', _, hoperators'.1, _, hdirections'.1, _, hassign'.1, _,
    hchain'.1, _, hhooks'.1, rfl⟩, ?_⟩
  simp only [toFields, sorted, hoperators'.2, hdirections'.2, hassign'.2, hchain'.2, hhooks'.2]

lemma Layer.reloads : Reloads Layer.ofJson? Layer.toJson Layer.sorted where
  again {v l} h := by
    obtain ⟨r, -, hr⟩ := Option.bind_eq_some_iff.mp h
    obtain ⟨again, hagain, hparts⟩ := Record.exists_ofFields partNames (v := toJson l) rfl
    obtain ⟨hread, hwritten⟩ := ofRecord?_again again hr hparts
    exact ⟨Option.bind_eq_some_iff.mpr ⟨again, hagain, hread⟩, congrArg Json.ofFields hwritten⟩
  null _ h := nomatch h

/-- A node with its tables sorted, and those of the layers below it. -/
def Node.sorted (n : Node) : Node where
  toLayer := n.toLayer.sorted
  fields := n.fields.sorted.map Layer.sorted
  placeholderNames := n.placeholderNames.sorted.map Layer.sorted

/-- A node is read again out of any record that has its parts. -/
lemma Node.ofRecord?_again {r : Record} (again : Record) {n : Node} (h : ofRecord? r = some n)
    (hparts : ∀ name ∈ partNames, again.part? name = (Json.ofFields n.toFields).get? name) :
    ofRecord? again = some n.sorted ∧ n.sorted.toFields = n.toFields := by
  simp only [ofRecord?, Option.bind_eq_bind, Option.bind_eq_some_iff, Option.pure_def,
    Option.some.injEq] at h ⊢
  obtain ⟨layer, hlayer, fields, hfields, placeholders, hplaceholders, rfl⟩ := h
  -- the parts of the layer stand among those of the node, under names of their own
  have hbeside : ∀ name ∈ Layer.partNames, name ≠ "fields" ∧ name ≠ "placeholderNames" := by
    decide
  have hlayer' := Layer.ofRecord?_again again hlayer fun name hname => by
    obtain ⟨hne, hne'⟩ := hbeside name hname
    rw [hparts name (List.mem_append_left _ hname), toFields]
    simp [hne, hne']
  rw [partNames, Layer.partNames] at hparts
  have hfields' := Layer.reloads.nonempty again hfields (by simp [hparts, toFields, Layer.toFields])
  have hplaceholders' := Layer.reloads.nonempty again hplaceholders
    (by simp [hparts, toFields, Layer.toFields])
  refine ⟨⟨_, hlayer'.1, _, hfields'.1, _, hplaceholders'.1, rfl⟩, ?_⟩
  simp only [toFields, sorted, hlayer'.2, hfields'.2, hplaceholders'.2]

lemma Node.reloads : Reloads Node.ofJson? Node.toJson Node.sorted where
  again {v n} h := by
    obtain ⟨r, -, hr⟩ := Option.bind_eq_some_iff.mp h
    obtain ⟨again, hagain, hparts⟩ := Record.exists_ofFields partNames (v := toJson n) rfl
    obtain ⟨hread, hwritten⟩ := ofRecord?_again again hr hparts
    exact ⟨Option.bind_eq_some_iff.mpr ⟨again, hagain, hread⟩, congrArg Json.ofFields hwritten⟩
  null _ h := nomatch h

/-- Read permissions with the tables of their nodes sorted. -/
def ReadPermissions.sorted (p : ReadPermissions) : ReadPermissions :=
  { p with
    conditions := p.conditions.sorted
    having := p.having.sorted
    orderBy := p.orderBy.sorted
    groupBy := p.groupBy.sorted
    placeholders := p.placeholders.sorted }

lemma ReadPermissions.reloads :
    Reloads ReadPermissions.ofJson? ReadPermissions.toJson ReadPermissions.sorted where
  again {v p} h := by
    simp only [ofJson?, Option.bind_eq_bind, Option.bind_eq_some_iff, Option.pure_def,
      Option.some.injEq] at h ⊢
    obtain ⟨r, -, allowed, hallowed, maxLimit, hlimit, conditions, hconditions, having, hhaving,
      orderBy, horder, groupBy, hgroup, placeholders, hplaceholders, rfl⟩ := h
    obtain ⟨again, hagain, hparts⟩ := Record.exists_ofFields partNames
      (v := toJson ⟨allowed, maxLimit, conditions, having, orderBy, groupBy, placeholders⟩) rfl
    rw [partNames] at hparts
    have hallowed' := Reloads.setting.optional_same again hallowed (by simp [hparts, toJson])
    have hlimit' := Reloads.setting.optional_same again hlimit (by simp [hparts, toJson])
    have hconditions' := Node.reloads.withDefault again hconditions ⟨.obj [], rfl⟩
      (by simp [hparts, toJson])
    have hhaving' := Node.reloads.withDefault again hhaving ⟨.obj [], rfl⟩
      (by simp [hparts, toJson])
    have horder' := Node.reloads.withDefault again horder ⟨.obj [], rfl⟩ (by simp [hparts, toJson])
    have hgroup' := Node.reloads.withDefault again hgroup ⟨.obj [], rfl⟩ (by simp [hparts, toJson])
    have hplaceholders' := Node.reloads.withDefault again hplaceholders ⟨.obj [], rfl⟩
      (by simp [hparts, toJson])
    refine ⟨⟨again, hagain, _, hallowed', _, hlimit', _, hconditions'.1, _, hhaving'.1, _,
      horder'.1, _, hgroup'.1, _, hplaceholders'.1, rfl⟩, ?_⟩
    simp only [toJson, sorted, hconditions'.2, hhaving'.2, horder'.2, hgroup'.2, hplaceholders'.2]
  null _ h := nomatch h

/-! ## Configurations -/

/-- Read rules with their tables sorted, and those of their parts. -/
def ReadRules.sorted (r : ReadRules) : ReadRules where
  query := r.query.sorted
  settings := r.settings.sorted
  permissions := r.permissions.sorted
  options := r.options.sorted

lemma ReadRules.reloads : Reloads ReadRules.ofJson? ReadRules.toJson ReadRules.sorted where
  again {v a} h := by
    simp only [ofJson?, Option.bind_eq_bind, Option.bind_eq_some_iff, Option.pure_def,
      Option.some.injEq] at h ⊢
    obtain ⟨r, -, query, hquery, settings, hsettings, permissions, hpermissions, options, hoptions,
      rfl⟩ := h
    obtain ⟨again, hagain, hparts⟩ := Record.exists_ofFields
      ["query", "settings", "permissions", "options"]
      (v := toJson ⟨query, settings, permissions, options⟩) rfl
    have hquery' := BaseQuery.reloads.withDefault again hquery ⟨.obj [], rfl⟩
      (by simp [hparts, toJson])
    have hsettings' := ReadSettings.reloads.withDefault again hsettings ⟨.obj [], rfl⟩
      (by simp [hparts, toJson])
    have hpermissions' := ReadPermissions.reloads.withDefault again hpermissions
      ⟨.obj [], rfl⟩ (by simp [hparts, toJson])
    have hoptions' := Reloads.setting.table_same again hoptions (by simp [hparts, toJson])
    refine ⟨⟨again, hagain, _, hquery'.1, _, hsettings'.1, _, hpermissions'.1, _, hoptions'.1,
      rfl⟩, ?_⟩
    simp only [toJson, sorted, hquery'.2, hsettings'.2, hpermissions'.2, hoptions'.2]
  null _ h := nomatch h

/-- Mutation rules with the tables of their node sorted, and their options. -/
def MutationRules.sorted (m : MutationRules) : MutationRules where
  permissions := m.permissions.sorted
  options := m.options.sorted

/-- The parts of the node stand beside the options, which have no name in common with them. -/
lemma MutationRules.reloads :
    Reloads MutationRules.ofJson? MutationRules.toJson MutationRules.sorted where
  again {v m} h := by
    have hobject : ∃ r node options, Node.ofRecord? r = some node ∧
        r.table "options" Shape.setting = some options ∧ MutationRules.mk node options = m := by
      cases v with
      | obj fields =>
        simp only [ofJson?, Option.bind_eq_bind, Option.bind_eq_some_iff, Option.pure_def,
          Option.some.injEq] at h
        obtain ⟨r, -, node, hnode, options, hoptions, hm⟩ := h
        exact ⟨r, node, options, hnode, hoptions, hm⟩
      | null => cases h
      | bool _ => cases h
      | num _ => cases h
      | str _ => cases h
      | arr _ => cases h
    obtain ⟨r, node, options, hnode, hoptions, rfl⟩ := hobject
    obtain ⟨again, hagain, hparts⟩ := Record.exists_ofFields (Node.partNames ++ ["options"])
      (v := toJson ⟨node, options⟩) rfl
    have hbeside : ∀ name ∈ Node.partNames, name ≠ "options" := by decide
    have hnode' := Node.ofRecord?_again again hnode fun name hname => by
      rw [hparts name (List.mem_append_left _ hname), toJson]
      simp [hbeside name hname]
    have hoptions' := Reloads.setting.table_same again hoptions (by simp [hparts, toJson])
    constructor
    · have hread : ofJson? (toJson ⟨node, options⟩) =
          (Record.ofJson? (Node.partNames ++ ["options"]) (toJson ⟨node, options⟩)).bind fun r => do
            return ⟨← Node.ofRecord? r, ← r.table "options" Shape.setting⟩ := rfl
      rw [hread, hagain, Option.bind_some, hnode'.1, hoptions'.1]
      rfl
    · simp only [toJson, sorted, hnode'.2, hoptions'.2]
  null _ h := nomatch h

/-- The configuration of a type of entity with its tables sorted, and those of its parts. -/
def EntityConfig.sorted (e : EntityConfig) : EntityConfig where
  aliasName := e.aliasName
  read := e.read.sorted
  create := e.create.sorted
  update := e.update.sorted
  delete := e.delete.sorted

lemma EntityConfig.reloads :
    Reloads EntityConfig.ofJson? EntityConfig.toJson EntityConfig.sorted where
  again {v e} h := by
    simp only [ofJson?, Option.bind_eq_bind, Option.bind_eq_some_iff, Option.pure_def,
      Option.some.injEq] at h ⊢
    obtain ⟨r, -, aliasName, halias, read, hread, create, hcreate, update, hupdate, delete, hdelete,
      rfl⟩ := h
    obtain ⟨again, hagain, hparts⟩ := Record.exists_ofFields partNames
      (v := toJson ⟨aliasName, read, create, update, delete⟩) rfl
    rw [partNames] at hparts
    have halias' := Reloads.text.withDefault_same again halias ⟨.str "t", rfl⟩
      (by simp [hparts, toJson])
    have hread' := ReadRules.reloads.withDefault again hread ⟨.obj [], rfl⟩
      (by simp [hparts, toJson])
    have hcreate' := MutationRules.reloads.withDefault again hcreate ⟨.obj [], rfl⟩
      (by simp [hparts, toJson])
    have hupdate' := MutationRules.reloads.withDefault again hupdate ⟨.obj [], rfl⟩
      (by simp [hparts, toJson])
    have hdelete' := MutationRules.reloads.withDefault again hdelete ⟨.obj [], rfl⟩
      (by simp [hparts, toJson])
    refine ⟨⟨again, hagain, _, halias', _, hread'.1, _, hcreate'.1, _, hupdate'.1, _, hdelete'.1,
      rfl⟩, ?_⟩
    simp only [toJson, sorted, hread'.2, hcreate'.2, hupdate'.2, hdelete'.2]
  null _ h := nomatch h

/-- A configuration with the entries of all its tables in the order of their keys. -/
def GateConfig.sorted (c : GateConfig) : GateConfig :=
  ⟨c.entities.sorted.map EntityConfig.sorted⟩

/-- A configuration that was loaded is written as a value that is loaded as the same configuration,
with its tables sorted, and that configuration is written in the same way. -/
theorem GateConfig.survives_writing {document : Json} {c : GateConfig}
    (h : ofJson? document = some c) :
    ofJson? c.toJson = some c.sorted ∧ c.sorted.toJson = c.toJson := by
  simp only [ofJson?, Option.bind_eq_bind, Option.bind_eq_some_iff, Option.pure_def,
    Option.some.injEq] at h ⊢
  obtain ⟨r, -, entities, hentities, rfl⟩ := h
  obtain ⟨again, hagain, hparts⟩ := Record.exists_ofFields ["entities"]
    (v := toJson ⟨entities⟩) rfl
  have hentities' := EntityConfig.reloads.table again hentities (by simp [hparts, toJson])
  refine ⟨⟨again, hagain, _, hentities'.1, rfl⟩, ?_⟩
  simp only [toJson, sorted, hentities'.2]

/-- A document with two types out of order.  A call has a single argument that is no list, an
operator of a base condition too, a bucket keeps a `null`, and a flag that is `null` is absent. -/
def playlists : Json :=
  .obj [("entities", .obj [
    ("song", .obj [
      ("create", .obj [("permissive", .bool true), ("allowed", .null),
        ("options", .obj [("batchMax", .int 10)]),
        ("fields", .obj [("name", .obj [("operators", .obj [("like", .bool true),
          ("eq", .null)])])])])]),
    ("album", .obj [("alias", .str "a"),
      ("read", .obj [
        ("permissions", .obj [("maxLimit", .obj [("args", .str "limit"), ("$call", .str "ctx")])]),
        ("query", .obj [("where", .obj [("published", .obj [
          ("value", .obj [("expr", .str "isNotNull"), ("arguments", .str "a.year")])])])])])])])]

/-- It is loaded, written and loaded again. -/
theorem playlists_survive : ∃ c, GateConfig.ofJson? playlists = some c ∧
    c.entities.keys = ["song", "album"] ∧ GateConfig.ofJson? c.toJson = some c.sorted ∧
    c.sorted.entities.keys = ["album", "song"] ∧ c.sorted.toJson = c.toJson := by
  have hkeys : (GateConfig.ofJson? playlists).map
      (fun c => (c.entities.keys, c.sorted.entities.keys)) =
        some (["song", "album"], ["album", "song"]) := by
    decide +kernel
  obtain ⟨c, hloaded, hboth⟩ := Option.map_eq_some_iff.mp hkeys
  obtain ⟨hagain, hwritten⟩ := GateConfig.survives_writing hloaded
  exact ⟨c, hloaded, congrArg Prod.fst hboth, hagain, congrArg Prod.snd hboth, hwritten⟩

end EntityGate
