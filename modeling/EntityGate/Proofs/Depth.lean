/-
# Depth

How deep values are nested, and conditions.  What stands in a value is less deep than the value.
A condition is as deep as the value that describes it: its arguments and the conditions that it
combines are less deep, and a condition that is read out of a value is not nested more deeply than
the value, since sorting keys, leaving out entries and taking defaults only lose levels.  So whoever
follows conditions into arguments comes to an end within the depth of the outermost one.
-/
import EntityGate.Filter.Condition
import EntityGate.Proofs.Reload

namespace EntityGate

/-! ## Values -/

namespace Json

lemma depthFields_le {fields : List (String × Json)} {n : Nat} :
    depthFields fields ≤ n ↔ ∀ entry ∈ fields, entry.2.depth ≤ n := by
  induction fields with
  | nil => simp [depthFields]
  | cons entry rest ih =>
    obtain ⟨k, v⟩ := entry
    rw [depthFields, Nat.max_le, ih, List.forall_mem_cons]

lemma depthItems_le {items : List Json} {n : Nat} :
    depthItems items ≤ n ↔ ∀ v ∈ items, v.depth ≤ n := by
  induction items with
  | nil => simp [depthItems]
  | cons v rest ih => rw [depthItems, Nat.max_le, ih, List.forall_mem_cons]

lemma depth_le_depthFields {name : String} {v : Json} {fields : List (String × Json)}
    (h : (name, v) ∈ fields) : v.depth ≤ depthFields fields :=
  depthFields_le.mp (Nat.le_refl _) (name, v) h

lemma depth_le_depthItems {v : Json} {items : List Json} (h : v ∈ items) :
    v.depth ≤ depthItems items :=
  depthItems_le.mp (Nat.le_refl _) v h

lemma depthFields_eraseField_le (key : String) (fields : List (String × Json)) :
    depthFields (eraseField key fields) ≤ depthFields fields :=
  depthFields_le.mpr fun _ hentry => depth_le_depthFields (List.mem_filter.mp hentry).1

lemma depth_lt_of_get? {v w : Json} {name : String} (h : v.get? name = some w) :
    w.depth < v.depth := by
  cases v with
  | obj fields =>
    have hmem : (name, w) ∈ fields := Table.mem_of_lookup h
    exact Nat.lt_succ_of_le (depth_le_depthFields hmem)
  | null => cases h
  | bool b => cases h
  | num n => cases h
  | str s => cases h
  | arr items => cases h

/-- An object that is made from entries is at most one level deeper than these. -/
lemma depth_ofFields_le {fields : List (String × Json)} {n : Nat}
    (h : ∀ entry ∈ fields, entry.2.depth ≤ n) : (ofFields fields).depth ≤ n + 1 := by
  rw [ofFields_eq, depth]
  exact Nat.succ_le_succ
    (depthFields_le.mpr fun entry hentry => h entry (mem_sortedFields hentry))

mutual
/-- Sorting the keys of a value does not make it deeper. -/
lemma depth_canonical_le : (v : Json) → v.canonical.depth ≤ v.depth
  | .arr items => by
    rw [canonical, depth, depth]
    exact Nat.succ_le_succ (depthItems_le.mpr (depth_canonicalItems_le items))
  | .obj fields => by
    rw [canonical, depth]
    exact depth_ofFields_le (depth_canonicalFields_le fields)
  | .null => Nat.le_refl _
  | .bool _ => Nat.le_refl _
  | .num _ => Nat.le_refl _
  | .str _ => Nat.le_refl _

lemma depth_canonicalItems_le : (items : List Json) →
    ∀ v ∈ canonicalItems items, v.depth ≤ depthItems items
  | [] => fun _ hv => nomatch hv
  | w :: rest => by
    rw [canonicalItems, depthItems]
    refine List.forall_mem_cons.mpr ⟨(depth_canonical_le w).trans (Nat.le_max_left _ _),
      fun v hv => ?_⟩
    exact (depth_canonicalItems_le rest v hv).trans (Nat.le_max_right _ _)

lemma depth_canonicalFields_le : (fields : List (String × Json)) →
    ∀ entry ∈ canonicalFields fields, entry.2.depth ≤ depthFields fields
  | [] => fun _ hentry => nomatch hentry
  | (k, w) :: rest => by
    rw [canonicalFields, depthFields]
    refine List.forall_mem_cons.mpr ⟨(depth_canonical_le w).trans (Nat.le_max_left _ _),
      fun entry hentry => ?_⟩
    exact (depth_canonicalFields_le rest entry hentry).trans (Nat.le_max_right _ _)
end

lemma depth_of_mem_writeItems {name : String} {items : List Json} {n : Nat}
    (h : ∀ v ∈ items, v.depth < n) {entry : String × Json}
    (hentry : entry ∈ writeItems name id items) : entry.2.depth ≤ n := by
  cases items with
  | nil => cases hentry
  | cons v rest =>
    have hpos : 0 < n := Nat.zero_lt_of_lt (h v List.mem_cons_self)
    have hitems : depthItems (v :: rest) ≤ n - 1 :=
      depthItems_le.mpr fun w hw => Nat.le_sub_one_of_lt (h w hw)
    rw [writeItems, List.map_id] at hentry
    · rw [List.mem_singleton.mp hentry, depth]
      omega
    · simp

@[simp] lemma get?_writeItems {α : Type} (name k : String) (write : α → Json) (items : List α) :
    (ofFields (writeItems k write items)).get? name =
      if name = k then if items.isEmpty then none else some (.arr (items.map write)) else none := by
  cases items with
  | nil => exact (ite_self none).symm
  | cons a rest => exact lookup_cons name k (.arr ((a :: rest).map write)) []

end Json

/-! ## Conditions -/

lemma Record.depth_lt_of_part? {names : List String} {v w : Json} {r : Record} {name : String}
    (h : ofJson? names v = some r) (hpart : r.part? name = some w) : w.depth < v.depth := by
  have hmem : (name, w) ∈ r.parts := Table.mem_of_lookup hpart
  cases v with
  | obj fields =>
    rw [ofJson?, ofObject?] at h
    split at h
    · cases h
      exact Nat.lt_succ_of_le (Json.depth_le_depthFields (List.mem_filter.mp hmem).1)
    · cases h
  | arr items =>
    rw [ofJson?] at h
    split at h
    · cases h
      exact Nat.lt_succ_of_le (Json.depth_le_depthItems (List.of_mem_zip hmem).2)
    · cases h
  | null => cases h
  | bool b => cases h
  | num n => cases h
  | str s => cases h

namespace Condition

lemma toJsonItems_eq_map (cs : List Condition) : toJsonItems cs = cs.map toJson := by
  induction cs with
  | nil => rfl
  | cons c rest ih => rw [toJsonItems, ih, List.map_cons]

/-- The arguments of a condition are nested less deeply than the condition. -/
lemma depth_lt_of_mem_arguments {c : Condition} {v : Json} (h : v ∈ c.arguments) :
    v.depth < c.argumentDepth := by
  obtain ⟨field, connective, operator, arguments, conditions⟩ := c
  have harguments : arguments.isEmpty = false := by
    cases arguments with
    | nil => cases h
    | cons w rest => rfl
  have hget : (toJson ⟨field, connective, operator, arguments, conditions⟩).get? "arguments" =
      some (.arr arguments) := by
    simp [toJson, harguments]
  exact (Nat.lt_succ_of_le (Json.depth_le_depthItems h)).trans (Json.depth_lt_of_get? hget)

/-- So are the conditions that it combines. -/
lemma argumentDepth_lt_of_mem_conditions {c nested : Condition} (h : nested ∈ c.conditions) :
    nested.argumentDepth < c.argumentDepth := by
  obtain ⟨field, connective, operator, arguments, conditions⟩ := c
  have hitems : nested.toJson ∈ toJsonItems conditions := by
    rw [toJsonItems_eq_map]
    exact List.mem_map_of_mem h
  have hconditions : (toJsonItems conditions).isEmpty = false := by
    cases hempty : toJsonItems conditions with
    | nil =>
      rw [hempty] at hitems
      cases hitems
    | cons w rest => rfl
  have hget : (toJson ⟨field, connective, operator, arguments, conditions⟩).get? "conditions" =
      some (.arr (toJsonItems conditions)) := by
    simp [toJson, hconditions]
  exact (Nat.lt_succ_of_le (Json.depth_le_depthItems hitems)).trans (Json.depth_lt_of_get? hget)

lemma argumentDepth_le {c : Condition} {n : Nat} (harguments : ∀ v ∈ c.arguments, v.depth < n)
    (hconditions : ∀ nested ∈ c.conditions, nested.argumentDepth < n) :
    c.argumentDepth ≤ n + 1 := by
  obtain ⟨field, connective, operator, arguments, conditions⟩ := c
  have hitems : ∀ v ∈ toJsonItems conditions, v.depth < n := by
    intro v hv
    rw [toJsonItems_eq_map] at hv
    obtain ⟨nested, hnested, rfl⟩ := List.mem_map.mp hv
    exact hconditions nested hnested
  rw [argumentDepth, toJson]
  refine Json.depth_ofFields_le fun entry hentry => ?_
  simp only [List.mem_append, or_assoc] at hentry
  rcases hentry with hfield | hfixed | hentry | hentry
  · cases field with
    | none => cases hfield
    | some f =>
      rw [List.mem_singleton.mp hfield]
      exact Nat.zero_le n
  · rcases List.mem_pair.mp hfixed with rfl | rfl
    · exact Nat.zero_le n
    · exact Nat.zero_le n
  · exact Json.depth_of_mem_writeItems harguments hentry
  · exact Json.depth_of_mem_writeItems hitems hentry

lemma ofRecord?_eq_some {names : List String} {v : Json} {r : Record}
    (hr : Record.ofJson? names v = some r) {conditions : List Condition} {c : Condition}
    (h : ofRecord? r conditions = some c) :
    c.conditions = conditions ∧ ∀ a ∈ c.arguments, a.depth + 1 < v.depth := by
  simp only [ofRecord?, Option.bind_eq_bind, Option.bind_eq_some_iff, Option.pure_def,
    Option.some.injEq] at h
  obtain ⟨field, -, connective, -, operator, -, arguments, harguments, rfl⟩ := h
  refine ⟨rfl, Record.of_withDefault (P := fun arguments => ∀ a ∈ arguments, a.depth + 1 < v.depth)
    harguments (fun _ ha => nomatch ha) fun w hpart read hread a ha => ?_⟩
  have hw : w.depth < v.depth := Record.depth_lt_of_part? hr hpart
  cases w with
  | arr items =>
    obtain ⟨item, hitem, hcanonical⟩ := mem_of_mapM_eq_some hread a ha
    cases hcanonical
    have hle : item.canonical.depth ≤ Json.depthItems items :=
      (Json.depth_canonical_le item).trans (Json.depth_le_depthItems hitem)
    rw [Json.depth] at hw
    omega
  | null => cases hread
  | bool b => cases hread
  | num n => cases hread
  | str s => cases hread
  | obj fields => cases hread

mutual
/-- A condition that is read out of a value is not nested more deeply than the value. -/
theorem argumentDepth_of_ofJson? : (v : Json) → ∀ {c : Condition}, ofJson? v = some c →
    c.argumentDepth ≤ v.depth
  | .obj fields, c, h => by
    rw [ofJson?] at h
    obtain ⟨conditions, hconditions, h⟩ := Option.bind_eq_some_iff.mp h
    obtain ⟨r, hr, h⟩ := Option.bind_eq_some_iff.mp h
    obtain ⟨rfl, harguments⟩ := ofRecord?_eq_some hr h
    exact argumentDepth_le (fun a ha => Nat.lt_of_succ_lt_succ (harguments a ha))
      (argumentDepth_of_nestedIn? fields hconditions)
  | .arr items, c, h => by
    rw [ofJson?] at h
    obtain ⟨conditions, hconditions, h⟩ := Option.bind_eq_some_iff.mp h
    obtain ⟨r, hr, h⟩ := Option.bind_eq_some_iff.mp h
    obtain ⟨rfl, harguments⟩ := ofRecord?_eq_some hr h
    exact argumentDepth_le (fun a ha => Nat.lt_of_succ_lt_succ (harguments a ha))
      (argumentDepth_of_nestedAt? 4 items hconditions)
  | .null, _, h => nomatch h
  | .bool _, _, h => nomatch h
  | .num _, _, h => nomatch h
  | .str _, _, h => nomatch h

theorem argumentDepth_of_ofItems? : (items : List Json) → ∀ {cs : List Condition},
    ofItems? items = some cs → ∀ c ∈ cs, c.argumentDepth ≤ Json.depthItems items
  | [], cs, h => by
    cases h
    exact fun _ hc => nomatch hc
  | v :: rest, cs, h => by
    rw [ofItems?] at h
    obtain ⟨first, hfirst, h⟩ := Option.bind_eq_some_iff.mp h
    obtain ⟨others, hothers, h⟩ := Option.bind_eq_some_iff.mp h
    cases h
    rw [Json.depthItems]
    refine List.forall_mem_cons.mpr ⟨(argumentDepth_of_ofJson? v hfirst).trans
      (Nat.le_max_left _ _), fun c hc => ?_⟩
    exact (argumentDepth_of_ofItems? rest hothers c hc).trans (Nat.le_max_right _ _)

theorem argumentDepth_of_nestedIn? : (fields : List (String × Json)) → ∀ {cs : List Condition},
    nestedIn? fields = some cs → ∀ c ∈ cs, c.argumentDepth < Json.depthFields fields
  | [], cs, h => by
    cases h
    exact fun _ hc => nomatch hc
  | (k, v) :: rest, cs, h => by
    rw [nestedIn?.eq_def] at h
    dsimp only at h
    intro c hc
    rw [Json.depthFields]
    split at h
    · split at h
      · rename_i items
        have hle := argumentDepth_of_ofItems? items h c hc
        rw [Json.depth]
        omega
      · cases h
    · exact (argumentDepth_of_nestedIn? rest h c hc).trans_le (Nat.le_max_right _ _)

theorem argumentDepth_of_nestedAt? : (n : Nat) → (items : List Json) → ∀ {cs : List Condition},
    nestedAt? n items = some cs → ∀ c ∈ cs, c.argumentDepth < Json.depthItems items
  | n, [], cs, h => by
    rw [nestedAt?] at h
    cases h
    exact fun _ hc => nomatch hc
  | 0, v :: rest, cs, h => by
    rw [nestedAt?.eq_def] at h
    dsimp only at h
    intro c hc
    rw [Json.depthItems]
    split at h
    · rename_i items
      have hle := argumentDepth_of_ofItems? items h c hc
      rw [Json.depth]
      omega
    · cases h
  | n + 1, v :: rest, cs, h => by
    rw [nestedAt?] at h
    intro c hc
    rw [Json.depthItems]
    exact (argumentDepth_of_nestedAt? n rest h c hc).trans_le (Nat.le_max_right _ _)
end

end Condition

end EntityGate
