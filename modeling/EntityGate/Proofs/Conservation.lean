/-
# What becomes of every element

The expansion of simplified params loses an element only to a later one of the same place: one
under the same chain whose id has the same text.  Where all have places of their own, there are as
many entries as elements, and each entry is the one of its element; this holds of the params as a
whole and at every relation at every depth.  What is created has a place of its own always.
-/
import EntityGate.Proofs.Placing

namespace EntityGate

open Decision

/-- All chains. -/
def Chain.all : List Chain := [create, read, update, delete]

namespace Simplified

/-- The entries of a map of chains, each with the chain that it lies under. -/
def chainEntries (chains : List (String × Json)) : Except Fault (List (Chain × Entry)) := do
  let parts ← Chain.all.mapM fun chain => do
    let entries ← Entry.ofParams chain ((Json.lookup chain.name chains).getD .null)
    return entries.map fun e => (chain, e)
  return parts.flatten

/-! ## The items that stand, chain by chain -/

section

variable {items : List Item}

lemma mem_under {chain : Chain} {item : Item} :
    item ∈ under chain items ↔ item ∈ items ∧ item.chain = chain := by
  rw [under, List.mem_filter, decide_eq_true_eq]

lemma under_cons (chain : Chain) (item : Item) (rest : List Item) : under chain (item :: rest) =
    if item.chain = chain then item :: under chain rest else under chain rest := by
  simp only [under, List.filter_cons, decide_eq_true_eq]

/-- Whether an item stands is settled among those of its chain. -/
lemma under_standing (chain : Chain) (items : List Item) :
    under chain (standing items) = standing (under chain items) := by
  induction items with
  | nil => rfl
  | cons item rest ih =>
    rw [standing_cons, under_cons]
    by_cases hchain : item.chain = chain
    · have hsame : (∀ j ∈ under chain rest, item.Apart j) ↔ ∀ j ∈ rest, item.Apart j := by
        refine ⟨fun h j hj => ?_, fun h j hj => h j (mem_under.mp hj).1⟩
        by_cases hother : j.chain = chain
        · exact h j (mem_under.mpr ⟨hj, hother⟩)
        · exact .inl fun heq => hother (heq ▸ hchain)
      rw [if_pos hchain, standing_cons, if_congr hsame rfl rfl, ← ih]
      split
      · rw [under_cons, if_pos hchain]
      · rfl
    · rw [if_neg hchain, ← ih]
      split
      · rw [under_cons, if_neg hchain]
      · rfl

/-- Items are those of their chains. -/
lemma perm_flatMap_under {chains : List Chain} (hnodup : chains.Nodup)
    (h : ∀ item ∈ items, item.chain ∈ chains) :
    items.Perm (chains.flatMap fun chain => under chain items) := by
  induction chains generalizing items with
  | nil =>
    cases items with
    | nil => exact .refl _
    | cons item rest => cases h item List.mem_cons_self
  | cons chain rest ih =>
    obtain ⟨hnew, hrest⟩ := List.nodup_cons.mp hnodup
    -- the items of the first chain come out of the way of all others
    let others := items.filter fun item => !decide (item.chain = chain)
    have hothers : others.Perm (rest.flatMap fun c => under c others) := by
      refine ih hrest fun item hitem => ?_
      obtain ⟨hmem, hne⟩ := List.mem_filter.mp hitem
      exact (List.mem_cons.mp (h item hmem)).resolve_left (by simpa using hne)
    have hunder : ∀ c ∈ rest, under c others = under c items := by
      intro c hc
      rw [under, List.filter_filter]
      refine List.filter_congr fun item _ => ?_
      have hne : c ≠ chain := fun heq => hnew (heq ▸ hc)
      by_cases hitem : item.chain = c
      · simp [hitem, hne]
      · simp [hitem]
    rw [List.flatMap_cons, ← List.flatMap_congr hunder]
    exact (List.filter_append_perm _ items).symm.trans (hothers.append_left _)

/-- All items stand exactly if any two have places of their own. -/
lemma length_standing_iff : (standing items).length = items.length ↔ items.Pairwise Item.Apart :=
  ⟨fun h => List.pwFilter_eq_self.mp ((List.pwFilter_sublist items).eq_of_length h),
    fun h => congrArg List.length (List.pwFilter_eq_self.mpr h)⟩

end

/-! ## Nothing else is lost -/

/-- A map of chains conserves the elements of a relation: it holds chains and nothing else, its
entries are those of the items that stand, each under its chain, and there are as many as elements
exactly if any two of these have places of their own. -/
def Conserved : Arrangement := fun _ items chains =>
  (∀ request ∈ chains, ∃ chain : Chain, request.1 = chain.name) ∧
  ∃ entries, chainEntries chains = .ok entries ∧
    entries.Perm ((standing (items.map Prod.snd)).map fun item => (item.chain, item.entry)) ∧
    (entries.length = items.length ↔ (items.map Prod.snd).Pairwise Item.Apart)

/-- The entries of a map that items were put into are those of the items that stand. -/
lemma chainEntries_of_arranged {items : List Item} {chains : List (String × Json)}
    (h : Arranged items chains) : ∃ entries, chainEntries chains = .ok entries ∧
      entries.Perm ((standing items).map fun item => (item.chain, item.entry)) := by
  let pair (item : Item) : Chain × Entry := (item.chain, item.entry)
  have hpart : ∀ chain ∈ Chain.all, ∃ part, (do
      let entries ← Entry.ofParams chain ((Json.lookup chain.name chains).getD .null)
      return entries.map fun e => (chain, e) : Except Fault (List (Chain × Entry))) = .ok part ∧
        part.Perm ((under chain (standing items)).map pair) := by
    intro chain _
    have hchain : ∀ item ∈ under chain items, item.chain = chain := fun item hitem =>
      (mem_under.mp hitem).2
    obtain ⟨entries, hread, hperm, -⟩ := ofParams_paramsOf hchain
    rw [under_standing, lookup_of_arranged h]
    split
    · rename_i hnil
      rw [hnil]
      exact ⟨[], by cases chain <;> rfl, .refl _⟩
    · refine ⟨entries.map fun e => (chain, e), by rw [Option.getD_some, hread]; rfl, ?_⟩
      have hpair : ∀ item ∈ standing (under chain items), (chain, item.entry) = pair item :=
        fun item hitem => by rw [← hchain item (List.pwFilter_subset _ hitem)]
      have hparts := hperm.map fun e => (chain, e)
      rw [List.map_map] at hparts
      rw [← List.map_congr_left hpair]
      exact hparts
  obtain ⟨parts, hparts, hperm⟩ := exists_mapM_flatten_perm hpart
  refine ⟨parts.flatten, by rw [chainEntries, hparts]; rfl, hperm.trans ?_⟩
  rw [← List.map_flatMap]
  refine (perm_flatMap_under (by decide) fun item _ => ?_).symm.map pair
  cases item.chain <;> decide

lemma conserved_of_arranged {defaultAssign : String}
    {items : List (List (String × Json) × Item)} {chains : List (String × Json)}
    (h : Arranged (items.map Prod.snd) chains) : Conserved defaultAssign items chains := by
  obtain ⟨entries, hread, hperm⟩ := chainEntries_of_arranged h
  refine ⟨(keys_of_arranged h).2, entries, hread, hperm, ?_⟩
  rw [hperm.length_eq, List.length_map, ← length_standing_iff, List.length_map]

/-- Simplified params that are expanded lose an element to a later one of the same place, and to
nothing else.  What is created is in the order of the elements; else the entries are those of the
items that stand.  There are as many entries as elements exactly if any two elements have places of
their own, and so it goes on at every relation at every depth. -/
theorem expand_conserves {schema : Schema} {entityType : String} {chain : Chain}
    {params out : Json} (h : expand schema entityType chain params = .ok out) :
    ∃ items, List.Forall₂ (Heads schema Conserved entityType chain) (inputs params) items ∧
      ∃ entries, Entry.ofParams chain out = .ok entries ∧
        entries.Perm ((standing items).map Item.entry) ∧
        (chain = .create → entries = items.map Item.entry) ∧
        (entries.length = (inputs params).length ↔ items.Pairwise Item.Apart) := by
  obtain ⟨items, hheads, entries, hread, hperm, hcreate⟩ :=
    expand_unfolds (fun _ harranged => conserved_of_arranged harranged) h
  refine ⟨items, hheads, entries, hread, hperm, hcreate, ?_⟩
  rw [hperm.length_eq, List.length_map, hheads.length_eq, length_standing_iff]

theorem albums_expand_conserves :
    let params : Json := .arr [.obj [("id", .num (.int 1)), ("tracks", .arr [
      .str "t", .obj [("title", .str "Intro")], .obj [("id", .str "t"), ("title", .str "Coda")]])]]
    let chains : List (String × Json) := [
      ("create", .arr [.obj [("assignType", .str "addSingle"), ("title", .str "Intro")]]),
      ("read", .obj [("t", .obj [("assignType", .str "addSingle")])]),
      ("update", .obj [("t", .obj [("assignType", .str "addSingle"), ("title", .str "Coda")])])]
    let out : Json := .obj [("1", .obj [("tracks", .obj chains)])]
    expand albums "album" .update params = .ok out ∧
    ∃ items, List.Forall₂ (Heads albums Conserved "album" .update) (inputs params) items ∧
      ∃ entries, Entry.ofParams .update out = .ok entries ∧
        entries.Perm ((standing items).map Item.entry) ∧
        (Chain.update = .create → entries = items.map Item.entry) ∧
        (entries.length = (inputs params).length ↔ items.Pairwise Item.Apart) :=
  ⟨rfl, expand_conserves rfl⟩

/-- Two items with one id become a single entry, and the title of the first is lost; the same list
that is no simplified one is read as two entries. -/
theorem albums_expand_sameId :
    let params : Json := .arr [.obj [("id", .str "a"), ("title", .str "Blue")],
      .obj [("id", .str "a"), ("year", .num (.int 1971))]]
    let out : Json := .obj [("a", .obj [("year", .num (.int 1971))])]
    expand albums "album" .update params = .ok out ∧
      Entry.ofParams .update out =
        .ok [⟨some (.str "a"), [("year", .num (.int 1971))]⟩] ∧
      Entry.ofParams .update params = .ok [⟨some (.str "a"), [("title", .str "Blue")]⟩,
        ⟨some (.str "a"), [("year", .num (.int 1971))]⟩] :=
  ⟨rfl, rfl, rfl⟩

end Simplified

end EntityGate
