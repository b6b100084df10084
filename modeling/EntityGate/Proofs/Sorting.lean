/-
# Rows in the order of their keys

Rows are compared by some columns, the first that tells them apart deciding.  Turning a comparison
round reverses it, whatever the rows hold.  It is transitive only where no column mixes its values:
a text or a number is tied with values of other kinds, so two numbers that stand apart are both
tied with a text that stands beside them.

Among rows without such a column, exactly one arrangement is in the order of the keys with tied
rows as they were, and it is the one that rows are brought into.
-/
import EntityGate.Proofs.Paging

namespace EntityGate

open Decision

/-! ## Values of a column -/

namespace Column

/-- Turning a comparison round reverses it. -/
lemma compare?_swap (v w : Json) : compare? w v = (compare? v w).map Ordering.swap := by
  cases v <;> cases w <;> first | rfl | exact congrArg some Std.OrientedOrd.eq_swap

/-- Comparisons that can be made may be chained. -/
lemma compare?_trans {u v w : Json} {o o' : Ordering} (huv : compare? u v = some o)
    (ho : o.isLE = true) (hvw : compare? v w = some o') (ho' : o'.isLE = true) :
    ∃ o'', compare? u w = some o'' ∧ o''.isLE = true := by
  cases v with
  | null =>
    -- only `null` does not come after `null`
    cases u <;> cases huv <;> first | exact ⟨o', hvw, ho'⟩ | cases ho
  | arr items =>
    cases u <;> cases huv
    cases w <;> cases hvw
    cases ho'
  | obj fields =>
    cases u <;> cases huv
    cases w <;> cases hvw
    cases ho'
  | num n =>
    cases w <;> cases hvw <;> first | cases ho' | skip
    cases u <;> cases huv
    · exact ⟨.lt, rfl, rfl⟩
    · exact ⟨_, rfl, Std.TransOrd.isLE_trans ho ho'⟩
  | str s =>
    cases w <;> cases hvw <;> first | cases ho' | skip
    cases u <;> cases huv
    · exact ⟨.lt, rfl, rfl⟩
    · exact ⟨_, rfl, Std.TransOrd.isLE_trans ho ho'⟩
  | bool b =>
    cases w <;> cases hvw <;> first | cases ho' | skip
    cases u <;> cases huv
    · exact ⟨.lt, rfl, rfl⟩
    · exact ⟨_, rfl, Std.TransOrd.isLE_trans ho ho'⟩

/-- Some values are mixed: two of them stand apart, and there is one beside them that the lesser
one cannot be compared with. -/
def Mixed (values : List Json) : Prop :=
  ∃ u ∈ values, ∃ v ∈ values, ∃ w ∈ values, compare? u v = some .lt ∧ compare? u w = none

instance (values : List Json) : Decidable (Mixed values) :=
  inferInstanceAs (Decidable (∃ u ∈ values, ∃ v ∈ values, ∃ w ∈ values,
    compare? u v = some .lt ∧ compare? u w = none))

/-- What the lesser of two values cannot be compared with, the greater one cannot either. -/
lemma compare?_eq_none {u v w : Json} (huv : compare? u v = some .lt)
    (huw : compare? u w = none) : compare? v w = none := by
  cases u <;> cases w <;> cases huw <;> cases v <;> first | rfl | cases huv

/-- How two values stand to each other; values that are not comparable are tied. -/
def standing (v w : Json) : Ordering := (compare? v w).getD .eq

lemma standing_swap (v w : Json) : standing w v = (standing v w).swap := by
  rw [standing, standing, compare?_swap v w]
  cases compare? v w <;> rfl

end Column

/-! ## Transitive comparisons -/

/-- A comparison is transitive on some things: what is not after a thing that is not after another
one is not after that one. -/
def TransitiveOn {α : Type} (cmp : α → α → Ordering) (l : List α) : Prop :=
  ∀ a ∈ l, ∀ b ∈ l, ∀ c ∈ l, cmp a b ≠ .gt → cmp b c ≠ .gt → cmp a c ≠ .gt

instance {α : Type} (cmp : α → α → Ordering) (l : List α) : Decidable (TransitiveOn cmp l) :=
  inferInstanceAs (Decidable (∀ a ∈ l, ∀ b ∈ l, ∀ c ∈ l,
    cmp a b ≠ .gt → cmp b c ≠ .gt → cmp a c ≠ .gt))

/-- Whether a comparison is turned round does not matter to its being transitive. -/
lemma transitiveOn_swap {α : Type} {cmp : α → α → Ordering}
    (hswap : ∀ a b, cmp b a = (cmp a b).swap) {l : List α} :
    TransitiveOn (fun a b => (cmp a b).swap) l ↔ TransitiveOn cmp l := by
  have hturned : (fun a b => (cmp a b).swap) = fun a b => cmp b a :=
    funext fun a => funext fun b => (hswap a b).symm
  rw [hturned]
  exact ⟨fun h a ha b hb c hc hab hbc => h c hc b hb a ha hbc hab,
    fun h a ha b hb c hc hab hbc => h c hc b hb a ha hbc hab⟩

/-- What is neither less nor greater is tied. -/
lemma eq_of_neither {o : Ordering} (hgt : o ≠ .gt) (hlt : ¬ o = .lt) : o = .eq := by
  cases o with
  | lt => exact absurd rfl hlt
  | eq => rfl
  | gt => exact absurd rfl hgt

namespace Column

/-- The values of a column are compared transitively exactly if they are not mixed. -/
lemma transitiveOn_standing {values : List Json} :
    TransitiveOn standing values ↔ ¬ Mixed values := by
  constructor
  · rintro htrans ⟨u, hu, v, hv, w, hw, huv, huw⟩
    -- the greater one is tied with the third, and the third with the lesser one
    refine htrans v hv w hw u hu ?_ ?_ ?_
    · rw [standing, compare?_eq_none huv huw]
      decide
    · rw [standing_swap, standing, huw]
      decide
    · rw [standing_swap, standing, huv]
      rfl
  · intro hmixed a ha b hb c hc hab hbc hac
    have hca : compare? c a = some .lt := by
      have hgt : compare? a c = some .gt := by
        rw [standing] at hac
        cases h : compare? a c with
        | none => simp [h] at hac
        | some o => simpa [h] using hac
      rw [compare?_swap a c, hgt]
      rfl
    -- the least of the three can be compared with the middle one, so all comparisons can be made
    obtain ⟨o, hbc'⟩ : ∃ o, compare? b c = some o := by
      cases h : compare? b c with
      | some o => exact ⟨o, rfl⟩
      | none =>
        refine (hmixed ⟨c, hc, a, ha, b, hb, hca, ?_⟩).elim
        rw [compare?_swap b c, h]
        rfl
    have ho : o.isLE = true := by
      rw [standing, hbc'] at hbc
      exact Ordering.isLE_iff_ne_gt.mpr hbc
    obtain ⟨p, hba, -⟩ := compare?_trans hbc' ho hca rfl
    have hab' : compare? a b = some p.swap := by
      rw [compare?_swap b a, hba]
      rfl
    have hp : p.swap.isLE = true := by
      rw [standing, hab'] at hab
      exact Ordering.isLE_iff_ne_gt.mpr hab
    obtain ⟨q, hac', hq⟩ := compare?_trans hab' hp hbc' ho
    rw [standing, hac'] at hac
    exact Ordering.isLE_iff_ne_gt.mp hq hac

end Column

/-! ## Rows -/

namespace QuerySpec

variable {key : String × Direction} {keys : List (String × Direction)} {rows : List Json}

lemma columnOrdering_swap (key : String × Direction) (a b : Json) :
    columnOrdering key b a = (columnOrdering key a b).swap := by
  have hstanding := Column.standing_swap (cell a key.1) (cell b key.1)
  obtain ⟨column, direction⟩ := key
  cases direction with
  | asc => exact hstanding
  | desc => exact congrArg Ordering.swap hstanding

/-- Turning a comparison of rows round reverses it. -/
lemma rowOrdering_swap (keys : List (String × Direction)) (a b : Json) :
    rowOrdering keys b a = (rowOrdering keys a b).swap := by
  induction keys with
  | nil => rfl
  | cons key rest ih =>
    rw [rowOrdering, rowOrdering, columnOrdering_swap key a b]
    cases columnOrdering key a b with
    | lt => rfl
    | eq => exact ih
    | gt => rfl

/-- The column of some rows. -/
def columnOf (key : String × Direction) (rows : List Json) : List Json :=
  rows.map fun row => cell row key.1

/-- Rows are compared by one column transitively exactly if its values are not mixed. -/
lemma transitiveOn_columnOrdering :
    TransitiveOn (columnOrdering key) rows ↔ ¬ Column.Mixed (columnOf key rows) := by
  have hcells : TransitiveOn Column.standing (columnOf key rows) ↔
      TransitiveOn (fun a b => Column.standing (cell a key.1) (cell b key.1)) rows := by
    simp only [TransitiveOn, columnOf, List.forall_mem_map]
  rw [← Column.transitiveOn_standing, hcells]
  obtain ⟨column, direction⟩ := key
  cases direction with
  | asc => rfl
  | desc => exact transitiveOn_swap fun a b => Column.standing_swap _ _

/-- The first column that tells two rows apart decides. -/
lemma rowOrdering_cons (key : String × Direction) (keys : List (String × Direction)) (a b : Json) :
    rowOrdering (key :: keys) a b = (columnOrdering key a b).then (rowOrdering keys a b) := by
  rw [rowOrdering]
  cases columnOrdering key a b <;> rfl

lemma rowOrdering_self (keys : List (String × Direction)) (a : Json) :
    rowOrdering keys a a = .eq := by
  have hswap := rowOrdering_swap keys a a
  cases h : rowOrdering keys a a with
  | eq => rfl
  | lt => rw [h] at hswap; cases hswap
  | gt => rw [h] at hswap; cases hswap

/-- A comparison by one column and then by others is transitive if both are. -/
lemma transitiveOn_cons (hkey : TransitiveOn (columnOrdering key) rows)
    (hrest : TransitiveOn (rowOrdering keys) rows) :
    TransitiveOn (rowOrdering (key :: keys)) rows := by
  intro a ha b hb c hc hab hbc hac
  rw [rowOrdering_cons, ne_eq, Ordering.then_eq_gt, not_or, not_and] at hab hbc
  rw [rowOrdering_cons, Ordering.then_eq_gt] at hac
  obtain ⟨heq, hgt⟩ := hac.resolve_left (hkey a ha b hb c hc hab.1 hbc.1)
  -- the column ties the outer rows, so it ties the middle one with both
  have hca : columnOrdering key c a ≠ .gt := by
    rw [columnOrdering_swap key a c, heq]
    decide
  have hba := hkey b hb c hc a ha hbc.1 hca
  have hcb := hkey c hc a ha b hb hca hab.1
  rw [columnOrdering_swap key a b, ne_eq, Ordering.swap_eq_gt] at hba
  rw [columnOrdering_swap key b c, ne_eq, Ordering.swap_eq_gt] at hcb
  exact hrest a ha b hb c hc (hab.2 (eq_of_neither hab.1 hba)) (hbc.2 (eq_of_neither hbc.1 hcb))
    hgt

/-- Rows none of whose columns is mixed are compared transitively. -/
theorem transitiveOn_rowOrdering (h : ∀ key ∈ keys, ¬ Column.Mixed (columnOf key rows)) :
    TransitiveOn (rowOrdering keys) rows := by
  induction keys with
  | nil =>
    intro a _ b _ c _ _ _ hac
    cases hac
  | cons key rest ih =>
    obtain ⟨hkey, hrest⟩ := List.forall_mem_cons.mp h
    exact transitiveOn_cons (transitiveOn_columnOrdering.mpr hkey) (ih hrest)

lemma rowOrdering_singleton (key : String × Direction) :
    rowOrdering [key] = columnOrdering key := by
  funext a b
  rw [rowOrdering_cons]
  exact Ordering.then_eq

/-! ## Arrangements -/

/-- Whether a row is tied with another one. -/
def tied (keys : List (String × Direction)) (row other : Json) : Bool :=
  rowOrdering keys row other = .eq

/-- Some rows stand pairwise in the order of the keys, and those that are tied as they did. -/
structure InOrder (keys : List (String × Direction)) (rows sorted : List Json) : Prop where
  same : sorted.Perm rows
  ordered : sorted.Pairwise fun a b => rowOrdering keys a b ≠ .gt
  ties : ∀ row, row ∈ rows → sorted.filter (tied keys row) = rows.filter (tied keys row)

/-- Two arrangements of the same rows that agree in what is tied are the same. -/
lemma eq_of_ordered {sorted other : List Json} (hsame : other.Perm sorted)
    (hsorted : sorted.Pairwise fun a b => rowOrdering keys a b ≠ .gt)
    (hother : other.Pairwise fun a b => rowOrdering keys a b ≠ .gt)
    (hties : ∀ row ∈ sorted, other.filter (tied keys row) = sorted.filter (tied keys row)) :
    other = sorted := by
  induction sorted generalizing other with
  | nil => exact hsame.eq_nil
  | cons a sorted ih =>
    cases other with
    | nil => exact hsame.symm.eq_nil.symm
    | cons b other =>
      have hself : ∀ a, tied keys a a = true := fun a => decide_eq_true (rowOrdering_self keys a)
      rw [List.pairwise_cons] at hsorted hother
      -- neither of the first rows comes after the other one, so they are tied
      have hab : tied keys a b = true := by
        rcases List.mem_cons.mp (hsame.mem_iff.mp List.mem_cons_self) with rfl | hb
        · exact hself b
        rcases List.mem_cons.mp (hsame.mem_iff.mpr List.mem_cons_self) with rfl | ha
        · exact hself a
        have hge := hother.1 a ha
        rw [rowOrdering_swap keys a b, ne_eq, Ordering.swap_eq_gt] at hge
        exact decide_eq_true (eq_of_neither (hsorted.1 b hb) hge)
      obtain rfl : b = a := by
        have hfirst := hties a List.mem_cons_self
        rw [List.filter_cons_of_pos hab, List.filter_cons_of_pos (hself a)] at hfirst
        exact (List.cons.inj hfirst).1
      congr 1
      refine ih hsame.cons_inv hsorted.2 hother.2 fun row hrow => ?_
      have htied := hties row (List.mem_cons_of_mem _ hrow)
      rw [List.filter_cons, List.filter_cons] at htied
      split at htied
      · exact (List.cons.inj htied).2
      · exact htied

/-- There is at most one arrangement in the order of the keys. -/
theorem InOrder.unique {sorted other : List Json} (h : InOrder keys rows sorted)
    (h' : InOrder keys rows other) : other = sorted :=
  eq_of_ordered (h'.same.trans h.same.symm) h.ordered h'.ordered fun row hrow =>
    (h'.ties row (h.same.mem_iff.mp hrow)).trans (h.ties row (h.same.mem_iff.mp hrow)).symm

/-! ### Sorting -/

section

variable (htrans : TransitiveOn (rowOrdering keys) rows) {row : Json} (hrow : row ∈ rows)
  {sorted : List Json} (hsub : ∀ r ∈ sorted, r ∈ rows)
include htrans hrow hsub

/-- Rows that stand in reverse order do so with a row put among them. -/
lemma insertRow_ordered (h : sorted.Pairwise fun later r => rowOrdering keys r later ≠ .gt) :
    (insertRow keys row sorted).Pairwise fun later r => rowOrdering keys r later ≠ .gt := by
  induction sorted with
  | nil => exact List.pairwise_singleton _ row
  | cons last rest ih =>
    obtain ⟨hlast, hrest⟩ := List.forall_mem_cons.mp hsub
    rw [List.pairwise_cons] at h
    rw [insertRow]
    split
    · rename_i hbefore
      refine List.pairwise_cons.mpr ⟨fun r hr => ?_, ih hrest h.2⟩
      rcases List.mem_cons.mp ((insertRow_perm keys row rest).mem_iff.mp hr) with rfl | hr
      · rw [hbefore]
        decide
      · exact h.1 r hr
    · rename_i hbefore
      have hafter : rowOrdering keys last row ≠ .gt := by
        rw [rowOrdering_swap keys row last, ne_eq, Ordering.swap_eq_gt]
        exact hbefore
      refine List.pairwise_cons.mpr ⟨fun r hr => ?_, List.pairwise_cons.mpr h⟩
      rcases List.mem_cons.mp hr with rfl | hr
      · exact hafter
      · exact htrans r (hrest r hr) last hlast row hrow (h.1 r hr) hafter

/-- A row is put before all those that it is tied with. -/
lemma filter_insertRow {other : Json} (hother : other ∈ rows) :
    (insertRow keys row sorted).filter (tied keys other) =
      (row :: sorted).filter (tied keys other) := by
  induction sorted with
  | nil => rfl
  | cons last rest ih =>
    obtain ⟨hlast, hrest⟩ := List.forall_mem_cons.mp hsub
    rw [insertRow]
    split
    · rename_i hbefore
      rw [List.filter_cons, ih hrest, List.filter_cons, List.filter_cons, List.filter_cons]
      by_cases hboth : tied keys other row = true ∧ tied keys other last = true
      · -- a row that is tied with both would not let them stand apart
        have hgt := htrans last hlast other hother row hrow
          (by rw [rowOrdering_swap keys other last, of_decide_eq_true hboth.2]; decide)
          (by rw [of_decide_eq_true hboth.1]; decide)
        rw [rowOrdering_swap keys row last, hbefore] at hgt
        exact (hgt rfl).elim
      · split <;> split <;> simp_all
    · rfl

end

/-- Rows that are compared transitively are brought into the order of the keys. -/
theorem inOrder_sortRows (htrans : TransitiveOn (rowOrdering keys) rows) :
    InOrder keys rows (sortRows keys rows) := by
  have hfold : ∀ rest sorted : List Json, (∀ r ∈ rest, r ∈ rows) → (∀ r ∈ sorted, r ∈ rows) →
      (sorted.Pairwise fun later r => rowOrdering keys r later ≠ .gt) →
      ((rest.foldl (fun sorted row => insertRow keys row sorted) sorted).Pairwise
        fun later r => rowOrdering keys r later ≠ .gt) ∧
      ∀ r ∈ rows, (rest.foldl (fun sorted row => insertRow keys row sorted) sorted).filter
        (tied keys r) = (rest.reverse ++ sorted).filter (tied keys r) := by
    intro rest
    induction rest with
    | nil => exact fun sorted _ _ hsorted => ⟨hsorted, fun _ _ => rfl⟩
    | cons row rest ih =>
      intro sorted hrest hsub hsorted
      obtain ⟨hrow, hrest⟩ := List.forall_mem_cons.mp hrest
      obtain ⟨hordered, hties⟩ := ih (insertRow keys row sorted) hrest
        (fun r hr => by
          rcases List.mem_cons.mp ((insertRow_perm keys row sorted).mem_iff.mp hr) with rfl | hr
          · exact hrow
          · exact hsub r hr)
        (insertRow_ordered htrans hrow hsub hsorted)
      refine ⟨hordered, fun r hr => ?_⟩
      rw [List.foldl_cons, hties r hr, List.filter_append,
        filter_insertRow htrans hrow hsub hr, ← List.filter_append, List.reverse_cons,
        List.append_assoc]
      rfl
  obtain ⟨hordered, hties⟩ := hfold rows [] (fun _ h => h) (by simp) .nil
  refine ⟨sortRows_perm keys rows, List.pairwise_reverse.mpr hordered, fun row hrow => ?_⟩
  rw [sortRows, List.filter_reverse, hties row hrow, List.append_nil, List.filter_reverse,
    List.reverse_reverse]

/-! ## Queries -/

/-- What matches a query are the rows that it keeps, brought into order. -/
lemma matching_eq_sortRows {q : QuerySpec} {stored sorted : List Json}
    (hkeys : q.orderKeys = .ok keys) (hkept : q.keep stored = .ok rows)
    (h : q.matching stored = .ok sorted) : sorted = sortRows keys rows := by
  rw [matching] at h
  split at h
  · cases h
  · split at h
    · cases h
    · rw [hkept, ok_bind, hkeys] at h
      exact (Except.ok.inj h).symm

/-- Turning a comparison of rows round reverses it.  One key compares them transitively exactly if
its column is not mixed, and several keys do so if none of their columns is.  Where the rows that a
query keeps are compared transitively, there is one arrangement of them in the order of the keys
with tied rows as they were stored, and what the store returns is its page. -/
theorem rows_in_key_order (keys : List (String × Direction)) (rows : List Json) :
    (∀ a b, rowOrdering keys b a = (rowOrdering keys a b).swap) ∧
    (∀ key, TransitiveOn (rowOrdering [key]) rows ↔ ¬ Column.Mixed (columnOf key rows)) ∧
    ((∀ key ∈ keys, ¬ Column.Mixed (columnOf key rows)) →
      TransitiveOn (rowOrdering keys) rows) ∧
    (TransitiveOn (rowOrdering keys) rows →
      ∀ (schema : Schema) (q : QuerySpec) (m m' : Memory) (page : List Json),
        q.orderKeys = .ok keys → q.keep (m.rows q.rootEntity) = .ok rows →
        (Memory.persistence schema).execute q m = (.ok page, m') →
        ∃ sorted, page = q.window sorted ∧ ∀ other, InOrder keys rows other ↔ other = sorted) := by
  refine ⟨rowOrdering_swap keys, fun key => ?_, transitiveOn_rowOrdering, ?_⟩
  · rw [rowOrdering_singleton]
    exact transitiveOn_columnOrdering
  · intro htrans schema q m m' page hkeys hkept hexecuted
    have hsorted := inOrder_sortRows htrans
    have hexecuted : Memory.execute q m = (.ok page, m') := hexecuted
    rw [Memory.execute] at hexecuted
    split at hexecuted
    · rename_i sorted hmatching
      cases hexecuted
      obtain rfl := matching_eq_sortRows hkeys hkept hmatching
      refine ⟨sortRows keys rows, rfl, fun other => ⟨hsorted.unique, ?_⟩⟩
      rintro rfl
      exact hsorted
    · cases hexecuted

/-- The albums before 2000 have years only, and the two of 1971 are returned as they were stored. -/
theorem oldAlbums_in_key_order :
    ∃ a b d, Memory.oldAlbums.keep (Memory.fourAlbums.rows "album") = .ok [a, b, d] ∧
      (∀ key ∈ [("year", Direction.asc)], ¬ Column.Mixed (columnOf key [a, b, d])) ∧
      ∃ sorted, [b, d, a] = Memory.oldAlbums.window sorted ∧
        ∀ other, InOrder [("year", .asc)] [a, b, d] other ↔ other = sorted := by
  refine ⟨_, _, _, rfl, by decide +kernel, ?_⟩
  obtain ⟨-, -, htrans, hpage⟩ := rows_in_key_order [("year", .asc)]
    [.obj [("id", .str "a"), ("year", .int 1976)], .obj [("id", .str "b"), ("year", .int 1971)],
      .obj [("id", .str "d"), ("year", .int 1971)]]
  exact hpage (htrans (by decide +kernel)) (fun _ => []) Memory.oldAlbums Memory.fourAlbums
    Memory.fourAlbums _ rfl rfl rfl

/-! ## Albums without a year -/

/-- A store with three albums, one of which has a text for its year. -/
def undatedAlbums : Memory :=
  ((Memory.empty.put "album" (.str "a") (.obj [("id", .str "a"), ("year", .int 2016)])).put
    "album" (.str "b") (.obj [("id", .str "b"), ("year", .str "unknown")])).put
    "album" (.str "c") (.obj [("id", .str "c"), ("year", .int 1971)])

/-- All albums, the oldest first. -/
def albumsByYear : QuerySpec := { QuerySpec.ofType "album" with orderBy := [⟨"t.year", .asc⟩] }

/-- The text is tied with both years, so the comparison is not transitive, and the album of 2016 is
returned before the one of 1971. -/
theorem undatedAlbums_out_of_order :
    ∃ a b c, (Memory.persistence fun _ => []).execute albumsByYear undatedAlbums =
        (.ok [a, b, c], undatedAlbums) ∧
      rowOrdering [("year", .asc)] a b ≠ .gt ∧ rowOrdering [("year", .asc)] b c ≠ .gt ∧
      rowOrdering [("year", .asc)] a c = .gt :=
  ⟨_, _, _, rfl, by decide +kernel, by decide +kernel, by decide +kernel⟩

end QuerySpec

end EntityGate
