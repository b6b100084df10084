/-
# Pages partition the result

A page is cut out of all rows that a query matches, in the order that it asks for; what is matched
and how it is ordered depends neither on the limit nor on the offset.  A client that turns the
pages goes on by the limit as long as it is told that rows follow.  It is told so exactly while
some do, in spite of the sums that stay at the largest number of 64 bits, so it comes to an end
and has then seen each row once, in order.
-/
import EntityGate.Proofs.Evaluation
import EntityGate.Query.Page
import EntityGate.Store.Memory

namespace EntityGate

open Decision

/-! ## Where a page stands -/

namespace Page

variable {offset limit total : Nat}

/-- A client is told that rows follow exactly if they do, although the sum may stay at the largest
number. -/
lemma hasNext_iff (htotal : total ≤ largest) :
    (Page.of offset limit total).hasNext = true ↔ max offset 1 - 1 + limit < total := by
  have hstart : max offset 1 - 1 = offset - 1 := by omega
  have hnext : (Page.of offset limit total).hasNext =
      decide (min (offset - 1 + limit) largest < total) := rfl
  rw [hnext, hstart, decide_eq_true_iff]
  constructor
  · intro h
    -- the sum itself is below the total, since the largest number is not
    omega
  · intro h
    omega

lemma hasPrev_iff : (Page.of offset limit total).hasPrev = true ↔ 1 < offset := by
  have hprev : (Page.of offset limit total).hasPrev = decide (0 < offset - 1) := rfl
  rw [hprev, decide_eq_true_iff]
  omega

end Page

/-! ## All rows that match -/

namespace QuerySpec

variable {q : QuerySpec}

/-- Whether the conditions of a query hold of a row. -/
def keeps (q : QuerySpec) (row : Json) : Bool :=
  match q.clauseHolds row q.conditions with
  | .ok b => b
  | .error _ => false

lemma keep_eq_ok {rows kept : List Json} (h : q.keep rows = .ok kept) :
    kept = rows.filter q.keeps := by
  induction rows generalizing kept with
  | nil =>
    cases h
    rfl
  | cons row rest ih =>
    rw [keep] at h
    obtain ⟨holds, hholds, h⟩ := bind_eq_ok.mp h
    obtain ⟨others, hothers, h⟩ := bind_eq_ok.mp h
    have hkeeps : q.keeps row = holds := by rw [keeps, hholds]
    have hrest : others = rest.filter q.keeps := ih hothers
    cases h
    rw [List.filter_cons, hkeeps, ← hrest]

lemma insertRow_perm (keys : List (String × Direction)) (row : Json) (sorted : List Json) :
    (insertRow keys row sorted).Perm (row :: sorted) := by
  induction sorted with
  | nil => exact .refl _
  | cons last rest ih =>
    rw [insertRow]
    split
    · exact (ih.cons last).trans (.swap row last rest)
    · exact .refl _

/-- Rows that are brought into an order are the same rows. -/
lemma sortRows_perm (keys : List (String × Direction)) (rows : List Json) :
    (sortRows keys rows).Perm rows := by
  have hfold : ∀ rows sorted : List Json,
      (rows.foldl (fun sorted row => insertRow keys row sorted) sorted).Perm (rows ++ sorted) := by
    intro rows
    induction rows with
    | nil => exact fun sorted => .refl _
    | cons row rest ih =>
      intro sorted
      rw [List.foldl_cons]
      have hinsert : (rest ++ insertRow keys row sorted).Perm (rest ++ row :: sorted) :=
        (insertRow_perm keys row sorted).append_left rest
      exact ((ih _).trans hinsert).trans List.perm_middle
  have hsorted := hfold rows []
  rw [List.append_nil] at hsorted
  exact (List.reverse_perm _).trans hsorted

/-- The rows that a query asks for are those of which its conditions hold. -/
lemma matching_perm {rows all : List Json} (h : q.matching rows = .ok all) :
    all.Perm (rows.filter q.keeps) := by
  rw [matching] at h
  split at h
  · cases h
  · split at h
    · cases h
    · obtain ⟨kept, hkept, h⟩ := bind_eq_ok.mp h
      obtain ⟨keys, -, h⟩ := bind_eq_ok.mp h
      cases h
      rw [← keep_eq_ok hkept]
      exact sortRows_perm keys kept

/-- A query with another limit and another offset. -/
def paged (q : QuerySpec) (limit offset : Nat) : QuerySpec := { q with limit, offset }

/-- Which rows are kept depends neither on the limit nor on the offset. -/
lemma keep_paged (limit offset : Nat) (rows : List Json) :
    (q.paged limit offset).keep rows = q.keep rows := by
  have hclause : ∀ row, (q.paged limit offset).clauseHolds row q.conditions =
      q.clauseHolds row q.conditions := by
    intro row
    cases q.conditions with
    | none => rfl
    | some e => exact holds_congr e ⟨rfl, fun _ _ => rfl⟩ ⟨rfl, fun _ _ => rfl⟩
  have hconditions : (q.paged limit offset).conditions = q.conditions := rfl
  induction rows with
  | nil => rfl
  | cons row rest ih => rw [keep, keep, ih, hconditions, hclause]

/-- Nor does what matches, and in which order. -/
lemma matching_paged (limit offset : Nat) (rows : List Json) :
    (q.paged limit offset).matching rows = q.matching rows := by
  have hkeys : (q.paged limit offset).orderKeys = q.orderKeys := rfl
  rw [matching, matching, keep_paged, hkeys]
  rfl

/-- The rows of a page by their positions. -/
lemma getElem?_window (limit offset : Nat) (all : List Json) (i : Nat) :
    ((q.paged limit offset).window all)[i]? =
      if i < limit then all[max offset 1 - 1 + i]? else none := by
  have hstart : max offset 1 - 1 = offset - 1 := by omega
  have hwindow : (q.paged limit offset).window all = (all.drop (offset - 1)).take limit := rfl
  rw [hwindow, List.getElem?_take, List.getElem?_drop, hstart]

end QuerySpec

/-! ## Turning pages -/

namespace Memory

variable (schema : Schema) {q : QuerySpec} {m : Memory} {all : List Json}

/-- A query whose rows match is answered with a page of them and, if it is asked for, with their
number. -/
lemma executePaginated_paged (h : q.matching (m.rows q.rootEntity) = .ok all)
    (limit offset : Nat) (fetchJoin returnCount : Bool) :
    (persistence schema).executePaginated (q.paged limit offset) fetchJoin returnCount m =
      (.ok ⟨if returnCount then some all.length else none, (q.paged limit offset).window all⟩,
        m) := by
  have hmatching : (q.paged limit offset).matching (m.rows (q.paged limit offset).rootEntity) =
      .ok all := (q.matching_paged limit offset _).trans h
  show executePaginated (q.paged limit offset) returnCount m = _
  rw [executePaginated, hmatching]

/-- What a client sees that turns the pages of a query: from an offset on, the offset and the rows
of each page.  It asks for the number of rows and goes on by the limit as long as the page says
that rows follow. -/
inductive Turned (p : Persistence Memory) (q : QuerySpec) (limit : Nat) :
    Memory → Nat → List (Nat × List Json) → Prop where
  | last {m m' : Memory} {offset total : Nat} {rows : List Json}
      (hpage : p.executePaginated (q.paged limit offset) true true m =
        (.ok ⟨some total, rows⟩, m'))
      (hlast : (Page.of offset limit total).hasNext = false) :
      Turned p q limit m offset [(offset, rows)]
  | next {m m' : Memory} {offset total : Nat} {rows : List Json}
      {pages : List (Nat × List Json)}
      (hpage : p.executePaginated (q.paged limit offset) true true m =
        (.ok ⟨some total, rows⟩, m'))
      (hnext : (Page.of offset limit total).hasNext = true)
      (hrest : Turned p q limit m' (offset + limit) pages) :
      Turned p q limit m offset ((offset, rows) :: pages)

/-- A client has no choice. -/
lemma Turned.unique {p : Persistence Memory} {limit offset : Nat}
    {pages other : List (Nat × List Json)} (h : Turned p q limit m offset pages)
    (h' : Turned p q limit m offset other) : other = pages := by
  induction h generalizing other with
  | last hpage hlast =>
    cases h' with
    | last hpage' _ =>
      rw [hpage] at hpage'
      cases hpage'
      rfl
    | next hpage' hnext' _ =>
      rw [hpage] at hpage'
      cases hpage'
      rw [hlast] at hnext'
      cases hnext'
  | next hpage hnext _ ih =>
    cases h' with
    | last hpage' hlast' =>
      rw [hpage] at hpage'
      cases hpage'
      rw [hnext] at hlast'
      cases hlast'
    | next hpage' _ hrest' =>
      rw [hpage] at hpage'
      cases hpage'
      rw [ih hrest']

/-- From any offset on, a client sees the rows from there to the end, and no offset that it comes
to is too large a number. -/
lemma exists_turned (h : q.matching (m.rows q.rootEntity) = .ok all)
    (hlength : all.length ≤ Page.largest) {limit : Nat} (hlimit : 1 ≤ limit) {offset : Nat}
    (hfirst : 1 ≤ offset) (hoffset : offset ≤ Page.largest) :
    ∃ pages, Turned (persistence schema) q limit m offset pages ∧
      pages.flatMap Prod.snd = all.drop (offset - 1) ∧
      ∀ page ∈ pages, page.1 ≤ Page.largest := by
  -- the induction is on the number of rows that are still to be seen
  generalize hleft : all.length - offset = left
  induction left using Nat.strongRecOn generalizing offset with
  | _ left ih =>
    have hpage := executePaginated_paged schema h limit offset true true
    have hwindow : (q.paged limit offset).window all = (all.drop (offset - 1)).take limit := rfl
    rw [if_pos rfl, hwindow] at hpage
    have hiff : (Page.of offset limit all.length).hasNext = true ↔
        max offset 1 - 1 + limit < all.length := Page.hasNext_iff hlength
    cases hnext : (Page.of offset limit all.length).hasNext with
    | true =>
      have hfollow : max offset 1 - 1 + limit < all.length := hiff.mp hnext
      have hsum : offset + limit ≤ all.length := by omega
      obtain ⟨pages, hturned, hrows, hoffsets⟩ := ih (all.length - (offset + limit)) (by omega)
        (by omega) (by omega) rfl
      refine ⟨_, .next hpage hnext hturned, ?_, ?_⟩
      · have hsplit : offset + limit - 1 = offset - 1 + limit := by omega
        rw [List.flatMap_cons, hrows, hsplit, ← List.drop_drop]
        exact List.take_append_drop limit (all.drop (offset - 1))
      · intro page hpage
        rcases List.mem_cons.mp hpage with rfl | hpage
        · exact hoffset
        · exact hoffsets page hpage
    | false =>
      have hend : all.length ≤ offset - 1 + limit := by
        refine Nat.le_of_not_lt fun hmore => ?_
        have htold : (Page.of offset limit all.length).hasNext = true := hiff.mpr (by omega)
        rw [hnext] at htold
        cases htold
      refine ⟨_, .last hpage hnext, ?_, ?_⟩
      · have hshort : (all.drop (offset - 1)).length ≤ limit := by
          rw [List.length_drop]
          omega
        rw [List.flatMap_cons, List.flatMap_nil, List.append_nil]
        exact List.take_of_length_le hshort
      · intro page hpage
        rw [List.mem_singleton.mp hpage]
        exact hoffset

/-- How a query is paged: `all` are the rows that it matches, in order. -/
structure Paged (p : Persistence Memory) (q : QuerySpec) (m : Memory) (all : List Json) : Prop where
  matched : q.matching (m.rows q.rootEntity) = .ok all
  /-- They are the rows of which the conditions hold. -/
  kept : all.Perm ((m.rows q.rootEntity).filter q.keeps)
  /-- A page holds the rows at its positions, and tells the number of all rows. -/
  cut : ∀ limit offset fetchJoin returnCount, ∃ page,
    p.executePaginated (q.paged limit offset) fetchJoin returnCount m = (.ok page, m) ∧
      page.count = (if returnCount then some all.length else none) ∧
      ∀ i, page.rows[i]? = if i < limit then all[max offset 1 - 1 + i]? else none
  /-- As long as rows are counted by numbers of 64 bits, a client that turns the pages from the
  first one on comes to an end, sees each row once, in order, and comes to no offset that is too
  large. -/
  turned : all.length ≤ Page.largest → ∀ limit, 1 ≤ limit →
    ∃ pages, Turned p q limit m 1 pages ∧
      (∀ other, Turned p q limit m 1 other → other = pages) ∧
      pages.flatMap Prod.snd = all ∧ ∀ page ∈ pages, page.1 ≤ Page.largest

/-- The pages of a query that can be executed partition all rows that it matches, and what a client
is told about a page is where it stands among them. -/
theorem pages_partition (schema : Schema) (q : QuerySpec) {m m' : Memory} {rows : List Json}
    (hexecuted : (persistence schema).execute q m = (.ok rows, m')) :
    (∃ all, Paged (persistence schema) q m all) ∧
    ∀ offset limit total, total ≤ Page.largest →
      ((Page.of offset limit total).hasNext = true ↔ max offset 1 - 1 + limit < total) ∧
      ((Page.of offset limit total).hasPrev = true ↔ 1 < offset) := by
  refine ⟨?_, fun offset limit total htotal => ⟨Page.hasNext_iff htotal, Page.hasPrev_iff⟩⟩
  have hexecuted : execute q m = (.ok rows, m') := hexecuted
  rw [execute] at hexecuted
  split at hexecuted
  · rename_i all hall
    refine ⟨all, ?_⟩
    constructor
    case matched => exact hall
    case kept => exact QuerySpec.matching_perm hall
    case cut =>
      intro limit offset fetchJoin returnCount
      exact ⟨_, executePaginated_paged schema hall limit offset fetchJoin returnCount, rfl,
        QuerySpec.getElem?_window limit offset all⟩
    case turned =>
      intro hlength limit hlimit
      obtain ⟨pages, hturned, hpages, hoffsets⟩ :=
        exists_turned schema hall hlength hlimit (Nat.le_refl 1) (by decide)
      exact ⟨pages, hturned, fun other hother => hturned.unique hother, hpages, hoffsets⟩
  · cases hexecuted

/-! ## Albums by year -/

/-- A store with four albums. -/
def fourAlbums : Memory :=
  ((((Memory.empty.put "album" (.str "a") (.obj [("id", .str "a"), ("year", .int 1976)])).put
    "album" (.str "b") (.obj [("id", .str "b"), ("year", .int 1971)])).put
    "album" (.str "c") (.obj [("id", .str "c"), ("year", .int 2016)])).put
    "album" (.str "d") (.obj [("id", .str "d"), ("year", .int 1971)]))

/-- The albums before some year, the oldest first. -/
def oldAlbums : QuerySpec :=
  { QuerySpec.ofType "album" with
    conditions := some (.predicate "t.year" .lt [.param "p"])
    parameters := .ofList [("p", ⟨.int 2000, none⟩)]
    orderBy := [⟨"t.year", .asc⟩] }

/-- The three old albums come on two pages of two rows at most. -/
theorem oldAlbums_partition :
    ∃ b d a, (persistence fun _ => []).execute oldAlbums fourAlbums = (.ok [b, d, a], fourAlbums) ∧
      (∃ all, Paged (persistence fun _ => []) oldAlbums fourAlbums all) ∧
      Turned (persistence fun _ => []) oldAlbums 2 fourAlbums 1 [(1, [b, d]), (3, [a])] := by
  have hexecuted : (persistence fun _ => []).execute oldAlbums fourAlbums =
      (.ok [.obj [("id", .str "b"), ("year", .int 1971)],
        .obj [("id", .str "d"), ("year", .int 1971)],
        .obj [("id", .str "a"), ("year", .int 1976)]], fourAlbums) := rfl
  refine ⟨_, _, _, hexecuted, (pages_partition _ oldAlbums hexecuted).1, ?_⟩
  exact .next rfl rfl (.last rfl rfl)

end Memory

end EntityGate
