/-
# Every entry is executed once, children before parents

The tasks of a mutation form a tree: below a task are the entries of the chain requests in its
entry.  If listeners pass on what they get, a mutation that succeeds writes the tasks of this tree
in post-order, each of them once, and none that only reads.  Around each write are the events of its
type: before it, all listeners of the event before a write, and after it, all listeners of the event
after one.  One record is returned for each task of the call, in their order.
-/
import EntityGate.Proofs.Binding
import EntityGate.Proofs.Tasks

namespace EntityGate

open Mutating (Triple)

/-! ## Post-order -/

/-- The tasks right below a task. -/
def Task.children (schema : Schema) (t : Task) : Except Fault (List Task) := do
  return (← t.entry.children schema t.entityType).map (.ofChain t)

/-- The tasks of some trees in post-order, from their roots.  A task that reads is left out, with
all that is below it. -/
inductive PostOrder (schema : Schema) : List Task → List Task → Prop where
  | nil : PostOrder schema [] []
  | read {t : Task} {rest done : List Task} (hread : t.chain = .read)
      (hrest : PostOrder schema rest done) : PostOrder schema (t :: rest) done
  | write {t : Task} {rest children nested done : List Task} (hwrite : t.chain ≠ .read)
      (hchildren : t.children schema = .ok children) (hnested : PostOrder schema children nested)
      (hrest : PostOrder schema rest done) :
      PostOrder schema (t :: rest) (nested ++ t :: done)

namespace PostOrder

variable {schema : Schema} {ts ts' done done' : List Task}

lemma append (h : PostOrder schema ts done) (h' : PostOrder schema ts' done') :
    PostOrder schema (ts ++ ts') (done ++ done') := by
  induction h with
  | nil => exact h'
  | read hread _ ih => exact .read hread ih
  | write hwrite hchildren hnested _ _ ih =>
    rw [List.append_assoc]
    exact .write hwrite hchildren hnested ih

/-- There is only one post-order. -/
theorem unique (h : PostOrder schema ts done) (h' : PostOrder schema ts done') : done = done' := by
  induction h generalizing done' with
  | nil =>
    cases h'
    rfl
  | read hread _ ih =>
    cases h' with
    | read _ hrest => exact ih hrest
    | write hwrite => exact absurd hread hwrite
  | write hwrite hchildren _ _ ihnested ih =>
    cases h' with
    | read hread => exact absurd hread hwrite
    | write _ hchildren' hnested' hrest' =>
      rw [hchildren] at hchildren'
      cases hchildren'
      rw [ihnested hnested', ih hrest']

lemma isTop_of_mem_children {t child : Task} {children : List Task}
    (h : t.children schema = .ok children) (hchild : child ∈ children) : child.isTop = false := by
  obtain ⟨cs, -, h⟩ := Decision.bind_eq_ok.mp h
  cases h
  obtain ⟨c, -, rfl⟩ := List.mem_map.mp hchild
  rfl

/-- Below tasks that are none of the call there are none of the call. -/
lemma isTop_eq_false (h : PostOrder schema ts done) (hts : ∀ t ∈ ts, t.isTop = false) :
    ∀ t ∈ done, t.isTop = false := by
  induction h with
  | nil => exact hts
  | read _ _ ih => exact ih fun t ht => hts t (List.mem_cons_of_mem _ ht)
  | write _ hchildren _ _ ihnested ih =>
    intro t ht
    rcases List.mem_append.mp ht with ht | ht
    · exact ihnested (fun _ => isTop_of_mem_children hchildren) t ht
    · rcases List.mem_cons.mp ht with rfl | ht
      · exact hts t List.mem_cons_self
      · exact ih (fun t ht => hts t (List.mem_cons_of_mem _ ht)) t ht

end PostOrder

/-! ## Filings -/

/-- What was written for a task. -/
structure Filing where
  task : Task
  /-- The record that was made for the task. -/
  ready : EntityRecord
  /-- The row that the store returned. -/
  row : Json

namespace Filing

/-- The record that was sent to the store. -/
def sent (f : Filing) : EntityRecord := f.ready.sent

/-- The record as it was stored. -/
def result (f : Filing) : EntityRecord := f.ready.sent.received f.row

/-- The write that a filing stands for. -/
def write (f : Filing) : Chain × EntityRecord := (f.task.chain, f.sent)

end Filing

/-- The filings of the call. -/
def topFilings (fs : List Filing) : List Filing := fs.filter fun f => f.task.isTop

lemma topFilings_append (fs fs' : List Filing) :
    topFilings (fs ++ fs') = topFilings fs ++ topFilings fs' := List.filter_append _ _

/-- A happening that is no write and no event around one. -/
def Happening.Aside : Happening → Prop
  | called c answered => (called c answered).write? = none
  | heard event _ _ => event ≠ .beforePersist ∧ event ≠ .afterPersist

namespace Gate

variable {σ : Type} (gate : Gate σ)

/-- Listeners only observe: they may fail, and do to the state what they like, but what they return
is the payload that they got. -/
def Observed : Prop :=
  ∀ l ∈ gate.events, ∀ event entityType payload s v s',
    l.listener event entityType payload s = (.ok v, s') → v = payload

/-- What happens when all listeners of an event hear of it and answer. -/
def heardBy (event : Event) (entityType : String) : List Happening :=
  (gate.events.filter fun l => EventBus.listens l event).map fun _ => .heard event entityType true

/-- A filing is made for the entry of its task, under the action of the task. -/
def Files (f : Filing) : Prop :=
  ∃ action start bound, gate.ActsFor f.task action ∧
    gate.Makes action f.task.entry start bound f.ready

/-- A journal follows some filings: it holds one write for each of them, in their order, and each
write stands between the events around it.  All that is written is of the type of its task. -/
inductive Follows : List Filing → List Happening → Prop where
  | nil : Follows [] []
  | aside {fs : List Filing} {journal : List Happening} {h : Happening}
      (hjournal : Follows fs journal) (haside : h.Aside) : Follows fs (journal ++ [h])
  | filed {fs : List Filing} {journal : List Happening} {f : Filing} {c : Rehearsal.Call}
      (hjournal : Follows fs journal) (htype : f.sent.entityType = f.task.entityType)
      (hwrite : (Happening.called c true).write? = some f.write) :
      Follows (fs ++ [f]) (journal ++ (gate.heardBy .beforePersist f.sent.entityType ++
        .called c true :: gate.heardBy .afterPersist f.sent.entityType))

/-- A batch was executed: its tasks were filed in post-order, each for its own entry, the journal
follows the filings, and the records are those of the tasks of the call. -/
structure Executed (b : Batch) (fs : List Filing) (records : List EntityRecord)
    (journal : List Happening) : Prop where
  order : PostOrder gate.persistence.schema b.tasks (fs.map Filing.task)
  files : ∀ f ∈ fs, gate.Files f
  follows : gate.Follows fs journal
  writes : journal.filterMap Happening.write? = fs.map Filing.write
  tops : (topFilings fs).map Filing.task = b.tasks
  results : (topFilings fs).map Filing.result = records

variable {gate}

/-! ### Journals -/

namespace Follows

variable {fs : List Filing} {journal : List Happening}

lemma asides (h : gate.Follows fs journal) {more : List Happening} (hmore : ∀ h ∈ more, h.Aside) :
    gate.Follows fs (journal ++ more) := by
  induction more generalizing journal with
  | nil => simpa using h
  | cons a more ih =>
    rw [List.append_cons]
    exact ih (h.aside (hmore a List.mem_cons_self)) fun h hh => hmore h (List.mem_cons_of_mem _ hh)

lemma filterMap_heardBy (event : Event) (entityType : String) :
    (gate.heardBy event entityType).filterMap Happening.write? = [] := by
  refine List.filterMap_eq_nil_iff.mpr fun h hh => ?_
  obtain ⟨l, -, rfl⟩ := List.mem_map.mp hh
  rfl

/-- The writes of a journal are those of the filings that it follows. -/
theorem writes (h : gate.Follows fs journal) :
    journal.filterMap Happening.write? = fs.map Filing.write := by
  induction h with
  | nil => rfl
  | @aside fs journal h _ haside ih =>
    have hnone : h.write? = none := by
      cases h with
      | called c answered => exact haside
      | heard event entityType answered => rfl
    rw [List.filterMap_append, ih, List.filterMap_cons_none hnone]
    simp
  | filed _ _ hwrite ih =>
    rw [List.filterMap_append, ih, List.filterMap_append, filterMap_heardBy,
      List.filterMap_cons_some hwrite, filterMap_heardBy, List.map_append]
    rfl

end Follows

/-- After `fs`, the filings of some trees were made in post-order, and the journal follows. -/
def Filed (gate : Gate σ) (fs : List Filing) (ts : List Task) (w : Journaled σ) : Prop :=
  ∃ more, PostOrder gate.persistence.schema ts (more.map Filing.task) ∧
    (∀ f ∈ more, gate.Files f) ∧ gate.Follows (fs ++ more) w.journal

lemma Filed.nil {fs : List Filing} {w : Journaled σ} (h : gate.Follows fs w.journal) :
    Filed gate fs [] w :=
  ⟨[], .nil, by simp, by simpa using h⟩

/-- The filings of the trees of some tasks, which returned some records. -/
structure FilingsOf (gate : Gate σ) (ts : List Task) (records : List EntityRecord)
    (fs : List Filing) : Prop where
  order : PostOrder gate.persistence.schema ts (fs.map Filing.task)
  files : ∀ f ∈ fs, gate.Files f
  tops : (∀ t ∈ ts, t.isTop = true) →
    (topFilings fs).map Filing.task = ts ∧ (topFilings fs).map Filing.result = records

lemma FilingsOf.append {ts ts' : List Task} {records records' : List EntityRecord}
    {fs fs' : List Filing} (h : FilingsOf gate ts records fs)
    (h' : FilingsOf gate ts' records' fs') :
    FilingsOf gate (ts ++ ts') (records ++ records') (fs ++ fs') := by
  refine ⟨?_, fun f hf => (List.mem_append.mp hf).elim (h.files f) (h'.files f), fun htop => ?_⟩
  · rw [List.map_append]
    exact h.order.append h'.order
  · obtain ⟨htasks, hresults⟩ := h.tops fun t ht => htop t (List.mem_append_left _ ht)
    obtain ⟨htasks', hresults'⟩ := h'.tops fun t ht => htop t (List.mem_append_right _ ht)
    rw [topFilings_append, List.map_append, List.map_append, htasks, htasks', hresults, hresults']
    exact ⟨rfl, rfl⟩

/-- A task is filed after what is below it. -/
lemma FilingsOf.last {t : Task} {children : List Task} {nested : List Filing} {ready : EntityRecord}
    {row : Json} (hchain : t.chain ≠ .read)
    (hchildren : t.children gate.persistence.schema = .ok children)
    (hnested : PostOrder gate.persistence.schema children (nested.map Filing.task))
    (hfiles : ∀ f ∈ nested, gate.Files f) (hlast : gate.Files ⟨t, ready, row⟩) :
    FilingsOf gate [t] [ready.sent.received row] (nested ++ [⟨t, ready, row⟩]) := by
  constructor
  case order =>
    rw [List.map_append]
    exact .write hchain hchildren hnested .nil
  case files =>
    intro f hf
    rcases List.mem_append.mp hf with hf | hf
    · exact hfiles f hf
    · rw [List.mem_singleton.mp hf]
      exact hlast
  case tops =>
    intro htop
    -- what is below a task is none of the call
    have hnone : topFilings nested = [] := by
      refine List.filter_eq_nil_iff.mpr fun f hf => ?_
      rw [hnested.isTop_eq_false (fun _ => PostOrder.isTop_of_mem_children hchildren) f.task
        (List.mem_map_of_mem hf)]
      exact Bool.false_ne_true
    have hself : topFilings [⟨t, ready, row⟩] = [⟨t, ready, row⟩] :=
      List.filter_cons_of_pos (htop t List.mem_cons_self)
    rw [topFilings_append, hnone, hself]
    exact ⟨rfl, rfl⟩

/-- What is noted aside leaves a journal following. -/
lemma noting_follows {ε α : Type} {fs : List Filing} {note : Bool → Happening}
    (hnote : ∀ answered, (note answered).Aside) (run : ExceptT ε (StateM σ) α) :
    StateKept (fun w => gate.Follows fs w.journal) (Journaled.noting note run) := by
  intro w hw
  rw [Journaled.noting_run]
  cases run w.state with
  | mk result s => cases result <;> exact hw.aside (hnote _)

/-- An event passes its payload on if listeners only observe, and all of them hear of it. -/
lemma publish_observed (hobserved : gate.Observed) (event : Event) (entityType : String)
    (payload : Json) (journal : List Happening) :
    Effect.Triple (fun w => w.journal = journal)
      (gate.journaled.publish event entityType payload)
      (fun v w => v = payload ∧ w.journal = journal ++ gate.heardBy event entityType)
      fun _ _ => True := by
  have hlisteners : (gate.journaled.events.filter fun l => EventBus.listens l event) =
      (gate.events.filter fun l => EventBus.listens l event).map Journaled.subscription :=
    List.filter_map
  unfold publish EventBus.publish
  rw [hlisteners, List.foldlM_map]
  refine (Effect.Triple.foldlM_along (I := fun done v w => v = payload ∧
    w.journal = journal ++ done.map fun _ => .heard event entityType true)
    (fun done l hl v w hw => ?_) payload).weaken (fun w hw => ⟨rfl, by simpa using hw⟩)
    (fun _ _ hw => hw) fun _ _ hw => hw
  obtain ⟨rfl, hjournal⟩ := hw
  have hrun : (Journaled.subscription l).listener event entityType v w =
      Journaled.noting (.heard event entityType) (l.listener event entityType v) w := rfl
  rw [hrun, Journaled.noting_run]
  cases hanswer : l.listener event entityType v w.state with
  | mk result s =>
    cases result with
    | error f => trivial
    | ok v' =>
      refine ⟨hobserved l (List.mem_filter.mp hl).1 event entityType v w.state v' s hanswer, ?_⟩
      rw [List.map_append, ← List.append_assoc, ← hjournal]
      rfl

lemma noting_answered {ε α : Type} {note : Bool → Happening} {run : ExceptT ε (StateM σ) α}
    {w w' : Journaled σ} {a : α} (h : Journaled.noting note run w = (.ok a, w')) :
    w'.journal = w.journal ++ [note true] := by
  rw [Journaled.noting_run] at h
  cases hrun : run w.state with
  | mk result s =>
    rw [hrun] at h
    cases result <;> cases h
    rfl

/-- A record that is written is noted with its chain, if it is not only read. -/
lemma writeRecord_noted {chain : Chain} {r : EntityRecord} {w w' : Journaled σ} {row : Json}
    (hchain : chain ≠ .read) (h : gate.journaled.writeRecord chain r w = (.ok row, w')) :
    ∃ c, (Happening.called c true).write? = some (chain, r) ∧
      w'.journal = w.journal ++ [.called c true] := by
  cases chain with
  | create => exact ⟨.insert r, rfl, noting_answered h⟩
  | update => exact ⟨.update r, rfl, noting_answered h⟩
  | read => exact absurd rfl hchain
  | delete =>
    rw [writeRecord, Effect.run_bind] at h
    cases hrun : gate.journaled.persistence.remove r w with
    | mk result w₁ =>
      rw [hrun] at h
      cases result with
      | error text => cases h
      | ok _ =>
        cases h
        exact ⟨.remove r, rfl, noting_answered hrun⟩

/-- Persisting a record between listeners that only observe: it is sent as it is, its write is noted
between the events around it, and the record that was stored is returned. -/
lemma persist_noted (hobserved : gate.Observed) {action : Action} (hchain : action.chain ≠ .read)
    (r : EntityRecord) (journal : List Happening) :
    Triple (fun _ w => w.journal = journal) (gate.journaled.persist action r)
      (fun stored _ w => ∃ row c, stored = r.sent.received row ∧
        (Happening.called c true).write? = some (action.chain, r.sent) ∧
        w.journal = journal ++ (gate.heardBy .beforePersist action.entityType ++
          .called c true :: gate.heardBy .afterPersist action.entityType))
      fun _ _ => True := by
  refine .bind (.ofEffect fun _ => publish_observed hobserved _ _ _ _) fun payload => ?_
  refine .of_fact fun hpayload => ?_
  subst hpayload
  have hwritten : Effect.Triple
      (fun w => w.journal = journal ++ gate.heardBy .beforePersist action.entityType)
      (Effect.ofStore (gate.journaled.writeRecord action.chain r.sent)) (fun _ w => ∃ c,
        (Happening.called c true).write? = some (action.chain, r.sent) ∧
        w.journal = journal ++ gate.heardBy .beforePersist action.entityType ++ [.called c true])
      fun _ _ => True := by
    refine .ofStore fun w hw => ?_
    split
    · rename_i hrun
      obtain ⟨c, hc, hjournal⟩ := writeRecord_noted hchain hrun
      exact ⟨c, hc, by rw [hjournal, hw]⟩
    · trivial
  refine .bind (.ofEffect fun _ => hwritten) fun row => ?_
  refine .of_exists fun c => .of_fact fun hc => ?_
  refine .bind (m := fun _ _ w => w.journal = _) (.modifyCache fun _ _ hw => hw) fun _ => ?_
  refine .bind (.ofEffect fun _ => publish_observed hobserved _ _ _ _) fun _ => ?_
  refine .pure fun _ w hw => ⟨row, c, rfl, hc, ?_⟩
  rw [hw.2, List.append_assoc, List.append_assoc]
  rfl

/-! ### Tasks -/

lemma keepsFinds_follows (gate : Gate σ) (fs : List Filing) :
    gate.journaled.KeepsFinds (fun _ w => gate.Follows fs w.journal) fun _ _ => True := by
  refine (keepsFinds_of_findIn fun _ _ => noting_follows (fun _ => ?_) _).mono fun _ _ _ => trivial
  exact rfl

/-- An event that is none around a write passes its payload on and leaves the filings alone. -/
lemma publish_filed (hobserved : gate.Observed) {event : Event}
    (haside : event ≠ .beforePersist ∧ event ≠ .afterPersist) (entityType : String)
    (payload : Json) (fs : List Filing) (ts : List Task) :
    Triple (fun _ => Filed gate fs ts)
      (.ofEffect (gate.journaled.publish event entityType payload))
      (fun v _ w => v = payload ∧ Filed gate fs ts w) fun _ _ => True := by
  refine .ofEffect fun _ => ?_
  rintro w ⟨more, horder, hfiles, hfollows⟩
  refine (publish_observed hobserved event entityType payload w.journal).weaken (fun _ hw => hw)
    ?_ (fun _ _ hw => hw) w rfl
  rintro v w' ⟨hv, hjournal⟩
  refine ⟨hv, more, horder, hfiles, ?_⟩
  rw [hjournal]
  refine hfollows.asides fun h hh => ?_
  obtain ⟨l, -, rfl⟩ := List.mem_map.mp hh
  exact haside

/-- What files the tasks of one tree files them after those of others. -/
lemma filed_snoc {α : Type} {run : Mutating (Journaled σ) α} {t : Task}
    (hrun : ∀ fs, Triple (fun _ w => gate.Follows fs w.journal) run
      (fun _ _ => Filed gate fs [t]) fun _ _ => True) (fs : List Filing) (ts : List Task) :
    Triple (fun _ => Filed gate fs ts) run (fun _ _ => Filed gate fs (ts ++ [t]))
      fun _ _ => True := by
  refine .of_state fun _ w ⟨more, horder, hfiles, hfollows⟩ => ?_
  refine (hrun (fs ++ more)).weaken ?_ ?_ fun _ _ hw => hw
  · rintro _ _ ⟨-, rfl⟩
    exact hfollows
  · rintro _ _ w' ⟨more', horder', hfiles', hfollows'⟩
    refine ⟨more ++ more', ?_, fun f hf => (List.mem_append.mp hf).elim (hfiles f) (hfiles' f), ?_⟩
    · rw [List.map_append]
      exact horder.append horder'
    · rw [← List.append_assoc]
      exact hfollows'

section

variable {t : Task} {action : Action} {run : ChainEntry → Mutating (Journaled σ) EntityRecord}
  (hobserved : gate.Observed) (hacts : gate.ActsFor t action)
  (hrun : ∀ c fs, Triple (fun _ w => gate.Follows fs w.journal) (run c)
    (fun _ _ => Filed gate fs [.ofChain t c]) fun _ _ => True)
include hobserved hacts hrun

/-- When a member is taken in, the entries of its chain requests are filed. -/
lemma bindMemberWith_filed (fs : List Filing) (ts : List Task) (member : String × Json)
    (r : EntityRecord) :
    Triple (fun _ => Filed gate fs ts)
      (gate.journaled.bindMemberWith run action r member.1 member.2)
      (fun _ _ w => ∃ cs, gate.persistence.schema.memberEntries t.entityType member = .ok cs ∧
        Filed gate fs (ts ++ cs.map (.ofChain t)) w) fun _ _ => True := by
  have hfault : ∀ (f : Fault) (_ : CallCache) w, Filed gate fs ts w → True :=
    fun _ _ _ _ => trivial
  unfold bindMemberWith Schema.memberEntries
  rw [← hacts.sameType]
  have hschema : gate.journaled.persistence.schema = gate.persistence.schema := rfl
  rw [hschema]
  split
  · rename_i a ha
    refine (bindRelationWith_triple
      (P := fun payload => payload = .obj [("params", member.2), ("relation", .str a.name)])
      (I := fun done _ _ w => Filed gate fs (ts ++ done.map (.ofChain t)) w)
      (fun _ _ _ _ _ _ => trivial) ?_
      ((publish_filed hobserved (by decide) _ _ fs ts).weaken (fun _ _ hw => hw)
        (fun _ _ _ hw => ⟨hw.1, by simpa using hw.2⟩) fun _ _ hw => hw)
      fun _ _ hw _ => hw).weaken (fun _ _ hw => hw) ?_ fun _ _ hw => hw
    · rintro done r' c - -
      rw [List.map_append, ← List.append_assoc]
      exact filed_snoc (hrun c) fs _
    · rintro r' cache w ⟨payload, done, rfl, hdone, hw⟩
      exact ⟨done, hdone, hw⟩
  · split
    · exact .pure fun _ _ hw => ⟨[], rfl, by simpa using hw⟩
    · refine (bindValue_triple (fun _ _ _ _ => trivial)
        ((publish_filed hobserved (by decide) _ _ fs ts).weaken (fun _ _ hw => hw)
          (fun _ _ _ hw => hw.2) fun _ _ hw => hw)).weaken (fun _ _ hw => hw) ?_ fun _ _ hw => hw
      exact fun _ _ _ hw => ⟨[], rfl, by simpa using hw.2⟩

/-- When the members of an entry are taken in, the entries of all its chain requests are filed. -/
lemma bindMembersWith_filed (fs : List Filing) (r : EntityRecord) :
    Triple (fun _ w => gate.Follows fs w.journal)
      (t.entry.members.foldlM (fun r (field, v) =>
        gate.journaled.bindMemberWith run action r field v) r)
      (fun _ _ w => ∃ children, t.children gate.persistence.schema = .ok children ∧
        Filed gate fs children w) fun _ _ => True := by
  refine (Triple.foldlM_along (I := fun done _ _ w => ∃ css,
    done.mapM (gate.persistence.schema.memberEntries t.entityType) = .ok css ∧
      Filed gate fs (css.flatten.map (.ofChain t)) w) (fun done member _ r => ?_) r).weaken
    (fun _ _ hw => ⟨[], rfl, .nil hw⟩) ?_ fun _ _ hw => hw
  · refine .of_exists fun css => .of_fact fun hcss => ?_
    refine (bindMemberWith_filed hobserved hacts hrun fs _ member r).weaken (fun _ _ hw => hw) ?_
      fun _ _ hw => hw
    rintro r' _ w ⟨cs, hcs, hw⟩
    refine ⟨css ++ [cs], Decision.mapM_snoc_eq_ok hcss hcs, ?_⟩
    rw [List.flatten_append, List.flatten_singleton, List.map_append]
    exact hw
  · rintro _ _ w ⟨css, hcss, hw⟩
    refine ⟨css.flatten.map (.ofChain t), ?_, hw⟩
    rw [Task.children, Entry.children, hcss]
    rfl

/-- A task is filed after the entries of its chain requests, with the record that was made for it
and the one that is returned. -/
lemma bindTask_filed (hchain : t.chain ≠ .read)
    {runs : Task → ChainEntry → Mutating (Journaled σ) EntityRecord} (hruns : runs t = run)
    (fs : List Filing) :
    Triple (fun _ w => gate.Follows fs w.journal)
      (gate.journaled.bindTask (fun _ => gate.journaled.persist) runs action t)
      (fun r _ w => ∃ more, FilingsOf gate [t] [r] more ∧ gate.Follows (fs ++ more) w.journal)
      fun _ _ => True := by
  subst hruns
  refine .bind ((startRecord_returns t.entry).and
    ((keepsFinds_follows gate fs).startRecord action t.entry)) fun start => ?_
  refine .of_fact fun ⟨htype, hnone⟩ => ?_
  refine .bind ((bindMembersWith_returns t.entry start).and
    (bindMembersWith_filed hobserved hacts hrun fs start)) fun bound => .of_fact fun hbound => ?_
  refine (Triple.decided fun _ _ _ _ => trivial).bind fun ready => .of_fact fun hready => ?_
  have hmakes : gate.Makes action t.entry start bound ready := ⟨htype, hnone, hbound, hready⟩
  refine .of_state fun _ w ⟨children, hchildren, nested, hnested, hfiles, hfollows⟩ => ?_
  refine (persist_noted hobserved (hacts.sameChain ▸ hchain) ready w.journal).weaken
    (fun _ _ hw => by rw [hw.2]) ?_ fun _ _ hw => hw
  rintro _ _ w' ⟨row, c, rfl, hwrite, hjournal⟩
  have hsent : (Filing.mk t ready row).sent.entityType = action.entityType := hmakes.readyType
  refine ⟨nested ++ [⟨t, ready, row⟩],
    .last hchain hchildren hnested hfiles ⟨action, start, bound, hacts, hmakes⟩, ?_⟩
  rw [hjournal, ← List.append_assoc, ← hsent]
  refine hfollows.filed (hsent.trans hacts.sameType) ?_
  rw [hwrite, hacts.sameChain]
  rfl

end

/-- A batch files its tasks one after the other, and returns a record for each of them. -/
theorem runTasks_filed (hobserved : gate.Observed) (levels : Nat) : ∀ config b tasks fs,
    gate.config.entity b.entityType = .ok config → (∀ t ∈ tasks, t.batch = b) →
    Triple (fun _ w => gate.Follows fs w.journal)
      (gate.journaled.runTasks (fun _ => gate.journaled.persist) levels config b tasks)
      (fun records _ w => ∃ more,
        FilingsOf gate tasks records more ∧ gate.Follows (fs ++ more) w.journal)
      fun _ _ => True := by
  induction levels with
  | zero =>
    intro config b tasks fs _ _
    exact .throw fun _ _ _ => trivial
  | succ levels ih =>
    intro config b tasks fs hconfig htasks
    refine (openBatch_triple (keepsFinds_follows gate fs) hconfig).bind fun action => ?_
    refine .of_fact fun hacts => ?_
    refine (Triple.mapM_along (I := fun done records _ w => ∃ more,
      FilingsOf gate done records more ∧ gate.Follows (fs ++ more) w.journal)
      fun done records t ht => ?_).weaken ?_ (fun _ _ _ hw => hw) fun _ _ hw => hw
    · refine .of_exists fun more => .of_fact fun hmore => ?_
      obtain ⟨⟨hrules, hallowed⟩, hchain⟩ := hacts t (htasks t ht)
      refine (bindTask_filed hobserved ⟨hrules, hallowed⟩ (fun c fs => ?_) hchain rfl
        (fs ++ more)).weaken (fun _ _ hw => hw) ?_ fun _ _ hw => hw
      · refine runChainEntry_triple (keepsFinds_follows gate fs) (fun _ _ _ _ => trivial) ?_ ?_
        · intro hread _ w hw
          exact ⟨[], .read hread .nil, by simp, by simpa using hw⟩
        · intro config hconfig _
          refine (ih config (.nested c.association.target c.chain c.entry b.frontEnd) _ fs hconfig
            fun t' ht' => ?_).weaken (fun _ _ hw => hw) ?_ fun _ _ hw => hw
          · rw [List.mem_singleton.mp ht', ← htasks t ht]
            rfl
          · rintro _ _ w ⟨more, hmore, hfollows⟩
            exact ⟨more, hmore.order, hmore.files, hfollows⟩
      · rintro r _ w ⟨more', hmore', hfollows⟩
        refine ⟨more ++ more', hmore.append hmore', ?_⟩
        rw [← List.append_assoc]
        exact hfollows
    · exact fun _ w hw => ⟨[], ⟨.nil, by simp, fun _ => ⟨rfl, rfl⟩⟩, by simpa using hw⟩

/-- What is done around a batch leaves its filings alone. -/
lemma carryOut_filed (hobserved : gate.Observed) {entityType : String} {p : Plan}
    (hconfig : gate.config.entity p.batch.entityType = .ok p.config) :
    Effect.Triple (fun w => gate.Follows [] w.journal) (gate.journaled.carryOut entityType p)
      (fun records w => ∃ fs, FilingsOf gate p.batch.tasks records fs ∧ gate.Follows fs w.journal)
      fun _ _ => True := by
  have hrun := runTasks_filed hobserved (p.batch.levels + gate.addedLevels) p.config p.batch
    p.batch.tasks [] hconfig fun t ht => by
      obtain ⟨e, -, rfl⟩ := List.mem_map.mp ht
      rfl
  have haside : ∀ (records : List EntityRecord) {note : Bool → Happening},
      (∀ answered, (note answered).Aside) →
      ∀ {ε α : Type} (run : ExceptT ε (StateM σ) α), StateKept (fun w => ∃ fs,
        FilingsOf gate p.batch.tasks records fs ∧ gate.Follows fs w.journal)
        (Journaled.noting note run) := by
    rintro records note hnote ε α run w ⟨fs, hfs, hfollows⟩
    exact ⟨fs, hfs, noting_follows hnote run w hfollows⟩
  rw [carryOut_eq, ← runTasks_eq_runBatch _ _ _ p.batch.tasks p.batch.map_entry_tasks]
  refine carryOutWith_triple (performWith_triple hrun (fun _ _ => trivial) (fun _ _ _ => trivial)
    (noting_follows (fun _ => ?_) _) (fun records => haside records (fun _ => ?_) _)
    (fun records => haside records (fun _ => ?_) _) fun _ _ => trivial) (fun _ _ _ => trivial) ?_
  · exact rfl
  · exact rfl
  · exact rfl
  · intro l hl event hevent records entityType payload
    obtain ⟨own, -, rfl⟩ := List.mem_map.mp hl
    refine haside records (fun _ => ?_) _
    have hclosing : ∀ event ∈ Event.closing, event ≠ .beforePersist ∧ event ≠ .afterPersist := by
      decide
    exact hclosing event hevent

/-- Each entry of a mutation that succeeds is executed once, entries of chain requests before the
entry that they belong to, if listeners only observe.  The writes of the journal are those of the
tasks of the call in post-order, each between its events, and the records that are returned are
those of the entries of the call, in their order. -/
theorem mutate_executed (gate : Gate σ) (entityType : String) (chain : Chain) (params : Json)
    (overrides : CallOptions) (frontEnd : FrontEndOptions) (s : σ) (records : List EntityRecord)
    (w : Journaled σ) (hobserved : gate.Observed)
    (h : (gate.journaled.mutate entityType chain params overrides frontEnd).outcome (.opening s) =
      (.ok records, w)) :
    ∃ b fs, gate.batchOf entityType chain params overrides frontEnd = .ok b ∧
      gate.Executed b fs records w.journal := by
  rw [Effect.outcome, mutate_run, journaled_plan] at h
  split at h
  · rename_i p hplan
    obtain ⟨hconfig, hbatch⟩ := plan_parts hplan
    rw [← (batchOf_kind hbatch).1] at hconfig
    obtain ⟨fs, hfs, hfollows⟩ := (carryOut_filed hobserved hconfig).of_ok .nil h
    obtain ⟨htops, hresults⟩ := hfs.tops fun t ht => by
      obtain ⟨e, -, rfl⟩ := List.mem_map.mp ht
      rfl
    exact ⟨p.batch, fs, hbatch, hfs.order, hfs.files, hfollows, hfollows.writes, htops, hresults⟩
  · cases h

/-! ## Artists under observation -/

/-- The gate to artists and their albums, with a listener to all events that only observes. -/
def watchedArtists : Gate Memory :=
  { artists with events := [⟨none, fun _ _ payload => pure payload⟩] }

lemma watchedArtists_observed : watchedArtists.Observed := by
  intro l hl event entityType payload s v s' h
  obtain rfl := List.mem_singleton.mp hl
  cases h
  rfl

/-- A store with an album. -/
def blueStored : Memory := (Memory.seed "album" [.obj [("id", .str "blue")]] .empty).2

/-- Two artists: the first with two new albums, the second with a new one and the one that is
there. -/
def threeAlbums : Json :=
  .arr [.obj [("albums", .obj [("create", .arr [.obj [], .obj []])]), ("name", .str "ann")],
    .obj [("albums", .obj [("create", .arr [.obj []]), ("read", .arr [.str "blue"])]),
      ("name", .str "bob")]]

/-- Each artist is written after the new albums, and the album that is only read is not written. -/
theorem threeAlbums_executed : ∃ records w,
    (watchedArtists.journaled.mutate "artist" .create threeAlbums default default).outcome
      (.opening blueStored) = (.ok records, w) ∧
    (∃ b fs, watchedArtists.Executed b fs records w.journal) ∧
    (w.journal.filterMap Happening.write?).map (fun write => (write.1, write.2.entityType)) =
      [(.create, "album"), (.create, "album"), (.create, "artist"), (.create, "album"),
        (.create, "artist")] := by
  have hok : ((watchedArtists.journaled.mutate "artist" .create threeAlbums default
      default).outcome (.opening blueStored)).1.isOk = true := by
    decide +kernel
  have hwrites : ((((watchedArtists.journaled.mutate "artist" .create threeAlbums default
      default).outcome (.opening blueStored)).2.journal.filterMap Happening.write?).map
      fun write => (write.1, write.2.entityType)) = [(.create, "album"), (.create, "album"),
        (.create, "artist"), (.create, "album"), (.create, "artist")] := by
    decide +kernel
  cases hrun : (watchedArtists.journaled.mutate "artist" .create threeAlbums default
      default).outcome (.opening blueStored) with
  | mk result w =>
    rw [hrun] at hok hwrites
    cases result with
    | error f => cases hok
    | ok records =>
      obtain ⟨b, fs, -, hexecuted⟩ := mutate_executed watchedArtists "artist" .create threeAlbums
        default default blueStored records w watchedArtists_observed hrun
      exact ⟨records, w, rfl, ⟨b, fs, hexecuted⟩, hwrites⟩

end Gate

end EntityGate
