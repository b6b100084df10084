/-
# The protocol of transactions

What a mutation asks of its store follows a protocol.  A batch, and every batch nested in it,
only looks rows up and writes them.  Around the outermost batch stand the other calls: the
transaction is opened before it, pending writes are flushed after it, and then the transaction
is committed or rolled back.  The protocol is kept wherever the mutation fails and whichever
calls of the store fail.

So a store in memory that has no open transaction before a mutation has none after it.
-/
import EntityGate.Proofs.Rollback

namespace EntityGate

open Rehearsal (Call)

/-- The calls of a store, with whether each answered. -/
abbrev Trace : Type := List (Call × Bool)

/-- The call of the store that a happening is. -/
def Happening.call? : Happening → Option (Call × Bool)
  | called c answered => some (c, answered)
  | heard _ _ _ => none

/-- The calls of the store in a journal. -/
def Journaled.trace {σ : Type} (w : Journaled σ) : Trace := w.journal.filterMap Happening.call?

namespace Rehearsal.Call

/-- A call that looks rows up by id or writes one. -/
def Works : Call → Prop
  | findIn _ _ | insert _ | update _ | remove _ => True
  | _ => False

/-- A call that ends a transaction. -/
def Ends : Call → Prop
  | commit | rollback => True
  | _ => False

lemma Works.not_ends {c : Call} (h : c.Works) : ¬ c.Ends := by
  cases c <;> first | exact id | exact h.elim

lemma Works.ne_begin {c : Call} (h : c.Works) : c ≠ begin := by
  rintro rfl
  exact h

lemma Works.ne_flush {c : Call} (h : c.Works) : c ≠ flush := by
  rintro rfl
  exact h

end Rehearsal.Call

/-! ## What the protocol says -/

/-- The calls of a planned mutation are in order. -/
structure Orderly {α : Type} (p : Plan) (result : Except Fault α) (trace : Trace) : Prop where
  /-- With a transaction, its opening is the first call and the only one of its kind. -/
  opened : p.transaction = true → ∃ answered rest, trace = (.begin, answered) :: rest ∧
    ∀ c ∈ rest, c.1 ≠ .begin
  /-- A transaction that is not opened is the end of it. -/
  refused : ∀ rest, trace = (.begin, false) :: rest → rest = []
  /-- A transaction that is opened is ended by the last call, and by no call before it. -/
  ended : (.begin, true) ∈ trace → ∃ before last, trace = before ++ [last] ∧ last.1.Ends ∧
    ∀ c ∈ before, ¬ c.1.Ends
  /-- Without a transaction, none is opened or ended. -/
  bare : p.transaction = false → ∀ c ∈ trace, c.1 ≠ .begin ∧ ¬ c.1.Ends
  /-- Pending writes are flushed if the plan says so, once, before the end of the transaction and
  after all other calls. -/
  flushed : ∀ before answered after, trace = before ++ (.flush, answered) :: after →
    p.flush = true ∧ (∀ c ∈ before, c.1 ≠ .flush ∧ ¬ c.1.Ends) ∧ ∀ c ∈ after, c.1.Ends
  /-- What is returned was flushed if the plan says so. -/
  settled : ∀ a, result = .ok a → p.flush = true → (.flush, true) ∈ trace
  /-- What is returned from a transaction was committed. -/
  committed : ∀ a, result = .ok a → p.transaction = true →
    ∃ before, trace = before ++ [(.commit, true)]

/-! ## The forms of a trace -/

/-- The calls of a batch that is run, and flushed if it is `done` and is to be `flushed`. -/
inductive Batched (flush : Bool) : Bool → Trace → Prop where
  | unflushed (done : Bool) (work : Trace) (hwork : ∀ c ∈ work, c.1.Works)
      (hflush : done = true → flush = false) : Batched flush done work
  | flushed (done : Bool) (work : Trace) (hwork : ∀ c ∈ work, c.1.Works) (hflush : flush = true) :
      Batched flush done (work ++ [(.flush, done)])

namespace Batched

variable {flush done : Bool} {inner : Trace}

lemma not_ends (h : Batched flush done inner) : ∀ c ∈ inner, ¬ c.1.Ends := by
  cases h with
  | unflushed _ hwork _ => exact fun c hc => (hwork c hc).not_ends
  | flushed work hwork _ =>
    intro c hc
    rcases List.mem_append.mp hc with hc | hc
    · exact (hwork c hc).not_ends
    · rw [List.mem_singleton.mp hc]
      exact id

lemma ne_begin (h : Batched flush done inner) : ∀ c ∈ inner, c.1 ≠ .begin := by
  cases h with
  | unflushed _ hwork _ => exact fun c hc => (hwork c hc).ne_begin
  | flushed work hwork _ =>
    intro c hc
    rcases List.mem_append.mp hc with hc | hc
    · exact (hwork c hc).ne_begin
    · rw [List.mem_singleton.mp hc]
      rintro ⟨⟩

/-- A flush is the last of the calls, and those before it are work. -/
lemma flush_last (h : Batched flush done inner) {before after : Trace} {answered : Bool}
    (hinner : inner = before ++ (.flush, answered) :: after) :
    flush = true ∧ (∀ c ∈ before, c.1.Works) ∧ after = [] := by
  have hnot : ∀ {work : Trace}, (∀ c ∈ work, c.1.Works) → (.flush, answered) ∉ work :=
    fun hwork hmem => (hwork _ hmem).ne_flush rfl
  cases h with
  | unflushed _ hwork _ => exact (hnot hwork (by simp [hinner])).elim
  | flushed work hwork hflush =>
    rcases List.eq_nil_or_concat after with rfl | ⟨after, c, rfl⟩
    · obtain ⟨rfl, -⟩ := List.append_inj' hinner rfl
      exact ⟨hflush, hwork, rfl⟩
    · rw [List.concat_eq_append, ← List.cons_append, ← List.append_assoc] at hinner
      obtain ⟨rfl, -⟩ := List.append_inj' hinner rfl
      exact (hnot hwork (by simp)).elim

lemma flush_mem (h : Batched flush true inner) (hflush : flush = true) :
    (.flush, true) ∈ inner := by
  cases h with
  | unflushed _ _ hunflushed =>
    rw [hunflushed rfl] at hflush
    cases hflush
  | flushed work _ _ => simp

end Batched

/-- The calls of a planned mutation, with what comes out of it. -/
inductive Protocol {α : Type} (p : Plan) : Except Fault α → Trace → Prop where
  /-- There is no transaction. -/
  | bare (result : Except Fault α) (done : Bool) (inner : Trace) (h : Batched p.flush done inner)
      (hdone : ∀ a, result = .ok a → done = true) (htransaction : p.transaction = false) :
      Protocol p result inner
  /-- The transaction is not opened. -/
  | unopened (f : Fault) (htransaction : p.transaction = true) :
      Protocol p (.error f) [(.begin, false)]
  /-- The batch fails, and the transaction is rolled back. -/
  | rolledBack (f : Fault) (inner : Trace) (answered : Bool) (h : Batched p.flush false inner)
      (htransaction : p.transaction = true) :
      Protocol p (.error f) ((.begin, true) :: inner ++ [(.rollback, answered)])
  /-- The transaction is to be committed; without an answer nothing is returned. -/
  | closed (result : Except Fault α) (inner : Trace) (answered : Bool)
      (h : Batched p.flush true inner) (hanswered : ∀ a, result = .ok a → answered = true)
      (htransaction : p.transaction = true) :
      Protocol p result ((.begin, true) :: inner ++ [(.commit, answered)])

namespace Protocol

variable {α : Type} {p : Plan} {result : Except Fault α} {trace : Trace}

/-- The calls between the opening of a transaction and its last call are in order with them. -/
lemma orderly_of_ends {done : Bool} {inner : Trace} {last : Call × Bool}
    (h : Batched p.flush done inner) (hends : last.1.Ends) (htransaction : p.transaction = true)
    (hresult : ∀ a, result = .ok a → done = true ∧ last = (.commit, true)) :
    Orderly p result ((.begin, true) :: inner ++ [last]) where
  opened _ := by
    refine ⟨true, inner ++ [last], rfl, fun c hc => ?_⟩
    rcases List.mem_append.mp hc with hc | hc
    · exact h.ne_begin c hc
    · rw [List.mem_singleton.mp hc]
      rintro hbegin
      rw [hbegin] at hends
      exact hends
  refused rest hrest := by cases hrest
  ended _ := by
    refine ⟨(.begin, true) :: inner, last, rfl, hends, fun c hc => ?_⟩
    rcases List.mem_cons.mp hc with rfl | hc
    · exact id
    · exact h.not_ends c hc
  bare hbare := by
    rw [htransaction] at hbare
    cases hbare
  flushed before answered after htrace := by
    -- the flush is neither the opening nor the end
    cases before with
    | nil => cases htrace
    | cons c before =>
      obtain ⟨rfl, htail⟩ := List.cons.inj htrace
      replace htail : inner ++ [last] = before ++ (.flush, answered) :: after := htail
      rcases List.eq_nil_or_concat after with rfl | ⟨after, c, rfl⟩
      · obtain ⟨rfl, hlast⟩ := List.append_inj' htail rfl
        obtain rfl := (List.cons.inj hlast).1
        exact hends.elim
      · rw [List.concat_eq_append, ← List.cons_append, ← List.append_assoc] at htail
        obtain ⟨hinner, hlast⟩ := List.append_inj' htail rfl
        obtain rfl := (List.cons.inj hlast).1
        obtain ⟨hflush, hwork, rfl⟩ := h.flush_last hinner
        refine ⟨hflush, fun c hc => ?_, fun c hc => ?_⟩
        · rcases List.mem_cons.mp hc with rfl | hc
          · exact ⟨nofun, id⟩
          · exact ⟨(hwork c hc).ne_flush, (hwork c hc).not_ends⟩
        · rw [show c = last by simpa using hc]
          exact hends
  settled a ha hflush := by
    obtain ⟨rfl, -⟩ := hresult a ha
    exact List.mem_append_left _ (List.mem_cons_of_mem _ (h.flush_mem hflush))
  committed a ha _ := ⟨(.begin, true) :: inner, by rw [(hresult a ha).2]⟩

/-- Calls that follow the protocol are in order. -/
theorem orderly (h : Protocol p result trace) : Orderly p result trace := by
  cases h with
  | bare result done _ h hdone htransaction =>
    have hbegin : ∀ answered, (.begin, answered) ∉ trace :=
      fun answered hmem => h.ne_begin _ hmem rfl
    exact {
      opened := by
        intro hopened
        rw [htransaction] at hopened
        cases hopened
      refused := fun rest hrest => (hbegin false (by simp [hrest])).elim
      ended := fun hmem => (hbegin true hmem).elim
      bare := fun _ c hc => ⟨h.ne_begin c hc, h.not_ends c hc⟩
      flushed := by
        intro before answered after htrace
        obtain ⟨hflush, hwork, rfl⟩ := h.flush_last htrace
        exact ⟨hflush, fun c hc => ⟨(hwork c hc).ne_flush, (hwork c hc).not_ends⟩, by simp⟩
      settled := by
        intro a ha hflush
        obtain rfl := hdone a ha
        exact h.flush_mem hflush
      committed := by
        intro a _ hopened
        rw [htransaction] at hopened
        cases hopened }
  | unopened f htransaction =>
    exact {
      opened := fun _ => ⟨false, [], rfl, by simp⟩
      refused := by
        intro rest hrest
        cases hrest
        rfl
      ended := fun hmem => by simp at hmem
      bare := by
        intro hbare
        rw [htransaction] at hbare
        cases hbare
      flushed := by
        intro before answered after htrace
        have hmem : (Call.flush, answered) ∈ [(Call.begin, false)] := by simp [htrace]
        simp at hmem
      settled := nofun
      committed := nofun }
  | rolledBack f inner answered h htransaction =>
    exact orderly_of_ends h trivial htransaction nofun
  | closed result inner answered h hanswered htransaction =>
    exact orderly_of_ends h trivial htransaction fun a ha => ⟨rfl, by rw [hanswered a ha]⟩

end Protocol

namespace Journaled

variable {σ α ε : Type}

/-- A call adds itself to the trace, and whether it answered. -/
lemma trace_call (c : Call) (run : ExceptT ε (StateM σ) α) (w : Journaled σ) :
    (noting (.called c) run w).2.trace = w.trace ++ [(c, (noting (.called c) run w).1.isOk)] := by
  rw [noting_run]
  cases run w.state with
  | mk result s => cases result <;> simp [trace, Happening.call?, Except.isOk, Except.toBool]

/-- A call answers or not, and the trace tells which. -/
lemma call_run (c : Call) (run : ExceptT ε (StateM σ) α) (w : Journaled σ) :
    (∃ a w', noting (.called c) run w = (.ok a, w') ∧ w'.trace = w.trace ++ [(c, true)]) ∨
      ∃ e w', noting (.called c) run w = (.error e, w') ∧ w'.trace = w.trace ++ [(c, false)] := by
  have htrace := trace_call c run w
  cases hrun : noting (.called c) run w with
  | mk result w' =>
    rw [hrun] at htrace
    cases result with
    | ok a => exact .inl ⟨a, w', rfl, htrace⟩
    | error e => exact .inr ⟨e, w', rfl, htrace⟩

/-- A listener adds nothing to the trace. -/
lemma trace_listener (event : Event) (entityType : String) (run : ExceptT ε (StateM σ) α)
    (w : Journaled σ) : (noting (.heard event entityType) run w).2.trace = w.trace := by
  rw [noting_run]
  cases run w.state with
  | mk result s => cases result <;> simp [trace, Happening.call?]

/-- The trace is what it was before, and after that lookups and writes. -/
def Worked (before : Trace) (w : Journaled σ) : Prop :=
  ∃ work, w.trace = before ++ work ∧ ∀ c ∈ work, c.1.Works

lemma Worked.refl {before : Trace} {w : Journaled σ} (h : w.trace = before) : w.Worked before :=
  ⟨[], by simpa using h, by simp⟩

lemma worked_call {before : Trace} {c : Call} (hc : c.Works) (run : ExceptT ε (StateM σ) α) :
    Gate.StateKept (Worked before) (noting (.called c) run) := by
  rintro w ⟨work, hwork, hall⟩
  refine ⟨work ++ [(c, _)], by rw [trace_call, hwork, List.append_assoc], fun c' hc' => ?_⟩
  rcases List.mem_append.mp hc' with hc' | hc'
  · exact hall c' hc'
  · rw [List.mem_singleton.mp hc']
    exact hc

end Journaled

namespace Gate

open Journaled Mutating

variable {σ : Type} {gate : Gate σ}

/-! ## Batches -/

lemma journaled_works (before : Trace) : gate.journaled.KeepsState (Worked before) where
  findIn entityType ids := worked_call (c := .findIn entityType ids) trivial _
  insert r := worked_call (c := .insert r) trivial _
  update r := worked_call (c := .update r) trivial _
  remove r := worked_call (c := .remove r) trivial _
  listener l hl event _ entityType payload := by
    obtain ⟨own, -, rfl⟩ := List.mem_map.mp hl
    rintro w ⟨work, hwork, hall⟩
    exact ⟨work, (trace_listener event entityType _ w).trans hwork, hall⟩

/-- What a chain request leads to only looks rows up and writes them. -/
lemma runEntry_works (gate : Gate σ) (before : Trace) (levels : Nat) (frontEnd : FrontEndOptions)
    (target : String) (chain : Chain) (e : Entry) :
    Mutating.Triple (fun _ => Worked before)
      (gate.journaled.runEntry (gate.journaled.runBatch levels) frontEnd target chain e)
      (fun _ _ => Worked before) fun _ => Worked before :=
  (journaled_works before).keeps.lookups.runEntry
    ((journaled_works before).keeps.runBatch levels) frontEnd target chain e

/-- The trace is what it was before, and after that the calls of a batch. -/
def RanBatch (before : Trace) (flush done : Bool) (w : Journaled σ) : Prop :=
  ∃ inner, w.trace = before ++ inner ∧ Batched flush done inner

lemma journaled_batched (before : Trace) (config : EntityConfig) (b : Batch) (flush : Bool) :
    Effect.Triple (fun w => w.trace = before) (gate.journaled.runAndFlush config b flush)
      (fun _ => RanBatch before flush true) fun _ => RanBatch before flush false := by
  have hworks : gate.journaled.KeepsState (Worked before) := journaled_works before
  have hrun := (hworks.keeps.runBatch (b.levels + gate.addedLevels) config b).withoutCache
  refine Effect.Triple.bind (hrun.weaken (fun _ hw => .refl hw)
    (fun _ _ hw => hw.elim fun _ hI => hI) fun _ w hw => ?_) fun records => ?_
  · obtain ⟨work, hwork, hall⟩ := hw
    exact ⟨work, hwork, .unflushed _ work hall nofun⟩
  dsimp only
  split
  · rename_i hflush
    refine Effect.Triple.bind (m := fun _ => RanBatch before flush true) (.ofStore ?_)
      fun _ => .pure fun _ hw => hw
    rintro w ⟨work, hwork, hall⟩
    obtain ⟨_, w', hrun, hw'⟩ | ⟨_, w', hrun, hw'⟩ := call_run .flush gate.persistence.flush w
    all_goals
      rw [show gate.journaled.persistence.flush w = _ from hrun]
      exact ⟨_, by rw [hw', hwork, List.append_assoc], .flushed _ work hall hflush⟩
  · rename_i hflush
    rintro w ⟨work, hwork, hall⟩
    exact ⟨work, hwork, .unflushed _ work hall fun _ => by simpa using hflush⟩

/-! ## Mutations -/

/-- What a plan asks of its store follows the protocol.  What is done after it may still fail, so
the calls follow it also with a fault. -/
lemma journaled_follows (p : Plan) :
    Effect.Triple (fun w => w.trace = []) (gate.journaled.perform p)
      (fun _ w => ∀ result : Except Fault (List EntityRecord), Protocol p result w.trace)
      fun f w => Protocol (α := List EntityRecord) p (.error f) w.trace := by
  unfold perform
  split
  · rename_i htransaction
    refine inTransaction_triple (fun w hw => ?_) (journaled_batched [(.begin, true)] _ _ _)
      (fun records w hw => ?_) fun f w hw => ?_
    · obtain ⟨_, w', hrun, hw'⟩ | ⟨_, w', hrun, hw'⟩ := call_run .begin gate.persistence.begin w
      · rw [show gate.journaled.persistence.begin w = _ from hrun]
        exact hw'.trans (by rw [hw, List.nil_append])
      · rw [show gate.journaled.persistence.begin w = _ from hrun]
        dsimp only
        rw [hw', hw, List.nil_append]
        exact .unopened _ htransaction
    · obtain ⟨inner, hinner, hbatched⟩ := hw
      obtain ⟨_, w', hrun, hw'⟩ | ⟨_, w', hrun, hw'⟩ := call_run .commit gate.persistence.commit w
      · rw [show gate.journaled.persistence.commit w = _ from hrun]
        intro result
        rw [hw', hinner]
        exact .closed result inner true hbatched (fun _ _ => rfl) htransaction
      · rw [show gate.journaled.persistence.commit w = _ from hrun]
        dsimp only
        rw [hw', hinner]
        exact .closed _ inner false hbatched nofun htransaction
    · obtain ⟨inner, hinner, hbatched⟩ := hw
      have hrun := trace_call .rollback gate.persistence.rollback w
      rw [show (gate.journaled.persistence.rollback w).2.trace = _ from hrun, hinner]
      exact .rolledBack f inner _ hbatched htransaction
  · rename_i htransaction
    have hbare : p.transaction = false := by simpa using htransaction
    refine (journaled_batched [] _ _ _).weaken (fun _ hw => hw) ?_ ?_
    · rintro records w ⟨inner, hinner, hbatched⟩ result
      rw [hinner]
      exact .bare result true inner hbatched (fun _ _ => rfl) hbare
    · rintro f w ⟨inner, hinner, hbatched⟩
      rw [hinner]
      exact .bare _ false inner hbatched nofun hbare

/-- The listeners around the return call nothing. -/
lemma toArray_trace (entityType : String) (rows : List Json) (trace : Trace) :
    Effect.Triple (fun w => w.trace = trace) (gate.journaled.toArray entityType rows)
      (fun _ w => w.trace = trace) fun _ w => w.trace = trace := by
  refine toArray_keeps (fun l hl event _ entityType payload w hw => ?_) entityType rows
  obtain ⟨own, -, rfl⟩ := List.mem_map.mp hl
  exact (trace_listener event entityType _ w).trans hw

lemma carryOut_follows (gate : Gate σ) (p : Plan) (entityType : String) :
    Effect.Triple (fun w => w.trace = []) (gate.journaled.carryOut entityType p)
      (fun records w => Protocol p (.ok records) w.trace)
      fun f w => Protocol (α := List EntityRecord) p (.error f) w.trace := by
  refine (journaled_follows p).bind fun records w hw => ?_
  have hshow : Effect.Triple (fun w' => w'.trace = w.trace)
      (gate.journaled.toArray entityType (records.map EntityRecord.toRow) >>= fun _ =>
        pure records) (fun _ w' => w'.trace = w.trace) fun _ w' => w'.trace = w.trace :=
    (toArray_trace entityType _ w.trace).bind fun _ => .pure fun _ hw => hw
  exact hshow.weaken (fun _ hw' => hw') (fun _ _ hw' => hw' ▸ hw _) (fun _ _ hw' => hw' ▸ hw _) w
    rfl

/-! ## Transactions in memory -/

/-- A mutation, as it is asked for. -/
structure Asked where
  entityType : String
  chain : Chain
  params : Json
  overrides : CallOptions
  frontEnd : FrontEndOptions

/-- The state after some mutations, one after the other, whatever comes out of them. -/
def after (gate : Gate σ) (asked : List Asked) (s : σ) : σ :=
  asked.foldl (fun s a =>
    ((gate.mutate a.entityType a.chain a.params a.overrides a.frontEnd).outcome s).2) s

section

open Surrounded

variable {ω : Type} {gate : Gate (Surrounded ω)} {inject : Call → ω → Option Disturbance × ω}
  {schema : Schema} (hstore : gate.persistence = Surrounded.persistence inject schema)
  (hlisteners : ∀ l ∈ gate.events, LeavesTransaction l)
include hstore hlisteners

/-- What a plan does in memory leaves no transaction open. -/
lemma perform_closes (p : Plan) :
    StateKept (fun s => s.store.snapshot = none) (gate.perform p) := by
  refine .of_triple ?_
  unfold perform
  split
  · -- while the batch runs, the snapshot is the one that was taken at the opening
    have hrun : Effect.Triple (fun s => ∃ tables, s.store.snapshot = some tables)
        (gate.runAndFlush p.config p.batch p.flush)
        (fun _ s => ∃ tables, s.store.snapshot = some tables)
        fun _ s => ∃ tables, s.store.snapshot = some tables := by
      rintro s ⟨tables, hs⟩
      exact (surrounded_runAndFlush hstore hlisteners (some tables) p).effect.weaken
        (fun _ hs => hs) (fun _ _ hs => ⟨tables, hs⟩) (fun _ _ hs => ⟨tables, hs⟩) s hs
    refine inTransaction_triple (fun s hs => ?_) hrun (fun _ s hs => ?_) fun _ s hs => ?_
    · have hbegin : gate.persistence.begin s = below Memory.begin s := by rw [hstore]; rfl
      rw [hbegin, below, Memory.begin_run hs]
      exact ⟨_, rfl⟩
    · obtain ⟨tables, hs⟩ := hs
      have hcommit : gate.persistence.commit s = below Memory.commit s := by rw [hstore]; rfl
      rw [hcommit, below, Memory.commit_run hs]
      rfl
    · obtain ⟨tables, hs⟩ := hs
      have hrollback : gate.persistence.rollback s = below Memory.rollback s := by rw [hstore]; rfl
      rw [hrollback, below, Memory.rollback_run hs]
      rfl
  · exact (surrounded_runAndFlush hstore hlisteners none p).effect

/-- A mutation in memory leaves no transaction open. -/
lemma mutate_closes (a : Asked) :
    StateKept (fun s => s.store.snapshot = none)
      (gate.mutate a.entityType a.chain a.params a.overrides a.frontEnd) := by
  intro s hs
  rw [mutate_run]
  cases gate.plan a.entityType a.chain a.params a.overrides a.frontEnd with
  | error f => exact hs
  | ok p =>
    have hcarried : Effect.Triple (fun s => s.store.snapshot = none)
        (gate.carryOut a.entityType p) (fun _ s => s.store.snapshot = none)
        fun _ s => s.store.snapshot = none := by
      have hshow : ∀ rows, Effect.Triple (fun s => s.store.snapshot = none)
          (gate.toArray a.entityType rows) (fun _ s => s.store.snapshot = none)
          fun _ s => s.store.snapshot = none :=
        toArray_keeps (fun l hl event _ => hlisteners l hl none event) a.entityType
      exact (perform_closes hstore hlisteners p).effect.bind fun _ =>
        (hshow _).bind fun _ => .pure fun _ hs => hs
    exact StateKept.of_triple hcarried s hs

lemma after_closes (asked : List Asked) {s : Surrounded ω} (hs : s.store.snapshot = none) :
    (gate.after asked s).store.snapshot = none := by
  induction asked generalizing s with
  | nil => exact hs
  | cons a asked ih => exact ih (mutate_closes hstore hlisteners a s hs)

end

/-! ## The protocol -/

/-- The calls that a mutation makes to its store follow the protocol of transactions.  A journal
changes neither what comes out of a mutation nor the state that it leaves; and it tells that a
mutation without a plan calls nothing, that the calls of a mutation with a plan are in order, and
that a chain request only looks rows up and writes them.  In memory, mutations leave no
transaction open if none was open before them. -/
theorem transactions_follow_protocol :
    (∀ {σ : Type} (gate : Gate σ) (entityType : String) (chain : Chain) (params : Json)
      (overrides : CallOptions) (frontEnd : FrontEndOptions) (s : σ) result w,
      (gate.journaled.mutate entityType chain params overrides frontEnd).outcome (.opening s) =
        (result, w) →
      (gate.mutate entityType chain params overrides frontEnd).outcome s = (result, w.state) ∧
      (∀ f, gate.plan entityType chain params overrides frontEnd = .error f →
        result = .error f ∧ w.trace = []) ∧
      ∀ p, gate.plan entityType chain params overrides frontEnd = .ok p →
        Orderly p result w.trace) ∧
    (∀ {σ : Type} (gate : Gate σ) (levels : Nat) (frontEnd : FrontEndOptions) (target : String)
      (chain : Chain) (e : Entry) (cache : CallCache) (w : Journaled σ),
      let run := gate.journaled.runEntry (gate.journaled.runBatch levels) frontEnd target chain e
      ∃ work, (run.run cache w).2.trace = w.trace ++ work ∧ ∀ c ∈ work, c.1.Works) ∧
    ∀ {ω : Type} (gate : Gate (Surrounded ω)) (inject : Call → ω → Option Disturbance × ω)
      (schema : Schema) (asked : List Asked) (s : Surrounded ω),
      gate.persistence = Surrounded.persistence inject schema →
      (∀ l ∈ gate.events, Surrounded.LeavesTransaction l) → s.store.snapshot = none →
      (gate.after asked s).store.snapshot = none := by
  refine ⟨?_, ?_, ?_⟩
  · intro σ gate entityType chain params overrides frontEnd s result w hrun
    have hplain := mutate_of_journaled hrun
    rw [Effect.outcome, mutate_run, journaled_plan] at hrun
    refine ⟨hplain, fun f hf => ?_, fun p hp => ?_⟩
    · rw [hf] at hrun
      cases hrun
      exact ⟨rfl, rfl⟩
    · rw [hp] at hrun
      have hfollows := carryOut_follows gate p entityType (.opening s) rfl
      rw [show gate.journaled.carryOut entityType p (.opening s) = _ from hrun] at hfollows
      cases result <;> exact hfollows.orderly
  · intro σ gate levels frontEnd target chain e cache w
    have hkept := runEntry_works gate w.trace levels frontEnd target chain e cache w
      (.refl rfl)
    dsimp only
    cases hrun : (gate.journaled.runEntry (gate.journaled.runBatch levels) frontEnd target chain
      e).run cache w with
    | mk result w' =>
      rw [hrun] at hkept
      cases result <;> exact hkept
  · intro ω gate inject schema asked s hstore hlisteners hs
    exact after_closes hstore hlisteners asked hs

set_option maxRecDepth 4000 in
/-- The second song is not inserted, so the transaction is rolled back; and however often it is
tried again, no transaction stays open. -/
theorem createdSongs_follow_protocol :
    (∃ p result w, songs.plan "song" .create twoSongs default default = .ok p ∧
      (songs.journaled.mutate "song" .create twoSongs default default).outcome (.opening oneSong) =
        (result, w) ∧
      w.trace.map (fun c => (c.1.name, c.2)) = [("begin", true), ("insert:song", true),
        ("insert:song", false), ("rollback", true)] ∧
      Orderly p result w.trace) ∧
    ∀ n, (songs.after (List.replicate n ⟨"song", .create, twoSongs, default, default⟩)
      oneSong).store.snapshot = none := by
  have hlisteners : ∀ l ∈ songs.events, Surrounded.LeavesTransaction l := by
    intro l hl
    obtain rfl := List.mem_singleton.mp hl
    exact fun _ _ _ _ _ hs => hs
  refine ⟨⟨_, _, _, rfl, rfl, rfl, ?_⟩, fun n => ?_⟩
  · exact (transactions_follow_protocol.1 songs "song" .create twoSongs default default oneSong
      _ _ rfl).2.2 _ rfl
  · exact transactions_follow_protocol.2.2 songs secondFails (fun _ => []) _ oneSong rfl hlisteners
      rfl

end Gate

end EntityGate
