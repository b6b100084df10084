/-
# Rows that a mutation leaves alone

A mutation over a store in memory changes rows only where the record of one of its entries was
written.  The chronicle notes every such write, so between two moments of a mutation a row stays
as it is unless a write under its key is noted in between.
-/
import EntityGate.Proofs.Coherence

namespace EntityGate

open Mutating (Triple)

/-- Whether something was written under a key. -/
def Written.At (x : Written) (entityType key : String) : Prop :=
  x.entityType = entityType ∧ x.id.map idKey = some key

namespace Chronicled

/-- Since the chronicle had some length and the store some rows, no row has changed under a key at
which no write is noted. -/
structure Framed (n : Nat) (rows : Rows) (w : Chronicled Memory) : Prop where
  within : n ≤ w.handlings.length
  unwritten : ∀ entityType key, (∀ x ∈ w.writtenSince n, ¬ x.At entityType key) →
    w.state.tables.at? entityType key = rows.at? entityType key

lemma framed_now (w : Chronicled Memory) : w.Framed w.handlings.length w.state.tables :=
  ⟨Nat.le_refl _, fun _ _ _ => rfl⟩

lemma writtenSince_note {σ : Type} {w : Chronicled σ} {n : Nat} (hn : n ≤ w.handlings.length)
    (h : Handling σ) (s : σ) :
    writtenSince ⟨s, w.handlings ++ [h]⟩ n = w.writtenSince n ++ [h.written] := by
  rw [writtenSince, writtenSince, List.drop_append_of_le_length hn, List.map_append]
  rfl

end Chronicled

namespace Gate

open Chronicled (Framed writtenSince_note)

variable {gate : Gate Memory} {schema : Schema}

lemma keepsLookups_framed (hstore : gate.persistence = Memory.persistence schema)
    (hbus : gate.events = []) (n : Nat) (rows : Rows) :
    gate.chronicled.KeepsLookups (fun _ w => w.Framed n rows) fun _ _ => True :=
  chronicled_keepsLookups fun _ => keepsLookups_of_store hstore hbus
    (fun _ _ _ hw => ⟨hw.within, hw.unwritten⟩) (fun _ _ _ _ _ hw _ => hw) fun _ _ _ _ => trivial

/-- Batches change no row under a key at which no write is noted. -/
theorem chronicle_framed (hstore : gate.persistence = Memory.persistence schema)
    (hbus : gate.events = []) (n : Nat) (rows : Rows) (levels : Nat) (config : EntityConfig)
    (b : Batch) : Triple (fun _ w => w.Framed n rows) (gate.chronicle levels config b)
      (fun _ _ w => w.Framed n rows) fun _ _ => True := by
  have hlookups := keepsLookups_framed hstore hbus n rows
  refine hlookups.runBatchWith (fun levels frontEnd action e hread hrun => ?_) levels config b
  refine handleEntry_keeps hlookups hrun (fun _ _ _ _ _ _ _ => trivial) ?_
  intro begun start bound ready reached result cache cache' after hmakes hw hpersist
  obtain ⟨id, row, hid, hafter, -⟩ := persist_rows hstore hbus hread hmakes hpersist
  refine ⟨?_, fun entityType key hleft => ?_⟩
  · rw [List.length_append]
    exact Nat.le_add_right_of_le hw.within
  · rw [writtenSince_note hw.within] at hleft
    have hkey : ¬ (entityType = action.entityType ∧ key = idKey id) := by
      rintro ⟨rfl, rfl⟩
      refine hleft _ (List.mem_append_right _ (List.mem_singleton.mpr rfl)) ⟨rfl, ?_⟩
      rw [Handling.written, hid]
      rfl
    rw [hafter, if_neg hkey]
    exact hw.unwritten entityType key fun x hx => hleft x (List.mem_append_left _ hx)

/-- The same holds of the entries of chain requests. -/
lemma runEntry_framed (hstore : gate.persistence = Memory.persistence schema)
    (hbus : gate.events = []) (n : Nat) (rows : Rows) (levels : Nat) (frontEnd : FrontEndOptions)
    (target : String) (chain : Chain) (e : Entry) :
    Triple (fun _ w => w.Framed n rows)
      (gate.chronicled.runEntry (gate.chronicled.runBatchWith gate.handleEntry levels) frontEnd
        target chain e) (fun _ _ w => w.Framed n rows) fun _ _ => True :=
  (keepsLookups_framed hstore hbus n rows).runEntry
    (fun config b => chronicle_framed hstore hbus n rows levels config b) frontEnd target chain e

/-! ## Rows that a mutation leaves alone -/

/-- A batch that is run changes no row under a key at which no handling wrote. -/
lemma runAndFlush_leaves (hstore : gate.persistence = Memory.persistence schema)
    (hbus : gate.events = []) (p : Plan) {m m' : Memory} {records : List EntityRecord}
    (h : gate.runAndFlush p.config p.batch p.flush m = (.ok records, m')) (entityType key : String)
    (hleft : ∀ x ∈ gate.openHandlings p m, ¬ x.written.At entityType key) :
    m'.tables.at? entityType key = m.tables.at? entityType key := by
  obtain ⟨result, w, s, hchronicle, hbatch, hstate⟩ :=
    (gate.chronicle_alike (p.batch.levels + gate.addedLevels) p.config p.batch).withoutCache.run_eq
      (s := ⟨m, []⟩) rfl
  obtain rfl : w.state = s := hstate
  rw [runAndFlush, Effect.run_bind, hbatch] at h
  rw [openHandlings, hchronicle] at hleft
  have hflush : gate.persistence.flush w.state = (.ok (), w.state) := by
    rw [hstore]
    rfl
  cases result with
  | error f => cases h
  | ok returned =>
    have hend : m' = w.state := by
      dsimp only at h
      split at h
      · rw [Effect.run_bind, Effect.ofStore, hflush] at h
        cases h
        rfl
      · cases h
        rfl
    have hframed := ((chronicle_framed hstore hbus 0 m.tables _ p.config
      p.batch).withoutCache.of_ok (s := ⟨m, []⟩) ⟨Nat.le_refl _, fun _ _ _ => rfl⟩ hchronicle)
    obtain ⟨cache, hframed⟩ := hframed
    rw [hend]
    refine hframed.unwritten entityType key fun x hx => ?_
    rw [Chronicled.writtenSince, List.drop_zero] at hx
    obtain ⟨handling, hmem, rfl⟩ := List.mem_map.mp hx
    exact hleft handling hmem

lemma perform_leaves (hstore : gate.persistence = Memory.persistence schema)
    (hbus : gate.events = []) (p : Plan) {m m' : Memory} {records : List EntityRecord}
    (h : gate.perform p m = (.ok records, m')) (entityType key : String)
    (hleft : ∀ x ∈ gate.planHandlings p m, ¬ x.written.At entityType key) :
    m'.tables.at? entityType key = m.tables.at? entityType key := by
  rw [perform] at h
  rw [planHandlings] at hleft
  split at h
  · rename_i htransaction
    rw [if_pos htransaction] at hleft
    rw [inTransaction_run] at h
    split at h
    · cases h
    · rename_i m₁ hbegin
      rw [hbegin] at hleft
      have hopened : m₁.tables = m.tables := by
        rw [hstore] at hbegin
        exact Memory.tables_of_begin hbegin
      split at h
      · cases h
      · rename_i m₂ hran
        split at h
        · cases h
        · rename_i m₃ hcommit
          cases h
          have hclosed : m'.tables = m₂.tables := by
            rw [hstore] at hcommit
            exact Memory.tables_of_commit hcommit
          rw [hclosed, runAndFlush_leaves hstore hbus p hran entityType key hleft, hopened]
  · rename_i htransaction
    rw [if_neg htransaction] at hleft
    exact runAndFlush_leaves hstore hbus p h entityType key hleft

/-- A mutation that succeeds changes rows only where one of its entries was written. -/
theorem mutate_leaves_unwritten (gate : Gate Memory) (schema : Schema) (entityType : String)
    (chain : Chain) (params : Json) (overrides : CallOptions) (frontEnd : FrontEndOptions)
    (m m' : Memory) (records : List EntityRecord)
    (hstore : gate.persistence = Memory.persistence schema) (hbus : gate.events = [])
    (h : (gate.mutate entityType chain params overrides frontEnd).outcome m = (.ok records, m'))
    (entityType' key : String)
    (hleft : ∀ x ∈ gate.handlings entityType chain params overrides frontEnd m,
      ¬ x.written.At entityType' key) :
    m'.tables.at? entityType' key = m.tables.at? entityType' key := by
  rw [Effect.outcome, mutate_run] at h
  rw [handlings] at hleft
  cases hplan : gate.plan entityType chain params overrides frontEnd with
  | error f =>
    rw [hplan] at h
    cases h
  | ok p =>
    rw [hplan] at h hleft
    dsimp only at h hleft
    rw [carryOut, Effect.run_bind] at h
    split at h
    · rename_i returned m₁ hperform
      rw [toArray_nil hbus] at h
      cases h
      exact perform_leaves hstore hbus p hperform entityType' key hleft
    · cases h

end Gate

end EntityGate
