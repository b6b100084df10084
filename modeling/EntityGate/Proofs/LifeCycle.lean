/-
# The life cycle of a read

A read enters its phases in a fixed order.  It may fail in each of them; otherwise it goes on
until the query is either executed or returned.  The store is called once, in the phase where the
query is executed, and not at all if this phase is not reached.

The phases that a read reports and the journal of its store are two lists.  To say in which phase
a call falls, a read is told a second time with both in one list; the two lists can be read off
it.
-/
import EntityGate.Gate.Read
import EntityGate.Proofs.Compilation
import EntityGate.Proofs.Course
import EntityGate.Proofs.Simulation
import Mathlib.Data.List.Basic

namespace EntityGate

open Rehearsal (Call)

/-- Something that is told of a read: a phase that is entered, or what a collaborator is asked
for. -/
inductive Moment where
  | entered (phase : ReadPhase)
  | happened (h : Happening)

namespace Moment

/-- The phase that is entered. -/
def phase? : Moment → Option ReadPhase
  | entered phase => some phase
  | happened _ => none

/-- What a collaborator is asked for. -/
def happening? : Moment → Option Happening
  | entered _ => none
  | happened h => some h

/-- The phases that are entered, in order. -/
def phases (moments : List Moment) : List ReadPhase := moments.filterMap phase?

/-- What collaborators are asked for, in order. -/
def journal (moments : List Moment) : List Happening := moments.filterMap happening?

/-- Phases that are entered one after the other. -/
def ofPhases (phases : List ReadPhase) : List Moment := phases.map entered

/-- Happenings of a journal. -/
def ofJournal (journal : List Happening) : List Moment := journal.map happened

@[simp] lemma phases_nil : phases [] = [] := rfl

@[simp] lemma journal_nil : journal [] = [] := rfl

@[simp] lemma phases_append (moments more : List Moment) :
    phases (moments ++ more) = phases moments ++ phases more := List.filterMap_append

@[simp] lemma journal_append (moments more : List Moment) :
    journal (moments ++ more) = journal moments ++ journal more := List.filterMap_append

@[simp] lemma phases_ofPhases (entered : List ReadPhase) : phases (ofPhases entered) = entered := by
  simp [phases, ofPhases, List.filterMap_map, Function.comp_def, phase?]

@[simp] lemma journal_ofPhases (entered : List ReadPhase) : journal (ofPhases entered) = [] := by
  simp [journal, ofPhases, List.filterMap_map, Function.comp_def, happening?]

@[simp] lemma phases_ofJournal (happenings : List Happening) :
    phases (ofJournal happenings) = [] := by
  simp [phases, ofJournal, List.filterMap_map, Function.comp_def, phase?]

@[simp] lemma journal_ofJournal (happenings : List Happening) :
    journal (ofJournal happenings) = happenings := by
  simp [journal, ofJournal, List.filterMap_map, Function.comp_def, happening?]

lemma ofPhases_append (entered more : List ReadPhase) :
    ofPhases (entered ++ more) = ofPhases entered ++ ofPhases more := List.map_append

@[simp] lemma happened_notMem_ofPhases (h : Happening) (entered : List ReadPhase) :
    happened h ∉ ofPhases entered := by
  simp [ofPhases]

lemma ofPhases_ne_split {h : Happening} {entered : List ReadPhase} {before after : List Moment} :
    ofPhases entered ≠ before ++ happened h :: after := by
  intro heq
  have hmem : happened h ∈ ofPhases entered := by
    rw [heq]
    simp
  simp at hmem

@[simp] lemma happened_mem_ofJournal {h : Happening} {happenings : List Happening} :
    happened h ∈ ofJournal happenings ↔ h ∈ happenings := by
  simp [ofJournal]

end Moment

/-- A state with what was told so far. -/
structure Narrated (σ : Type) where
  state : σ
  moments : List Moment

namespace Narrated

variable {σ α : Type}

/-- The beginning of a story. -/
def opening (s : σ) : Narrated σ := ⟨s, []⟩

/-- Tell the phases of a computation. -/
def ofPhased (p : Phased α) : Effect (Narrated σ) α := fun n =>
  let (result, phases) := p []
  (result, ⟨n.state, n.moments ++ Moment.ofPhases phases⟩)

/-- Tell the journal of an effect. -/
def ofEffect (e : Effect (Journaled σ) α) : Effect (Narrated σ) α := fun n =>
  let (result, w) := e (.opening n.state)
  (result, ⟨w.state, n.moments ++ Moment.ofJournal w.journal⟩)

lemma enter_run (phase : ReadPhase) (n : Narrated σ) :
    ofPhased (Phased.enter phase) n = (.ok (), ⟨n.state, n.moments ++ Moment.ofPhases [phase]⟩) :=
  rfl

/-- Tell how a computation ends. -/
def closing (e : Effect (Narrated σ) α) : Effect (Narrated σ) α := fun n =>
  match e n with
  | (.ok a, n) => (.ok a, ⟨n.state, n.moments ++ Moment.ofPhases [.done]⟩)
  | (.error f, n) => (.error f, ⟨n.state, n.moments ++ Moment.ofPhases [.failed]⟩)

end Narrated

namespace Reading

variable {σ : Type}

/-- Two computations of a read, one after the other. -/
lemma run_bind {α β : Type} (e : Reading σ α) (next : α → Reading σ β)
    (phases : List ReadPhase) (s : σ) :
    (e >>= next) phases s = match e phases s with
      | ((.ok a, phases), s) => next a phases s
      | ((.error f, phases), s) => ((.error f, phases), s) := by
  have hbind : (e >>= next) phases s =
      ExceptT.bindCont next (e phases s).1.1 (e phases s).1.2 (e phases s).2 := rfl
  rw [hbind]
  obtain ⟨⟨result, phases⟩, s⟩ := e phases s
  cases result <;> rfl

end Reading

namespace Gate

variable {σ : Type} (gate : Gate σ)

/-- A read that is told from its check to its last phase. -/
def narratedRun (r : ReadRequest) : Effect (Narrated σ) ReadOutcome := do
  Narrated.ofEffect (Effect.ofExcept (gate.checkRead r))
  let q ← Narrated.ofPhased (compile gate.registry r)
  if q.shaping.hydrate then
    Narrated.ofPhased (Phased.enter .executing)
    Narrated.ofEffect (gate.journaled.executeQuery q)
  else
    Narrated.ofPhased (Phased.enter .returnUnexecuted)
    return .query q

/-- A read of entities of a type that is told. -/
def narratedRead (entityType : String) (params : Json) (frontEnd : FrontEndOptions)
    (overrides : CallOptions) : Effect (Narrated σ) ReadOutcome := do
  let config ← Narrated.ofEffect (Effect.ofExcept (gate.config.entity entityType))
  Narrated.closing (do
    Narrated.ofPhased (Phased.enter .idle)
    gate.narratedRun (.ofCall entityType config params frontEnd overrides))

end Gate

/-! ## What the life cycle is -/

/-- The stages of a compilation, in order. -/
def ReadPhase.stages : List ReadPhase := [.resolving, .permissionChecking, .assembling]

/-- The last phase of a read tells whether something is returned. -/
def ReadPhase.last {α : Type} : Except Fault α → ReadPhase
  | .ok _ => .done
  | .error _ => .failed

/-- The call that executes a query: as a page if it is to be paginated. -/
def QuerySpec.call (q : QuerySpec) : Call :=
  if q.shaping.paginate then .executePaginated q q.shaping.fetchJoin q.shaping.returnCount
  else .execute q

namespace Gate

variable {σ : Type} (gate : Gate σ)

/-- A read that is allowed, and compiled to a query. -/
def Compiles (r : ReadRequest) (q : QuerySpec) : Prop :=
  gate.checkRead r = .ok () ∧ (compile gate.registry r).outcome.1 = .ok q

/-- A read that fails a check, with its fault. -/
def Refuses (r : ReadRequest) (f : Fault) : Prop :=
  gate.checkRead r = .error f ∨
    gate.checkRead r = .ok () ∧ (compile gate.registry r).outcome.1 = .error f

/-- A setting of a read that is a truth value, as it is resolved; `standard` if it is absent. -/
def Resolved (r : ReadRequest) (setting : String) (standard value : Bool) : Prop :=
  ∃ resolved, Resolve.findBool? gate.registry r.ctx setting (r.layers setting) = .ok resolved ∧
    resolved.getD standard = value

/-- The story of a read is one of a life cycle. -/
structure LifeCycle (r : ReadRequest) (result : Except Fault ReadOutcome)
    (moments : List Moment) : Prop where
  /-- The phases are the idle one, some of those in between in their order, and the last one. -/
  phases : ∃ settling ∈ [ReadPhase.executing, .returnUnexecuted], ∃ middle,
    middle <+: ReadPhase.stages ++ [settling] ∧
      Moment.phases moments = .idle :: middle ++ [.last result]
  /-- The last phase is the end of the story. -/
  closed : ∃ before, moments = before ++ Moment.ofPhases [.last result]
  /-- What is returned was executed, or left unexecuted, as the request says. -/
  returned : ∀ a, result = .ok a → ∃ hydrate, gate.Resolved r "hydrate" true hydrate ∧
    Moment.phases moments =
      .idle :: ReadPhase.stages ++ [if hydrate then .executing else .returnUnexecuted, .done]
  /-- A read that fails a check ends in the fault of that check and asks nobody for anything. -/
  refused : ∀ f, gate.Refuses r f → result = .error f ∧ Moment.journal moments = []
  /-- A query that is not to be executed is returned, and nobody is asked for anything. -/
  unexecuted : ∀ q, gate.Compiles r q → q.shaping.hydrate = false →
    result = .ok (.query q) ∧ Moment.journal moments = []
  /-- A query that is to be executed is. -/
  executed : ∀ q, gate.Compiles r q → q.shaping.hydrate = true →
    ∃ answered, .happened (.called q.call answered) ∈ moments
  /-- The store is called in the phase where the query is executed, by the call for it, and not
  again. -/
  called : ∀ before c answered after, moments = before ++ .happened (.called c answered) :: after →
    before = Moment.ofPhases (.idle :: ReadPhase.stages ++ [.executing]) ∧
      (∀ c' answered', .happened (.called c' answered') ∉ after) ∧
      gate.Resolved r "hydrate" true true ∧
      ∃ q paginate, gate.Compiles r q ∧ gate.Resolved r "paginate" false paginate ∧
        c = if paginate then .executePaginated q q.shaping.fetchJoin q.shaping.returnCount
          else .execute q

/-- How a read goes: what comes out of it, and what is told. -/
inductive ReadCourse (r : ReadRequest) : Except Fault ReadOutcome → List Moment → Prop where
  /-- It fails a check. -/
  | refused (f : Fault) (entered : List ReadPhase) (hentered : entered <+: ReadPhase.stages)
      (hrefused : gate.Refuses r f) :
      ReadCourse r (.error f) (Moment.ofPhases (.idle :: entered ++ [.failed]))
  /-- The query is returned. -/
  | unexecuted (q : QuerySpec) (hq : gate.Compiles r q) (hhydrate : q.shaping.hydrate = false) :
      ReadCourse r (.ok (.query q))
        (Moment.ofPhases (.idle :: ReadPhase.stages ++ [.returnUnexecuted, .done]))
  /-- The query is executed, and listeners may be shown the rows. -/
  | executed (q : QuerySpec) (result : Except Fault ReadOutcome) (answered : Bool)
      (shown : List Happening) (hq : gate.Compiles r q) (hhydrate : q.shaping.hydrate = true)
      (hshown : ∀ c answered, .called c answered ∉ shown) :
      ReadCourse r result (Moment.ofPhases (.idle :: ReadPhase.stages ++ [.executing]) ++
        Moment.ofJournal (.called q.call answered :: shown) ++ Moment.ofPhases [.last result])

variable {gate} {r : ReadRequest}

lemma Compiles.unique {q q' : QuerySpec} (h : gate.Compiles r q) (h' : gate.Compiles r q') :
    q = q' :=
  Except.ok.inj (h.2.symm.trans h'.2)

lemma Compiles.not_refuses {q : QuerySpec} {f : Fault} (h : gate.Compiles r q) :
    ¬ gate.Refuses r f := by
  rintro (hcheck | ⟨-, hcompile⟩)
  · rw [h.1] at hcheck
    cases hcheck
  · rw [h.2] at hcompile
    cases hcompile

lemma Refuses.unique {f f' : Fault} (h : gate.Refuses r f) (h' : gate.Refuses r f') : f = f' := by
  rcases h with h | ⟨h, hcompile⟩ <;> rcases h' with h' | ⟨h', hcompile'⟩ <;> rw [h] at h'
  · exact Except.error.inj h'
  · cases h'
  · cases h'
  · rw [hcompile] at hcompile'
    exact Except.error.inj hcompile'

/-- The shape of a query is settled by the settings of its read. -/
lemma Compiles.resolved {q : QuerySpec} (h : gate.Compiles r q) :
    gate.Resolved r "hydrate" true q.shaping.hydrate ∧
      gate.Resolved r "paginate" false q.shaping.paginate := by
  obtain ⟨_, _, _, _, -, -, hassembling⟩ := Compile.compile_eq_ok.mp h.2
  simp only [Compile.assembling, Decision.bind_eq_ok] at hassembling
  obtain ⟨max, -, hassembling⟩ := hassembling
  split at hassembling
  · cases hassembling
  · obtain ⟨paginate, hpaginate, hassembling⟩ := Decision.bind_eq_ok.mp hassembling
    obtain ⟨fetchJoin, -, hassembling⟩ := Decision.bind_eq_ok.mp hassembling
    obtain ⟨hydrate, hhydrate, hassembling⟩ := Decision.bind_eq_ok.mp hassembling
    cases hassembling
    exact ⟨⟨hydrate, hhydrate, rfl⟩, ⟨paginate, hpaginate, rfl⟩⟩

/-- What the store is asked for stands right after the phase in which the query is executed. -/
lemma called_split {entered : List ReadPhase} {shown : List Happening} {last : ReadPhase}
    {c c' : Call} {answered answered' : Bool} {before after : List Moment}
    (hshown : ∀ c answered, .called c answered ∉ shown)
    (h : Moment.ofPhases entered ++ Moment.ofJournal (.called c answered :: shown) ++
      Moment.ofPhases [last] = before ++ .happened (.called c' answered') :: after) :
    before = Moment.ofPhases entered ∧ c' = c ∧
      after = Moment.ofJournal shown ++ Moment.ofPhases [last] := by
  have hphases : .happened (.called c' answered') ∉ Moment.ofPhases entered := by simp
  have hrest : .happened (.called c' answered') ∉
      Moment.ofJournal shown ++ Moment.ofPhases [last] := by simp [hshown]
  rw [List.append_assoc] at h
  obtain ⟨rfl, hcall, rfl⟩ := (List.append_cons_inj_of_notMem hphases hrest).mp h
  cases hcall
  exact ⟨rfl, rfl, rfl⟩

namespace ReadCourse

variable {result : Except Fault ReadOutcome} {moments : List Moment}

/-- Every course of a read is a life cycle. -/
theorem lifeCycle (h : gate.ReadCourse r result moments) : gate.LifeCycle r result moments := by
  cases h with
  | refused f entered hentered hrefused =>
    exact {
      phases := by
        refine ⟨.executing, by simp, entered, hentered.trans (List.prefix_append _ _), ?_⟩
        rw [Moment.phases_ofPhases]
        rfl
      closed := ⟨Moment.ofPhases (.idle :: entered), Moment.ofPhases_append _ _⟩
      returned := by rintro a ⟨⟩
      refused := fun f' hf' => ⟨by rw [hrefused.unique hf'], Moment.journal_ofPhases _⟩
      unexecuted := fun q hq _ => (hq.not_refuses hrefused).elim
      executed := fun q hq _ => (hq.not_refuses hrefused).elim
      called := fun _ _ _ _ h => (Moment.ofPhases_ne_split h).elim }
  | unexecuted q hq hhydrate =>
    exact {
      phases := by
        refine ⟨.returnUnexecuted, by simp, _, List.prefix_rfl, ?_⟩
        rw [Moment.phases_ofPhases]
        rfl
      closed := ⟨_, Moment.ofPhases_append (.idle :: ReadPhase.stages ++ [.returnUnexecuted])
        [.done]⟩
      returned := fun _ _ => ⟨false, hhydrate ▸ hq.resolved.1, Moment.phases_ofPhases _⟩
      refused := fun f hf => (hq.not_refuses hf).elim
      unexecuted := fun q' hq' _ => ⟨by rw [hq.unique hq'], Moment.journal_ofPhases _⟩
      executed := by
        intro q' hq' hhydrate'
        rw [← hq.unique hq', hhydrate] at hhydrate'
        cases hhydrate'
      called := fun _ _ _ _ h => (Moment.ofPhases_ne_split h).elim }
  | executed q result answered shown hq hhydrate hshown =>
    have hphases : Moment.phases (Moment.ofPhases (.idle :: ReadPhase.stages ++ [.executing]) ++
        Moment.ofJournal (.called q.call answered :: shown) ++ Moment.ofPhases [.last result]) =
          .idle :: ReadPhase.stages ++ [.executing, .last result] := by
      simp
    exact {
      phases := ⟨.executing, by simp, _, List.prefix_rfl, hphases⟩
      closed := ⟨_, rfl⟩
      returned := by
        rintro a rfl
        exact ⟨true, hhydrate ▸ hq.resolved.1, hphases⟩
      refused := fun f hf => (hq.not_refuses hf).elim
      unexecuted := by
        intro q' hq' hhydrate'
        rw [← hq.unique hq', hhydrate] at hhydrate'
        cases hhydrate'
      executed := fun q' hq' _ => ⟨answered, by simp [hq.unique hq']⟩
      called := by
        intro before c answered' after h
        obtain ⟨rfl, rfl, rfl⟩ := called_split hshown h
        refine ⟨rfl, fun c' answered' => ?_, hhydrate ▸ hq.resolved.1, q, _, hq, hq.resolved.2, rfl⟩
        simp [hshown] }

end ReadCourse

/-! ## The course of a read -/

lemma compile_phases (registry : Registry) (r : ReadRequest) :
    ∃ entered, entered <+: ReadPhase.stages ∧
      (∀ phases, compile registry r phases =
        ((compile registry r).outcome.1, phases ++ entered)) ∧
      ∀ q, (compile registry r).outcome.1 = .ok q → entered = ReadPhase.stages := by
  have hrun : (compile registry r).outcome = compile registry r [] := rfl
  simp only [hrun, Compile.compile_run]
  cases Compile.resolving registry r with
  | error f =>
    refine ⟨[.resolving], ⟨[.permissionChecking, .assembling], rfl⟩, fun _ => rfl, ?_⟩
    rintro q ⟨⟩
  | ok resolved =>
    obtain ⟨checked, spec, bound⟩ := resolved
    dsimp only
    cases Compile.authorizing registry r checked spec bound with
    | error f =>
      refine ⟨[.resolving, .permissionChecking], ⟨[.assembling], rfl⟩, fun _ => rfl, ?_⟩
      rintro q ⟨⟩
    | ok spec =>
      dsimp only
      exact ⟨ReadPhase.stages, List.prefix_rfl, fun _ => rfl, fun _ _ => rfl⟩

/-- Something that is not a call of the store. -/
def Uncalled (h : Happening) : Prop := ∀ c answered, h ≠ .called c answered

/-- The journal is the call that executes a query, and after it no other call. -/
def CalledOnce (q : QuerySpec) (w : Journaled σ) : Prop :=
  ∃ answered, w.Grown [.called q.call answered] Uncalled

/-- A call that stands alone in the journal is followed by the listeners around the return. -/
lemma executed_of_call {α β : Type} {q : QuerySpec} {c : Call} (hc : q.call = c)
    (run : StoreCall σ α) {next : α → Effect (Journaled σ) β}
    (hnext : ∀ a,
      Effect.Triple (CalledOnce q) (next a) (fun _ => CalledOnce q) fun _ => CalledOnce q) :
    Effect.Triple (fun w => w.journal = [])
      (Effect.ofStore (Journaled.noting (.called c) run) >>= next) (fun _ => CalledOnce q)
      fun _ => CalledOnce q := by
  refine Effect.Triple.bind (m := fun _ => CalledOnce q) (.ofStore fun w hw => ?_) hnext
  rw [Journaled.noting_run, hw, hc.symm]
  cases run w.state with
  | mk result s => cases result <;> exact ⟨_, .refl rfl⟩

lemma toArray_executed (q : QuerySpec) (entityType : String) (rows : List Json) :
    Effect.Triple (CalledOnce q) (gate.journaled.toArray entityType rows) (fun _ => CalledOnce q)
      fun _ => CalledOnce q := by
  refine toArray_keeps (fun l hl event _ entityType payload => ?_) entityType rows
  obtain ⟨own, -, rfl⟩ := List.mem_map.mp hl
  have huncalled : ∀ answered, Uncalled (.heard event entityType answered) := by
    rintro answered c answered' ⟨⟩
  rintro w ⟨answered, hw⟩
  exact ⟨answered, Journaled.noting_kept huncalled _ w hw⟩

variable (gate)

/-- A query is executed by its call, and listeners may be shown the rows. -/
lemma executeQuery_executed (q : QuerySpec) :
    Effect.Triple (fun w => w.journal = []) (gate.journaled.executeQuery q) (fun _ => CalledOnce q)
      fun _ => CalledOnce q := by
  unfold executeQuery
  split
  · rename_i hpaginate
    exact executed_of_call (if_pos hpaginate) _ fun page =>
      (toArray_executed q _ _).bind fun _ => .pure fun _ hw => hw
  · rename_i hpaginate
    exact executed_of_call (if_neg hpaginate) _ fun rows =>
      (toArray_executed q _ _).bind fun _ => .pure fun _ hw => hw

/-- What a read comes to, step by step. -/
lemma runRead_run (r : ReadRequest) (phases : List ReadPhase) (s : σ) :
    gate.runRead r phases s = match gate.checkRead r with
      | .error f => ((.error f, phases), s)
      | .ok _ => match compile gate.registry r phases with
        | (.error f, phases) => ((.error f, phases), s)
        | (.ok q, phases) =>
          if q.shaping.hydrate then
            (((gate.executeQuery q s).1, phases ++ [.executing]), (gate.executeQuery q s).2)
          else ((.ok (.query q), phases ++ [.returnUnexecuted]), s) := by
  rw [runRead, Reading.run_bind]
  cases gate.checkRead r with
  | error f => rfl
  | ok _ =>
    dsimp only [Reading.ofEffect, Effect.ofExcept]
    rw [Reading.run_bind]
    dsimp only [Reading.ofPhased]
    cases compile gate.registry r phases with
    | mk result phases =>
      cases result with
      | error f => rfl
      | ok q =>
        dsimp only
        split <;> rfl

/-- What a read that is told comes to, step by step. -/
lemma narratedRun_run (r : ReadRequest) (n : Narrated σ) :
    gate.narratedRun r n = match gate.checkRead r with
      | .error f => (.error f, n)
      | .ok _ => match compile gate.registry r [] with
        | (.error f, entered) => (.error f, ⟨n.state, n.moments ++ Moment.ofPhases entered⟩)
        | (.ok q, entered) =>
          if q.shaping.hydrate then
            let (result, w) := gate.journaled.executeQuery q (.opening n.state)
            (result, ⟨w.state, n.moments ++ Moment.ofPhases (entered ++ [.executing]) ++
              Moment.ofJournal w.journal⟩)
          else (.ok (.query q),
            ⟨n.state, n.moments ++ Moment.ofPhases (entered ++ [.returnUnexecuted])⟩) := by
  have hcheck : (Narrated.ofEffect (Effect.ofExcept (gate.checkRead r)) : Effect (Narrated σ) Unit)
      n = (gate.checkRead r, n) := by
    simp [Narrated.ofEffect, Effect.ofExcept, Journaled.opening, Moment.ofJournal]
  rw [narratedRun, Effect.run_bind, hcheck]
  cases gate.checkRead r with
  | error f => rfl
  | ok _ =>
    dsimp only
    rw [Effect.run_bind]
    dsimp only [Narrated.ofPhased]
    cases compile gate.registry r [] with
    | mk result entered =>
      cases result with
      | error f => rfl
      | ok q =>
        dsimp only
        split
        · rw [Effect.run_bind, Narrated.enter_run, Moment.ofPhases_append, ← List.append_assoc]
          rfl
        · rw [Effect.run_bind, Narrated.enter_run, Moment.ofPhases_append, ← List.append_assoc]
          rfl

/-- A read of a known type takes its course, and its phases, its journal and what comes out of it
can be read off. -/
lemma narratedRun_course (r : ReadRequest) (s : σ) :
    ∃ result n, Narrated.closing (do
        Narrated.ofPhased (Phased.enter .idle)
        gate.narratedRun r) (.opening s) = (result, n) ∧
      gate.ReadCourse r result n.moments ∧
      Reading.closing (do
        Reading.enter .idle
        gate.journaled.runRead r) [] (.opening s) =
          ((result, Moment.phases n.moments), ⟨n.state, Moment.journal n.moments⟩) := by
  have hread : (do Reading.enter .idle; gate.journaled.runRead r : Reading (Journaled σ) _) []
      (.opening s) = gate.journaled.runRead r [.idle] (.opening s) := rfl
  have hcheck : gate.journaled.checkRead r = gate.checkRead r := rfl
  have hregistry : gate.journaled.registry = gate.registry := rfl
  unfold Narrated.closing Reading.closing
  rw [hread, runRead_run, hcheck, hregistry, Effect.run_bind, Narrated.enter_run]
  dsimp only
  rw [narratedRun_run]
  obtain ⟨entered, hentered, hphases, hstages⟩ := compile_phases gate.registry r
  rw [hphases [], hphases [.idle]]
  cases hchecked : gate.checkRead r with
  | error f =>
    exact ⟨_, _, rfl, .refused f [] List.nil_prefix (.inl hchecked), rfl⟩
  | ok _ =>
    dsimp only
    cases hcompiled : (compile gate.registry r).outcome.1 with
    | error f =>
      have hcourse := ReadCourse.refused f entered hentered (.inr ⟨hchecked, hcompiled⟩)
      rw [Moment.ofPhases_append] at hcourse
      exact ⟨_, _, rfl, hcourse, by simp [Narrated.opening, Journaled.opening]⟩
    | ok q =>
      obtain rfl := hstages q hcompiled
      dsimp only
      cases hhydrate : q.shaping.hydrate with
      | false => exact ⟨_, _, rfl, .unexecuted q ⟨hchecked, hcompiled⟩ hhydrate, rfl⟩
      | true =>
        have hexecuted := gate.executeQuery_executed q (.opening s) rfl
        rw [if_pos rfl, if_pos rfl, show (Narrated.opening s).state = s from rfl]
        cases hrun : gate.journaled.executeQuery q (.opening s) with
        | mk result w =>
          rw [hrun] at hexecuted
          have hcourse : ∀ result, CalledOnce q w → gate.ReadCourse r result
              (Moment.ofPhases (.idle :: ReadPhase.stages ++ [.executing]) ++
                Moment.ofJournal w.journal ++ Moment.ofPhases [.last result]) := by
            rintro result ⟨answered, shown, hjournal, huncalled⟩
            rw [hjournal]
            exact .executed q result answered shown ⟨hchecked, hcompiled⟩ hhydrate
              fun c answered hmem => huncalled _ hmem c answered rfl
          cases result with
          | ok a => exact ⟨_, _, rfl, hcourse (.ok a) hexecuted, by simp [Narrated.opening]⟩
          | error f => exact ⟨_, _, rfl, hcourse (.error f) hexecuted, by simp [Narrated.opening]⟩

/-- A query is executed alike with a journal. -/
lemma executeQuery_alike (q : QuerySpec) :
    EntityGate.Alike Kept (gate.journaled.executeQuery q) (gate.executeQuery q) := by
  unfold executeQuery
  split
  · exact (EntityGate.Alike.ofStore (noting_alike _ _)).bind fun page =>
      ((journaled_alike gate).toArray _ _).bind fun rows => .pure _
  · exact (EntityGate.Alike.ofStore (noting_alike _ _)).bind fun rows =>
      ((journaled_alike gate).toArray _ _).bind fun rows => .pure _

/-- A read of a known type goes with a journal as it goes without. -/
lemma runRead_alike (r : ReadRequest) (phases : List ReadPhase) (s : σ) :
    ∃ result entered w, gate.journaled.runRead r phases (.opening s) = ((result, entered), w) ∧
      gate.runRead r phases s = ((result, entered), w.state) := by
  have hcheck : gate.journaled.checkRead r = gate.checkRead r := rfl
  have hregistry : gate.journaled.registry = gate.registry := rfl
  rw [runRead_run, runRead_run, hcheck, hregistry]
  cases gate.checkRead r with
  | error f => exact ⟨_, _, _, rfl, rfl⟩
  | ok _ =>
    dsimp only
    cases compile gate.registry r phases with
    | mk result entered =>
      cases result with
      | error f => exact ⟨_, _, _, rfl, rfl⟩
      | ok q =>
        obtain ⟨result, w, t, hjournaled, hplain, hkept⟩ :=
          (gate.executeQuery_alike q).run_eq (kept_opening s)
        obtain rfl : w.state = t := hkept
        dsimp only
        rw [hjournaled, hplain]
        split <;> exact ⟨_, _, _, rfl, rfl⟩

/-- A read is one of a known type, or it fails at once. -/
lemma read_run (entityType : String) (params : Json) (frontEnd : FrontEndOptions)
    (overrides : CallOptions) (s : σ) :
    (gate.read entityType params frontEnd overrides).outcome s =
      match gate.config.entity entityType with
        | .error f => ((.error f, []), s)
        | .ok config => Reading.closing (do
            Reading.enter .idle
            gate.runRead (.ofCall entityType config params frontEnd overrides)) [] s := by
  rw [Reading.outcome, read, Reading.run_bind]
  cases gate.config.entity entityType <;> rfl

/-- The last phase of a read comes after those of its run. -/
lemma closing_run (r : ReadRequest) (s : σ) :
    Reading.closing (do
        Reading.enter .idle
        gate.runRead r) [] s = match gate.runRead r [.idle] s with
      | ((.ok a, phases), s) => ((.ok a, phases ++ [.done]), s)
      | ((.error f, phases), s) => ((.error f, phases ++ [.failed]), s) := by
  have hrun : (do Reading.enter .idle; gate.runRead r : Reading σ _) [] s =
      gate.runRead r [.idle] s := rfl
  unfold Reading.closing
  rw [hrun]
  obtain ⟨⟨result, phases⟩, s'⟩ := gate.runRead r [.idle] s
  cases result <;> rfl

/-- Every read goes through its life cycle.  A read that is told goes as it does with a journal and
as it does without, and its story holds the phases and the journal; it is the story of a life
cycle, unless the type is unknown: then nothing happens at all. -/
theorem read_life_cycle (gate : Gate σ) (entityType : String) (params : Json)
    (frontEnd : FrontEndOptions) (overrides : CallOptions) (s : σ) :
    ∃ result n, (gate.narratedRead entityType params frontEnd overrides).outcome (.opening s) =
        (result, n) ∧
      (gate.journaled.read entityType params frontEnd overrides).outcome (.opening s) =
        ((result, Moment.phases n.moments), ⟨n.state, Moment.journal n.moments⟩) ∧
      (gate.read entityType params frontEnd overrides).outcome s =
        ((result, Moment.phases n.moments), n.state) ∧
      match gate.config.entity entityType with
      | .error f => result = .error f ∧ n.moments = []
      | .ok config =>
        gate.LifeCycle (.ofCall entityType config params frontEnd overrides) result n.moments := by
  have hconfig : gate.journaled.config = gate.config := rfl
  rw [read_run, read_run, hconfig, Effect.outcome, narratedRead, Effect.run_bind]
  cases hentity : gate.config.entity entityType with
  | error f => exact ⟨_, _, rfl, rfl, rfl, rfl, rfl⟩
  | ok config =>
    obtain ⟨result, n, hnarrated, hcourse, hjournaled⟩ := gate.narratedRun_course
      (.ofCall entityType config params frontEnd overrides) s
    refine ⟨result, n, hnarrated, hjournaled, ?_, hcourse.lifeCycle⟩
    dsimp only at hjournaled ⊢
    rw [closing_run] at hjournaled ⊢
    obtain ⟨ended, entered, w, hrun, hplain⟩ := gate.runRead_alike
      (.ofCall entityType config params frontEnd overrides) [.idle] s
    rw [hrun] at hjournaled
    rw [hplain]
    cases ended
    all_goals
      dsimp only at hjournaled ⊢
      rw [Prod.mk.injEq, Prod.mk.injEq] at hjournaled
      obtain ⟨⟨rfl, hphases⟩, hw⟩ := hjournaled
      rw [hphases, hw]

end Gate

end EntityGate
