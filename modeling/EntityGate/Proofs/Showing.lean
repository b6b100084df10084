/-
# What listeners are shown, and what is returned

Around its return a request shows its rows to listeners, twice.  What a read returns is what these
listeners left of the rows that the store answered with, so whatever one of them ensures of the
rows holds of those returned, if the others keep it.

A mutation shows the rows of its records as well, but it returns the records.  Apart from a fault
of a listener it returns what it returns at a gate whose listeners pass on whatever they are shown
around the return.
-/
import EntityGate.Proofs.LifeCycle
import EntityGate.Proofs.Settlement

namespace EntityGate

variable {σ : Type}

/-! ## Listeners that pass on what they are shown -/

namespace Mutating.Alike

variable {α : Type} {p p' : Mutating σ α}

lemma refl (p : Mutating σ α) : Alike Eq p p := by
  rintro cache s _ rfl
  exact ⟨rfl, rfl⟩

/-- What is alike over the same states is the same. -/
lemma eq (h : Alike Eq p p') : p = p' := by
  funext cache s
  obtain ⟨hresult, hstate⟩ := h cache s s rfl
  exact Prod.ext hresult hstate

end Mutating.Alike

/-- The subscription, with a listener that passes on what it is shown around the return. -/
def Subscription.deafened (l : Subscription σ) : Subscription σ where
  event := l.event
  listener event entityType payload :=
    if event ∈ Event.closing then pure payload else l.listener event entityType payload

namespace Gate

open Mutating (ofEffect)

/-- The gate, with listeners that pass on what they are shown around the return. -/
def deafened (gate : Gate σ) : Gate σ :=
  { gate with events := gate.events.map Subscription.deafened }

variable (gate : Gate σ)

@[simp] lemma deafened_plan : gate.deafened.plan = gate.plan := rfl

lemma deafened_publish (event : Event) (entityType : String) (payload : Json) :
    gate.deafened.publish event entityType payload =
      if event ∈ Event.closing then pure payload else gate.publish event entityType payload := by
  unfold publish EventBus.publish deafened
  rw [List.filter_map, List.foldlM_map]
  change List.foldlM (fun payload (l : Subscription σ) =>
    l.deafened.listener event entityType payload) payload
      (gate.events.filter fun l => EventBus.listens l event) = _
  unfold Subscription.deafened
  dsimp only
  split
  · exact List.foldlM_pure.trans (by rw [List.foldl_fixed])
  · rfl

lemma deafened_toArray (entityType : String) (rows : List Json) :
    gate.deafened.toArray entityType rows = pure rows := by
  unfold toArray
  rw [deafened_publish, if_pos (by decide), pure_bind, deafened_publish, if_pos (by decide)]
  rfl

lemma deafened_publish_underway {event : Event} (hevent : event ∈ Event.underway)
    (entityType : String) (payload : Json) :
    gate.deafened.publish event entityType payload = gate.publish event entityType payload := by
  have hclosing : ∀ event ∈ Event.underway, event ∉ Event.closing := by decide
  rw [deafened_publish, if_neg (hclosing event hevent)]

lemma deafened_persist (action : Action) (r : EntityRecord) :
    gate.deafened.persist action r = gate.persist action r := by
  unfold persist
  have hafter : Event.afterPersist ∈ Event.underway := by decide
  rw [deafened_publish_underway _ (by decide)]
  simp only [deafened_publish_underway gate hafter]
  rfl

/-- The steps of a mutation are those of the gate itself. -/
lemma deafened_abreast : gate.Abreast (fun _ => True) (SameCache Eq) Eq gate.deafened where
  registry := rfl
  validator := rfl
  schema := rfl
  fault _ _ _ _ h := h.2
  load _ _ := (Mutating.Alike.refl _).paired
  publish event hevent entityType payload := by
    rw [deafened_publish_underway _ hevent]
    exact (Mutating.Alike.refl _).paired
  persist {action action'} r _ hentityType hchain := by
    have hpersist : gate.persist action' r = gate.persist action r := by
      unfold Gate.persist
      rw [hentityType, hchain]
    rw [deafened_persist, hpersist]
    exact (Mutating.Alike.refl _).paired

lemma deafened_runBatch (levels : Nat) (config : EntityConfig) (b : Batch) :
    gate.deafened.runBatch levels config b = gate.runBatch levels config b := by
  refine (gate.deafened_abreast.runBatch (B := fun config b config' b' => config = config' ∧ b = b')
    (fun _ => .refl _) (fun heq _ => heq ▸ rfl) (fun heq _ _ _ _ => ⟨heq, rfl⟩) ?_ levels
    ⟨rfl, rfl⟩).alike.eq.symm
  rintro config b _ _ ⟨rfl, rfl⟩
  refine ⟨rfl, rfl, (Mutating.Alike.refl (gate.openBatch config b)).paired.mono ?_⟩
  rintro action _ rfl
  exact ⟨.refl _ _, trivial⟩

lemma deafened_perform (p : Plan) : gate.deafened.perform p = gate.perform p := by
  unfold perform runAndFlush
  rw [deafened_runBatch]
  rfl

/-- A mutation returns what it returns if nobody changes what is shown around the return; then the
listeners are shown the rows, and what they make of them is dropped. -/
lemma mutate_deafened (entityType : String) (chain : Chain) (params : Json)
    (overrides : CallOptions) (frontEnd : FrontEndOptions) :
    gate.mutate entityType chain params overrides frontEnd = (do
      let records ← gate.deafened.mutate entityType chain params overrides frontEnd
      let _ ← gate.toArray entityType (records.map EntityRecord.toRow)
      return records) := by
  simp only [mutate_eq, deafened_plan, deafened_perform, deafened_toArray, bind_assoc, pure_bind]

/-! ## What listeners make of rows -/

end Gate

/-- A listener leaves rows with a property if it is shown such rows. -/
def Listener.Keeps (P : Json → Prop) (l : Listener σ) (event : Event) : Prop :=
  ∀ entityType payload s v s', l event entityType payload s = (.ok v, s') →
    (∀ row ∈ payload.toItems, P row) → ∀ row ∈ v.toItems, P row

/-- A listener leaves rows with a property, whatever it is shown. -/
def Listener.Ensures (P : Json → Prop) (l : Listener σ) (event : Event) : Prop :=
  ∀ entityType payload s v s', l event entityType payload s = (.ok v, s') →
    ∀ row ∈ v.toItems, P row

namespace Gate

variable {gate : Gate σ} {P : Json → Prop}

/-- Some listener to an event ensures a property of the rows. -/
def EnsuredAt (gate : Gate σ) (P : Json → Prop) (event : Event) : Prop :=
  ∃ l ∈ gate.events, EventBus.listens l event = true ∧ l.listener.Ensures P event

/-- All listeners around the return keep a property of the rows, and one of them ensures it. -/
structure Ensures (gate : Gate σ) (P : Json → Prop) : Prop where
  kept : ∀ l ∈ gate.events, ∀ event ∈ Event.closing, EventBus.listens l event = true →
    l.listener.Keeps P event
  ensured : ∃ event ∈ Event.closing, gate.EnsuredAt P event

/-- What was ensured of the rows by a listener is kept by those after it. -/
lemma publish_ensures {event : Event} (hkept : ∀ l ∈ gate.events,
    EventBus.listens l event = true → l.listener.Keeps P event) (entityType : String)
    (payload : Json) :
    Effect.Triple (fun _ => True) (gate.publish event entityType payload)
      (fun v _ => ((∀ row ∈ payload.toItems, P row) ∨ gate.EnsuredAt P event) →
        ∀ row ∈ v.toItems, P row) fun _ _ => True := by
  -- of the listeners that were passed, one has ensured it, or it held from the beginning
  let I (done : List (Subscription σ)) (v : Json) (_ : σ) : Prop :=
    ((∀ row ∈ payload.toItems, P row) ∨ ∃ l ∈ done, l.listener.Ensures P event) →
      ∀ row ∈ v.toItems, P row
  have hfold : Effect.Triple (I [] payload) (gate.publish event entityType payload)
      (I (gate.events.filter fun l => EventBus.listens l event)) fun _ _ => True := by
    refine .foldlM_along (fun done l hl v s hI => ?_) payload
    obtain ⟨hmem, hlistens⟩ := List.mem_filter.mp hl
    cases hrun : l.listener event entityType v s with
    | mk result s' =>
      cases result with
      | error f => trivial
      | ok w =>
        rintro (hbefore | ⟨l', hl', hensures⟩)
        · exact hkept l hmem hlistens _ _ _ _ _ hrun (hI (.inl hbefore))
        · rcases List.mem_append.mp hl' with hdone | hlast
          · exact hkept l hmem hlistens _ _ _ _ _ hrun (hI (.inr ⟨l', hdone, hensures⟩))
          · obtain rfl := List.mem_singleton.mp hlast
            exact hensures _ _ _ _ _ hrun
  refine hfold.weaken (fun _ _ h => h.elim id fun ⟨_, hl, _⟩ => by cases hl) ?_ fun _ _ h => h
  rintro v s hv (hbefore | ⟨l, hl, hlistens, hensures⟩)
  · exact hv (.inl hbefore)
  · exact hv (.inr ⟨l, List.mem_filter.mpr ⟨hl, hlistens⟩, hensures⟩)

lemma toArray_ensures (h : gate.Ensures P) (entityType : String) (rows : List Json) :
    Effect.Triple (fun _ => True) (gate.toArray entityType rows)
      (fun shown _ => ∀ row ∈ shown, P row) fun _ _ => True := by
  obtain ⟨event, hevent, hensured⟩ := h.ensured
  have hpublish : ∀ event ∈ Event.closing, ∀ payload, Effect.Triple (fun _ => True)
      (gate.publish event entityType payload) (fun v _ =>
        ((∀ row ∈ payload.toItems, P row) ∨ gate.EnsuredAt P event) → ∀ row ∈ v.toItems, P row)
      fun _ _ => True :=
    fun event hevent => publish_ensures (fun l hl => h.kept l hl event hevent) entityType
  refine (hpublish .beforeToArray (by decide) _).bind fun before s hbefore => ?_
  have hafter : (∀ row ∈ (Json.arr before.toItems).toItems, P row) ∨
      gate.EnsuredAt P .afterToArray := by
    rcases List.mem_pair.mp hevent with rfl | rfl
    · exact .inl (hbefore (.inr hensured))
    · exact .inr hensured
  exact (hpublish .afterToArray (by decide) _).bind
    (fun v => .pure fun _ hv => hv hafter) s trivial

/-! ## Reads -/

section

variable (gate)

/-- The rows that the store answers a query with. -/
def answered (q : QuerySpec) : Effect σ (List Json) :=
  if q.shaping.paginate then do
    let page ← Effect.ofStore
      (gate.persistence.executePaginated q q.shaping.fetchJoin q.shaping.returnCount)
    return page.rows
  else Effect.ofStore (gate.persistence.execute q)

end

lemma run_bind_ok {α β : Type} {e : Effect σ α} {next : α → Effect σ β} {s s' : σ} {b : β}
    (h : (e >>= next) s = (.ok b, s')) : ∃ a t, e s = (.ok a, t) ∧ next a t = (.ok b, s') := by
  rw [Effect.run_bind] at h
  cases he : e s with
  | mk result t =>
    rw [he] at h
    cases result with
    | ok a => exact ⟨a, t, rfl, h⟩
    | error f => cases h

/-- What an executed query returns is what the listeners make of the rows in answer to it. -/
lemma executeQuery_shows {q : QuerySpec} {s s' : σ} {o : ReadOutcome}
    (h : gate.executeQuery q s = (.ok o, s')) :
    ∃ stored t, gate.answered q s = (.ok stored, t) ∧
      gate.toArray q.entityType stored t = (.ok o.items, s') := by
  unfold executeQuery at h
  unfold answered
  split at h
  · rename_i hpaginate
    obtain ⟨page, t, hpage, h⟩ := run_bind_ok h
    obtain ⟨shown, t', hshown, h⟩ := run_bind_ok h
    cases h
    refine ⟨page.rows, t, ?_, hshown⟩
    rw [if_pos hpaginate, Effect.run_bind, hpage]
    rfl
  · rename_i hpaginate
    obtain ⟨stored, t, hstored, h⟩ := run_bind_ok h
    obtain ⟨shown, t', hshown, h⟩ := run_bind_ok h
    cases h
    exact ⟨stored, t, by rw [if_neg hpaginate, hstored], hshown⟩

/-- A read that returns has compiled its request, and left the query unexecuted or executed it. -/
lemma read_compiles {entityType : String} {params : Json} {frontEnd : FrontEndOptions}
    {overrides : CallOptions} {s s' : σ} {o : ReadOutcome} {phases : List ReadPhase}
    (h : (gate.read entityType params frontEnd overrides).outcome s = ((.ok o, phases), s')) :
    ∃ config q, gate.config.entity entityType = .ok config ∧
      gate.Compiles (.ofCall entityType config params frontEnd overrides) q ∧
      if q.shaping.hydrate then gate.executeQuery q s = (.ok o, s') else o = .query q ∧ s' = s := by
  rw [read_run] at h
  cases hentity : gate.config.entity entityType with
  | error f =>
    rw [hentity] at h
    cases h
  | ok config =>
    rw [hentity] at h
    dsimp only at h
    rw [closing_run, runRead_run] at h
    refine ⟨config, ?_⟩
    generalize ReadRequest.ofCall entityType config params frontEnd overrides = r at h ⊢
    obtain ⟨entered, -, hphases, -⟩ := compile_phases gate.registry r
    rw [hphases] at h
    cases hcheck : gate.checkRead r with
    | error f =>
      rw [hcheck] at h
      cases h
    | ok _ =>
      rw [hcheck] at h
      cases hcompile : (compile gate.registry r).outcome.1 with
      | error f =>
        rw [hcompile] at h
        cases h
      | ok q =>
        rw [hcompile] at h
        dsimp only at h
        refine ⟨q, rfl, ⟨hcheck, hcompile⟩, ?_⟩
        by_cases hhydrate : q.shaping.hydrate = true
        · rw [if_pos hhydrate] at h ⊢
          cases hrun : gate.executeQuery q s with
          | mk result t =>
            rw [hrun] at h
            cases result with
            | error f => cases h
            | ok a =>
              cases h
              rfl
        · rw [if_neg hhydrate] at h ⊢
          cases h
          exact ⟨rfl, rfl⟩

/-- A read returns the query that its request compiles to, or what the listeners make of the rows
in answer to this query, and a mutation returns its records as they were before the listeners were
shown them. -/
theorem listeners_shape_reads (gate : Gate σ) :
    (∀ entityType params frontEnd overrides s o phases s',
      (gate.read entityType params frontEnd overrides).outcome s = ((.ok o, phases), s') →
      (∃ config q, gate.config.entity entityType = .ok config ∧
        gate.Compiles (.ofCall entityType config params frontEnd overrides) q ∧
        if q.shaping.hydrate then
          ∃ stored t, gate.answered q s = (.ok stored, t) ∧
            gate.toArray q.entityType stored t = (.ok o.items, s')
        else o = .query q ∧ s' = s) ∧
      ∀ P, gate.Ensures P → ∀ row ∈ o.items, P row) ∧
    ∀ entityType chain params overrides frontEnd,
      gate.mutate entityType chain params overrides frontEnd = (do
        let records ← gate.deafened.mutate entityType chain params overrides frontEnd
        let _ ← gate.toArray entityType (records.map EntityRecord.toRow)
        return records) := by
  refine ⟨fun entityType params frontEnd overrides s o phases s' h => ?_, gate.mutate_deafened⟩
  obtain ⟨config, q, hentity, hcompiles, hq⟩ := read_compiles h
  by_cases hhydrate : q.shaping.hydrate = true
  · rw [if_pos hhydrate] at hq
    obtain ⟨stored, t, hstored, hshown⟩ := executeQuery_shows hq
    refine ⟨⟨config, q, hentity, hcompiles, ?_⟩, fun P hP => ?_⟩
    · rw [if_pos hhydrate]
      exact ⟨stored, t, hstored, hshown⟩
    · exact (toArray_ensures hP q.entityType stored).of_ok trivial hshown
  · rw [if_neg hhydrate] at hq
    obtain ⟨rfl, rfl⟩ := hq
    refine ⟨⟨config, q, hentity, hcompiles, ?_⟩, fun P _ row hrow => by cases hrow⟩
    rw [if_neg hhydrate]
    exact ⟨rfl, rfl⟩

/-! ## Albums without their titles -/

/-- A row that does not tell a title. -/
def Untitled (row : Json) : Prop := row.get? "title" = none

/-- A listener that takes the titles out of the final rows. -/
def untitling : Subscription Memory where
  event := some .afterToArray
  listener := fun _ _ payload => pure (.arr (payload.toItems.map (·.erase "title")))

lemma untitled_erase (row : Json) : Untitled (row.erase "title") := by
  cases row with
  | obj fields =>
    refine List.lookup_eq_none_iff.mpr fun entry hentry => ?_
    have hkey : entry.1 ≠ "title" := of_decide_eq_true (List.mem_filter.mp hentry).2
    exact bne_iff_ne.mpr hkey.symm
  | _ => rfl

lemma albums_ensures (store : Persistence Memory) :
    (albums store [untitling]).Ensures Untitled := by
  have huntitled : ∀ event, untitling.listener.Ensures Untitled event := by
    rintro event entityType payload s v s' ⟨⟩ row hrow
    obtain ⟨shown, -, rfl⟩ := List.mem_map.mp hrow
    exact untitled_erase shown
  refine ⟨?_, .afterToArray, by decide, untitling, List.mem_singleton_self _, rfl, huntitled _⟩
  intro l hl event _ _ entityType payload s v s' h _
  obtain rfl := List.mem_singleton.mp hl
  exact huntitled event _ _ _ _ _ h

/-- The store in which an album was created. -/
def titledStored : Memory := (createTitled plainStore []).2.state

set_option maxRecDepth 4000 in
/-- The album is read without its title. -/
theorem titledStored_untitled : ∃ o phases s',
    ((albums plainStore [untitling]).read "album" .null default default).outcome titledStored =
      ((.ok o, phases), s') ∧
    o.items = [.obj [("id", Json.str (Memory.countedId 0))]] ∧ ∀ row ∈ o.items, Untitled row := by
  obtain ⟨o, phases, s', hread, hitems⟩ : ∃ o phases s',
      ((albums plainStore [untitling]).read "album" .null default default).outcome titledStored =
        ((.ok o, phases), s') ∧ o.items = [.obj [("id", Json.str (Memory.countedId 0))]] :=
    ⟨_, _, _, rfl, rfl⟩
  obtain ⟨-, hensured⟩ := (listeners_shape_reads (albums plainStore [untitling])).1 "album" .null
    default default titledStored o phases s' hread
  exact ⟨o, phases, s', hread, hitems, hensured Untitled (albums_ensures plainStore)⟩

set_option maxRecDepth 4000 in
/-- An album is created, and returned, with its title, though it is shown to the same listener. -/
theorem createTitled_tells_title :
    (albums plainStore [untitling]).Ensures Untitled ∧ ∃ r s',
      ((albums plainStore [untitling]).mutate "album" .create titled default default).outcome
        .empty = (.ok [r], s') ∧ r.toRow.get? "title" = some (.str "one") :=
  ⟨albums_ensures plainStore, _, _, rfl, rfl⟩

end Gate

end EntityGate
