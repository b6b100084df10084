/-
# What a batch mentions

An entry mentions entities in the chain requests of its relations, and their entries mention others
again.  The references of a batch are the ids of all entities that are mentioned at any depth and
not created, each under its type, and nothing else.  Types are listed once.
-/
import EntityGate.Mutation.Checks
import EntityGate.Mutation.References
import EntityGate.Proofs.Decision
import EntityGate.Proofs.Tables
import Mathlib.Logic.Relation

namespace EntityGate

open Relation (ReflTransGen TransGen)

/-! ## Mentions -/

/-- An entity that a request mentions, and what is to happen to it. -/
structure Mention where
  entityType : String
  chain : Chain
  entry : Entry

namespace Mention

/-- The value of a relation to some type holds a mention in one of its chain requests. -/
def Requested (target : String) (v : Json) (m : Mention) : Prop :=
  ∃ chains, Entry.expandScalar v = .obj chains ∧ ∃ request ∈ chains,
    Chain.ofName? request.1 = some m.chain ∧ ∃ entries,
      Entry.ofParams m.chain request.2 = .ok entries ∧ m.entry ∈ entries ∧ m.entityType = target

lemma Requested.sameType {target : String} {v : Json} {m : Mention} (h : Requested target v m) :
    m.entityType = target := by
  obtain ⟨_, -, _, -, -, _, -, -, htype⟩ := h
  exact htype

/-- A relation in the entry of one mention holds another one. -/
def Holds (schema : Schema) (outer inner : Mention) : Prop :=
  ∃ field ∈ outer.entry.fields, ∃ a, schema.association? outer.entityType field.1 = some a ∧
    Requested a.target field.2 inner

/-- A mention of an entity that is not created gives its id. -/
def Names (m : Mention) (entityType : String) (id : Json) : Prop :=
  m.entityType = entityType ∧ m.chain ≠ .create ∧ m.entry.id = some id

/-- A mention, or one that stands in it at any depth, gives an id. -/
def Reaches (schema : Schema) (m : Mention) (entityType : String) (id : Json) : Prop :=
  ∃ inner, ReflTransGen (Holds schema) m inner ∧ inner.Names entityType id

lemma reaches_iff {schema : Schema} {m : Mention} {entityType : String} {id : Json} :
    m.Reaches schema entityType id ↔ m.Names entityType id ∨
      ∃ inner, Holds schema m inner ∧ inner.Reaches schema entityType id := by
  constructor
  · rintro ⟨last, hlast, hnames⟩
    rcases ReflTransGen.cases_head hlast with rfl | ⟨inner, hinner, hrest⟩
    · exact .inl hnames
    · exact .inr ⟨inner, hinner, last, hrest, hnames⟩
  · rintro (hnames | ⟨inner, hinner, last, hrest, hnames⟩)
    · exact ⟨m, .refl, hnames⟩
    · exact ⟨last, .head hinner hrest, hnames⟩

end Mention

namespace Batch

/-- The mention of an entry of a batch. -/
def mention (b : Batch) (e : Entry) : Mention := ⟨b.entityType, b.chain, e⟩

/-- A batch gives an id, in one of its entries or at any depth below. -/
def Names (schema : Schema) (b : Batch) (entityType : String) (id : Json) : Prop :=
  ∃ e ∈ b.entries, (b.mention e).Reaches schema entityType id

/-- A mention stands in an entry of a batch, at any depth. -/
def Nests (schema : Schema) (b : Batch) (m : Mention) : Prop :=
  ∃ e ∈ b.entries, TransGen (Mention.Holds schema) (b.mention e) m

end Batch

/-! ## Gathering -/

namespace References

/-- The ids that are gathered of a type. -/
def ofType (refs : References) (entityType : String) : List Json :=
  (refs.get? entityType).getD []

/-- Types are listed once, so all ids of a type stand in one place. -/
lemma mem_ofType {refs : References} {entityType : String} {id : Json} :
    id ∈ refs.ofType entityType ↔ ∃ ids, (entityType, ids) ∈ refs.entries ∧ id ∈ ids := by
  constructor
  · intro h
    rw [ofType] at h
    cases hget : refs.get? entityType with
    | none =>
      rw [hget] at h
      cases h
    | some ids =>
      rw [hget] at h
      exact ⟨ids, Table.mem_of_get? hget, h⟩
  · rintro ⟨ids, hentry, hid⟩
    rw [ofType, Table.get?, Table.lookup_eq_some_of_mem refs.nodup hentry]
    exact hid

/-- What was gathered in addition are the ids of which `P` says so. -/
def Gathered (P : String → Json → Prop) (refs refs' : References) : Prop :=
  ∀ entityType id, id ∈ refs'.ofType entityType ↔ id ∈ refs.ofType entityType ∨ P entityType id

namespace Gathered

variable {P Q : String → Json → Prop} {refs refs' refs'' : References}

lemma congr (h : Gathered P refs refs') (hPQ : ∀ entityType id, P entityType id ↔ Q entityType id) :
    Gathered Q refs refs' :=
  fun entityType id => (h entityType id).trans (or_congr_right (hPQ entityType id))

lemma nothing (refs : References) : Gathered (fun _ _ => False) refs refs :=
  fun _ _ => by rw [or_false]

lemma trans (h : Gathered P refs refs') (h' : Gathered Q refs' refs'') :
    Gathered (fun entityType id => P entityType id ∨ Q entityType id) refs refs'' := by
  intro entityType id
  rw [h', h, or_assoc]

lemma add (refs : References) (entityType : String) (ids : List Json) :
    Gathered (fun entityType' id => entityType' = entityType ∧ id ∈ ids) refs
      (refs.add entityType ids) := by
  intro entityType' id
  rw [References.add, ofType, Table.get?_insert]
  by_cases htype : entityType' = entityType
  · subst htype
    simp [ofType]
  · simp [htype, ofType]

/-- What a loop gathers is what its passes do. -/
lemma foldlM {α : Type} {step : References → α → Option References}
    {P : α → String → Json → Prop} {l : List α}
    (hstep : ∀ a ∈ l, ∀ refs refs', step refs a = some refs' → Gathered (P a) refs refs')
    (h : l.foldlM step refs = some refs') :
    Gathered (fun entityType id => ∃ a ∈ l, P a entityType id) refs refs' := by
  induction l generalizing refs with
  | nil =>
    cases h
    exact (nothing _).congr fun _ _ => ⟨fun h => h.elim, fun ⟨_, ha, _⟩ => nomatch ha⟩
  | cons a rest ih =>
    rw [List.foldlM_cons] at h
    obtain ⟨between, hbetween, h⟩ := Option.bind_eq_some_iff.mp h
    have hfirst := hstep a List.mem_cons_self refs between hbetween
    have hrest := ih (fun a' ha' => hstep a' (List.mem_cons_of_mem _ ha')) h
    exact (hfirst.trans hrest).congr fun entityType id => by simp

end Gathered

variable {schema : Schema}

/-- What a chain request refers to is what its entries do; one that is amiss refers to nothing. -/
lemma request_gathers {next : Chain → List Entry → References → Option References}
    {P : Chain → Entry → String → Json → Prop}
    (hnext : ∀ chain entries refs refs', next chain entries refs = some refs' →
      Gathered (fun entityType id => ∃ e ∈ entries, P chain e entityType id) refs refs')
    (request : String × Json) {refs refs' : References}
    (h : (match Chain.ofName? request.1 with
      | none => some refs
      | some chain => match Entry.ofParams chain request.2 with
        | .ok entries => next chain entries refs
        | .error _ => some refs) = some refs') :
    Gathered (fun entityType id => ∃ chain, Chain.ofName? request.1 = some chain ∧ ∃ entries,
      Entry.ofParams chain request.2 = .ok entries ∧ ∃ e ∈ entries, P chain e entityType id) refs
      refs' := by
  cases hchain : Chain.ofName? request.1 with
  | none =>
    rw [hchain] at h
    cases h
    exact (Gathered.nothing refs).congr (by simp)
  | some chain =>
    rw [hchain] at h
    dsimp only at h
    cases hentries : Entry.ofParams chain request.2 with
    | error f =>
      rw [hentries] at h
      cases h
      exact (Gathered.nothing refs).congr (by simp [hentries])
    | ok entries =>
      rw [hentries] at h
      exact (hnext chain entries refs refs' h).congr (by simp [hentries])

/-- What the value of a relation refers to is what its chain requests do. -/
lemma addRelation_gathers {next : Chain → List Entry → References → Option References}
    {target : String} {v : Json} {P : Mention → String → Json → Prop}
    (hnext : ∀ chain entries refs refs', next chain entries refs = some refs' →
      Gathered (fun entityType id => ∃ e ∈ entries, P ⟨target, chain, e⟩ entityType id) refs refs')
    {refs refs' : References} (h : addRelation next v refs = some refs') :
    Gathered (fun entityType id => ∃ m, Mention.Requested target v m ∧ P m entityType id) refs
      refs' := by
  rw [addRelation] at h
  split at h
  · rename_i chains hchains
    refine (Gathered.foldlM (fun request _ refs refs' hrequest =>
      request_gathers hnext request hrequest) h).congr fun entityType id => ?_
    constructor
    · rintro ⟨request, hrequest, chain, hchain, entries, hentries, e, he, hP⟩
      exact ⟨⟨target, chain, e⟩,
        ⟨chains, hchains, request, hrequest, hchain, entries, hentries, he, rfl⟩, hP⟩
    · rintro ⟨⟨_, chain, e⟩, ⟨chains', hchains', request, hrequest, hchain, entries, hentries, he,
        rfl⟩, hP⟩
      cases hchains.symm.trans hchains'
      exact ⟨request, hrequest, chain, hchain, entries, hentries, e, he, hP⟩
  · rename_i hnot
    cases h
    refine (Gathered.nothing refs).congr fun entityType id => ⟨fun h => h.elim, ?_⟩
    rintro ⟨m, ⟨chains, hchains, -⟩, -⟩
    exact hnot chains hchains

/-- The ids that are gathered from some entries are those that they give at any depth. -/
theorem addEntries_gathers (levels : Nat) : ∀ entityType chain entries refs refs',
    addEntries schema levels entityType chain entries refs = some refs' →
    Gathered (fun entityType' id => ∃ e ∈ entries,
      Mention.Reaches schema ⟨entityType, chain, e⟩ entityType' id) refs refs' := by
  induction levels with
  | zero =>
    intro _ _ _ _ _ h
    cases h
  | succ levels ih =>
    intro entityType chain entries refs refs' h
    rw [addEntries] at h
    have hown : Gathered (fun entityType' id => ∃ e ∈ entries,
        Mention.Names ⟨entityType, chain, e⟩ entityType' id) refs
        (if chain = .create then refs
          else refs.add entityType (entries.filterMap Entry.id)) := by
      split
      · rename_i hcreate
        exact (Gathered.nothing refs).congr (by simp [Mention.Names, hcreate])
      · rename_i hcreate
        refine (Gathered.add refs entityType _).congr fun entityType' id => ?_
        rw [List.mem_filterMap]
        constructor
        · rintro ⟨rfl, e, he, hid⟩
          exact ⟨e, he, rfl, hcreate, hid⟩
        · rintro ⟨e, he, rfl, -, hid⟩
          exact ⟨rfl, e, he, hid⟩
    -- below the entries, one level less is left
    have hnested := Gathered.foldlM (fun e _ refs refs' he =>
      Gathered.foldlM (P := fun field entityType' id => ∃ a,
        schema.association? entityType field.1 = some a ∧ ∃ inner,
          Mention.Requested a.target field.2 inner ∧ inner.Reaches schema entityType' id)
        (fun field _ refs refs' hfield => ?_) he) h
    · refine (hown.trans hnested).congr fun entityType' id => ?_
      simp only [Mention.reaches_iff (m := ⟨entityType, chain, _⟩), and_or_left, exists_or]
      refine or_congr_right (exists_congr fun e => and_congr_right fun _ => ?_)
      constructor
      · rintro ⟨field, hfield, a, ha, inner, hinner, hreaches⟩
        exact ⟨inner, ⟨field, hfield, a, ha, hinner⟩, hreaches⟩
      · rintro ⟨inner, ⟨field, hfield, a, ha, hinner⟩, hreaches⟩
        exact ⟨field, hfield, a, ha, inner, hinner, hreaches⟩
    · dsimp only at hfield
      split at hfield
      · rename_i a ha
        refine (addRelation_gathers (P := fun m => m.Reaches schema)
          (fun chain entries refs refs' => ih a.target chain entries refs refs') hfield).congr
          fun entityType' id => ?_
        simp [ha]
      · rename_i hnone
        cases hfield
        exact (Gathered.nothing _).congr (by simp [hnone])

/-- The references of a batch are the ids that it gives at any depth. -/
theorem ofBatch?_gathers {bareLevels : Nat} {b : Batch} {refs : References}
    (h : ofBatch? schema bareLevels b = some refs) :
    ∀ entityType id, id ∈ refs.ofType entityType ↔ b.Names schema entityType id := by
  intro entityType id
  rw [addEntries_gathers _ b.entityType b.chain b.entries _ refs h]
  exact or_iff_right fun hmem => nomatch hmem

end References

/-! ## What binding comes to -/

namespace Entry

variable {e rest : Entry} {chain : Chain} {toMany : Bool} {assign : Option Assign}

/-- Whatever the assignment of an entry is, the directives are taken out of it. -/
lemma takeAssign_rest (h : e.takeAssign chain toMany = .ok (assign, rest)) : rest =
    ⟨e.id, directives.foldl (fun fields key => Json.eraseField key fields) e.fields⟩ := by
  rw [takeAssign] at h
  split at h
  · cases h
    rfl
  · cases h
    rfl
  · obtain ⟨named, -, h⟩ := Decision.bind_eq_ok.mp h
    cases h
    rfl
  · cases h

/-- Taking the directives out of an entry leaves its id and some of its fields. -/
lemma takeAssign_eq_ok (h : e.takeAssign chain toMany = .ok (assign, rest)) :
    rest.id = e.id ∧ rest.fields ⊆ e.fields := by
  have herase : ∀ key fields, Json.eraseField key fields ⊆ fields :=
    fun key fields => List.filter_sublist.subset
  obtain rfl := takeAssign_rest h
  exact ⟨rfl, fun field hfield => herase _ _ (herase _ _ hfield)⟩

/-- Taking the directives out of an entry leaves its members. -/
lemma members_of_takeAssign (h : e.takeAssign chain toMany = .ok (assign, rest)) :
    rest.members = e.members := by
  obtain rfl := takeAssign_rest h
  unfold members
  simp only [directives, List.foldl_cons, List.foldl_nil, Json.eraseField, List.filter_filter]
  refine List.filter_congr fun field _ => ?_
  simp only [List.mem_cons, List.not_mem_nil, or_false]
  grind

end Entry

lemma Chain.ofName?_of_ofName {name : String} {chain : Chain} (h : Chain.ofName name = .ok chain) :
    Chain.ofName? name = some chain := by
  rw [Chain.ofName] at h
  split at h
  · rename_i hname
    cases h
    exact hname
  · cases h

namespace Mention

/-- The entries of the chain requests of a relation are those that its value asks for. -/
lemma requested_of_chainRequests {relation target name : String} {v params : Json}
    {requests : List (String × Json)} {chain : Chain} {entries : List Entry} {e : Entry}
    (hrequests : chainRequests relation v = .ok requests) (hrequest : (name, params) ∈ requests)
    (hname : Chain.ofName name = .ok chain) (hentries : Entry.ofParams chain params = .ok entries)
    (he : e ∈ entries) : Requested target v ⟨target, chain, e⟩ := by
  rw [chainRequests] at hrequests
  split at hrequests
  · rename_i chains hchains
    cases hrequests
    exact ⟨requests, hchains, (name, params), hrequest, Chain.ofName?_of_ofName hname, entries,
      hentries, he, rfl⟩
  · cases hrequests

variable {schema : Schema} {K : String → String → Prop} {m inner : Mention}

/-- A mention, and whatever stands in it at any depth, deletes nothing and gives only ids with some
keys. -/
def Within (schema : Schema) (K : String → String → Prop) (m : Mention) : Prop :=
  ∀ inner, ReflTransGen (Holds schema) m inner →
    inner.chain ≠ .delete ∧ ∀ entityType id, inner.Names entityType id → K entityType (idKey id)

lemma Within.mono {K' : String → String → Prop} (h : m.Within schema K)
    (hK : ∀ entityType key, K entityType key → K' entityType key) : m.Within schema K' :=
  fun last hlast => ⟨(h last hlast).1, fun entityType id hnames =>
    hK entityType (idKey id) ((h last hlast).2 entityType id hnames)⟩

lemma Within.held (h : m.Within schema K) (hinner : Holds schema m inner) :
    inner.Within schema K :=
  fun last hlast => h last (.head hinner hlast)

/-- An entry with fewer fields holds no more. -/
lemma Within.of_fields {entityType : String} {chain : Chain} {e e' : Entry}
    (h : Within schema K ⟨entityType, chain, e⟩) (hid : e'.id = e.id)
    (hfields : e'.fields ⊆ e.fields) : Within schema K ⟨entityType, chain, e'⟩ := by
  intro last hlast
  rcases ReflTransGen.cases_head hlast with rfl | ⟨inner, ⟨field, hfield, a, ha, hrequested⟩, hrest⟩
  · obtain ⟨hchain, hnames⟩ := h _ .refl
    exact ⟨hchain, fun _ _ ⟨htype, hcreate, hgiven⟩ => hnames _ _ ⟨htype, hcreate, hid ▸ hgiven⟩⟩
  · exact h last (.head ⟨field, hfields hfield, a, ha, hrequested⟩ hrest)

/-- The ids that a batch gives have the keys that its entries do. -/
lemma Within.of_names {b : Batch} (h : ∀ e ∈ b.entries, (b.mention e).Within schema K)
    {entityType : String} {id : Json} (hnames : b.Names schema entityType id) :
    K entityType (idKey id) := by
  obtain ⟨e, he, last, hlast, hlastNames⟩ := hnames
  exact (h e he last hlast).2 entityType id hlastNames

end Mention

end EntityGate
