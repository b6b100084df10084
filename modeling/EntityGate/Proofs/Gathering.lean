/-
# Gathering references

The references of a batch are gathered level by level, one level for each chain request that is
nested in another.  A chain request that is written out takes up two levels of the nesting of its
entry, one for the object of its chains and one for its params, so such requests come to an end.  A
bare id takes up none.  The entry that it stands for has one field, `assignType`, and where that is
the name of a relation, gathering takes its value for a bare id again.  So gathering ends if such
relations do not lead on forever from the types that bare ids stand for, and only then.

The levels that a batch has leave room for the requests that are written out and for some number of
further bare ids.
-/
import EntityGate.Mutation.References
import EntityGate.Proofs.Decision
import EntityGate.Proofs.Depth
import EntityGate.Proofs.Mentions
import Mathlib.Order.Nat

namespace EntityGate

open Decision
open Relation (ReflTransGen)

/-! ## The depth of entries -/

namespace Entry

lemma depth_of_ofCreateItem {item : Json} {e : Entry} (h : ofCreateItem item = .ok e) :
    Json.depthFields e.fields ≤ item.depth := by
  cases item <;> cases h
  exact Nat.le_succ _

lemma depth_of_ofIdField {id : String} {v : Json} {e : Entry} (h : ofIdField id v = .ok e) :
    Json.depthFields e.fields ≤ v.depth := by
  cases v <;> cases h
  · exact Nat.zero_le _
  · exact Nat.le_succ _

lemma depth_of_ofIdItem {chain : Chain} {item : Json} {e : Entry}
    (h : ofIdItem chain item = .ok e) : Json.depthFields e.fields ≤ item.depth := by
  rw [ofIdItem.eq_def] at h
  split at h
  · split at h
    · cases h
      exact (Json.depthFields_eraseField_le _ _).trans (Nat.le_succ _)
    · cases h
  · cases h
    exact Nat.zero_le _
  · cases h
    exact Nat.zero_le _
  · cases h

/-- The entries that params hold are nested less deeply than the params. -/
lemma depth_of_ofParams {chain : Chain} {params : Json} {entries : List Entry}
    (h : ofParams chain params = .ok entries) {e : Entry} (he : e ∈ entries) :
    Json.depthFields e.fields < params.depth := by
  rw [ofParams.eq_def] at h
  split at h
  · cases h
    cases he
  · obtain ⟨item, hitem, hmade⟩ := mem_of_mapM_eq_ok h he
    exact Nat.lt_succ_of_le ((depth_of_ofCreateItem hmade).trans (Json.depth_le_depthItems hitem))
  · cases h
    rw [List.mem_singleton.mp he]
    exact Nat.lt_succ_self _
  · obtain ⟨⟨id, v⟩, hfield, hmade⟩ := mem_of_mapM_eq_ok h he
    exact Nat.lt_succ_of_le ((depth_of_ofIdField hmade).trans (Json.depth_le_depthFields hfield))
  · obtain ⟨item, hitem, hmade⟩ := mem_of_mapM_eq_ok h he
    exact Nat.lt_succ_of_le ((depth_of_ofIdItem hmade).trans (Json.depth_le_depthItems hitem))
  · cases h

end Entry

/-! ## Loops -/

/-- What holds of each member of a list from some number on holds of all of them from some number
on. -/
lemma exists_forall_mem {α : Type} {P : Nat → α → Prop}
    (hmono : ∀ n more a, P n a → n ≤ more → P more a) {l : List α} (h : ∀ a ∈ l, ∃ n, P n a) :
    ∃ n, ∀ a ∈ l, P n a := by
  induction l with
  | nil => exact ⟨0, fun _ ha => nomatch ha⟩
  | cons a l ih =>
    obtain ⟨⟨n, ha⟩, hrest⟩ := List.forall_mem_cons.mp h
    obtain ⟨more, hl⟩ := ih hrest
    exact ⟨max n more, List.forall_mem_cons.mpr ⟨hmono n _ a ha (Nat.le_max_left n more),
      fun a' ha' => hmono more _ a' (hl a' ha') (Nat.le_max_right n more)⟩⟩

section

variable {α β : Type} {step step' : β → α → Option β} {l : List α}

lemma isSome_foldlM (h : ∀ b, ∀ a ∈ l, (step b a).isSome) (b : β) : (l.foldlM step b).isSome := by
  induction l generalizing b with
  | nil => rfl
  | cons a l ih =>
    obtain ⟨b', hb'⟩ := Option.isSome_iff_exists.mp (h b a List.mem_cons_self)
    rw [List.foldlM_cons, hb']
    exact ih (fun b a ha => h b a (List.mem_cons_of_mem _ ha)) b'

/-- A loop that comes to its end has passed each member. -/
lemma exists_isSome_of_foldlM {b : β} (h : (l.foldlM step b).isSome) {a : α} (ha : a ∈ l) :
    ∃ b', (step b' a).isSome := by
  induction l generalizing b with
  | nil => cases ha
  | cons first l ih =>
    rw [List.foldlM_cons] at h
    obtain ⟨last, hlast⟩ := Option.isSome_iff_exists.mp h
    obtain ⟨b', hfirst, hrest⟩ := Option.bind_eq_some_iff.mp hlast
    rcases List.mem_cons.mp ha with rfl | ha
    · exact ⟨b, Option.isSome_iff_exists.mpr ⟨b', hfirst⟩⟩
    · exact ih (Option.isSome_iff_exists.mpr ⟨last, hrest⟩) ha

/-- A loop whose passes come to the same as those of another one that came to its end. -/
lemma foldlM_eq_some_of_steps (h : ∀ b, ∀ a ∈ l, ∀ b', step b a = some b' → step' b a = some b')
    {b b' : β} (hl : l.foldlM step b = some b') : l.foldlM step' b = some b' := by
  induction l generalizing b with
  | nil => exact hl
  | cons a l ih =>
    rw [List.foldlM_cons] at hl ⊢
    obtain ⟨between, ha, hrest⟩ := Option.bind_eq_some_iff.mp hl
    rw [h b a List.mem_cons_self between ha]
    exact ih (fun b a ha => h b a (List.mem_cons_of_mem _ ha)) hrest

end

lemma le_foldl_max (l : List Nat) (m : Nat) :
    m ≤ l.foldl max m ∧ ∀ n ∈ l, n ≤ l.foldl max m := by
  induction l generalizing m with
  | nil => exact ⟨Nat.le_refl m, fun _ h => nomatch h⟩
  | cons k l ih =>
    obtain ⟨hmax, hrest⟩ := ih (max m k)
    rw [List.foldl_cons]
    exact ⟨(Nat.le_max_left m k).trans hmax,
      List.forall_mem_cons.mpr ⟨(Nat.le_max_right m k).trans hmax, hrest⟩⟩

/-! ## Bare ids -/

/-- A value that stands on a relation as the id of an entity. -/
def Json.isBareId : Json → Bool
  | .str _ | .num _ => true
  | _ => false

namespace Entry

variable {v : Json}

lemma expandScalar_of_bare (h : v.isBareId = true) : expandScalar v =
    .obj [("read", .obj [(idKey v, .obj [("assignType", .str "set")])])] := by
  cases v <;> cases h
  · rfl
  · rfl

lemma expandScalar_of_not_bare (h : v.isBareId = false) : expandScalar v = v := by
  cases v <;> cases h
  all_goals rfl

end Entry

/-- Relations of the name `assignType` lead on from a type so many times at most. -/
def Schema.SettlesWithin (schema : Schema) : Nat → String → Prop
  | 0, entityType => schema.association? entityType "assignType" = none
  | n + 1, entityType => ∀ a, schema.association? entityType "assignType" = some a →
      schema.SettlesWithin n a.target

/-- Relations of the name `assignType` do not lead on from a type forever. -/
def Schema.Settles (schema : Schema) (entityType : String) : Prop :=
  ∃ n, schema.SettlesWithin n entityType

lemma Schema.SettlesWithin.mono {schema : Schema} {n : Nat} : ∀ {more : Nat} {entityType : String},
    schema.SettlesWithin n entityType → n ≤ more → schema.SettlesWithin more entityType := by
  induction n with
  | zero =>
    intro more entityType h _
    cases more with
    | zero => exact h
    | succ more =>
      intro a ha
      rw [h] at ha
      cases ha
  | succ n ih =>
    intro more entityType h hle
    obtain ⟨more, rfl⟩ := Nat.exists_eq_add_of_le' (Nat.one_le_of_lt hle)
    exact fun a ha => ih (h a ha) (Nat.le_of_succ_le_succ hle)

namespace Mention

variable {schema : Schema} {m inner : Mention} {target : String} {v : Json} {n : Nat}

/-- The mention that a bare id on a relation stands for. -/
def ofBare (target : String) (v : Json) : Mention :=
  ⟨target, .read, ⟨some (.str (idKey v)), [("assignType", .str "set")]⟩⟩

/-- An entry has a bare id on a relation to some type. -/
def Bare (schema : Schema) (m : Mention) (target : String) : Prop :=
  ∃ field ∈ m.entry.fields, ∃ a, schema.association? m.entityType field.1 = some a ∧
    a.target = target ∧ field.2.isBareId = true

/-- A bare id asks for one entity. -/
lemma requested_bare (h : v.isBareId = true) : Requested target v m ↔ m = ofBare target v := by
  rw [Requested, Entry.expandScalar_of_bare h]
  constructor
  · obtain ⟨entityType, chain, e⟩ := m
    rintro ⟨chains, hchains, request, hrequest, hchain, entries, hentries, he, htype⟩
    cases hchains
    obtain rfl := List.mem_singleton.mp hrequest
    cases hchain
    cases hentries
    obtain rfl := List.mem_singleton.mp he
    cases htype
    rfl
  · rintro rfl
    exact ⟨_, rfl, _, List.mem_singleton.mpr rfl, rfl, _, rfl, List.mem_singleton.mpr rfl, rfl⟩

/-- The entry of a bare id holds another one if its assignment is the name of a relation. -/
lemma holds_ofBare : Holds schema (ofBare target v) m ↔
    ∃ a, schema.association? target "assignType" = some a ∧ m = ofBare a.target (.str "set") := by
  constructor
  · rintro ⟨field, hfield, a, ha, hrequested⟩
    obtain rfl := List.mem_singleton.mp hfield
    exact ⟨a, ha, (requested_bare rfl).mp hrequested⟩
  · rintro ⟨a, ha, rfl⟩
    exact ⟨_, List.mem_singleton.mpr rfl, a, ha, (requested_bare rfl).mpr rfl⟩

/-- What the value of a relation asks for stands for a bare id, or it is written out two levels
of nesting below. -/
lemma Requested.cases (h : Requested target v m) : v.isBareId = true ∧ m = ofBare target v ∨
    Json.depthFields m.entry.fields + 2 ≤ v.depth := by
  cases hbare : v.isBareId with
  | true => exact .inl ⟨rfl, (requested_bare hbare).mp h⟩
  | false =>
    obtain ⟨chains, hchains, request, hrequest, -, entries, hentries, he, -⟩ := h
    rw [Entry.expandScalar_of_not_bare hbare] at hchains
    subst hchains
    have hparams := Entry.depth_of_ofParams hentries he
    have hchain : request.2.depth ≤ Json.depthFields chains := Json.depth_le_depthFields hrequest
    refine .inr ?_
    rw [Json.depth]
    omega

/-- So it is with what stands in an entry. -/
lemma Holds.cases (h : Holds schema m inner) :
    (∃ target v, m.Bare schema target ∧ inner = ofBare target v) ∨
      Json.depthFields inner.entry.fields + 2 ≤ Json.depthFields m.entry.fields := by
  obtain ⟨field, hfield, a, ha, hrequested⟩ := h
  rcases hrequested.cases with ⟨hbare, rfl⟩ | hdepth
  · exact .inl ⟨a.target, field.2, ⟨field, hfield, a, ha, rfl, hbare⟩, rfl⟩
  · exact .inr (hdepth.trans (Json.depth_le_depthFields hfield))

lemma Bare.holds (h : m.Bare schema target) : ∃ v, Holds schema m (ofBare target v) := by
  obtain ⟨field, hfield, a, ha, rfl, hbare⟩ := h
  exact ⟨field.2, field, hfield, a, ha, (requested_bare hbare).mpr rfl⟩

/-! ## Mentions that end -/

/-- Mentions stand in one another so many times at most. -/
def EndsWithin (schema : Schema) : Nat → Mention → Prop
  | 0, _ => False
  | n + 1, m => ∀ inner, Holds schema m inner → EndsWithin schema n inner

namespace EndsWithin

lemma mono : ∀ {n more : Nat} {m : Mention}, m.EndsWithin schema n → n ≤ more →
    m.EndsWithin schema more
  | 0, _, _, h, _ => h.elim
  | _ + 1, 0, _, _, hle => absurd hle (Nat.not_succ_le_zero _)
  | _ + 1, _ + 1, _, h, hle => fun inner hinner =>
    mono (h inner hinner) (Nat.le_of_succ_le_succ hle)

/-- What stands in a mention that ends, ends as well. -/
lemma held (h : m.EndsWithin schema n) (hinner : ReflTransGen (Holds schema) m inner) :
    inner.EndsWithin schema n := by
  induction hinner with
  | refl => exact h
  | tail _ hlast ih =>
    cases n with
    | zero => exact ih.elim
    | succ n => exact (ih _ hlast).mono (Nat.le_succ n)

end EndsWithin

/-- A bare id ends with the relations that lead on from its type. -/
lemma endsWithin_ofBare : ∀ {n : Nat} {target : String} {v : Json},
    (ofBare target v).EndsWithin schema (n + 1) ↔ schema.SettlesWithin n target
  | 0, target, v => by
    refine ⟨fun h => ?_, fun h inner hinner => ?_⟩
    · refine Option.eq_none_iff_forall_ne_some.mpr fun a ha => ?_
      exact h _ (holds_ofBare.mpr ⟨a, ha, rfl⟩)
    · obtain ⟨a, ha, -⟩ := holds_ofBare.mp hinner
      rw [Schema.SettlesWithin] at h
      rw [h] at ha
      cases ha
  | n + 1, target, v => by
    refine ⟨fun h a ha => ?_, fun h inner hinner => ?_⟩
    · exact endsWithin_ofBare.mp (h _ (holds_ofBare.mpr ⟨a, ha, rfl⟩))
    · obtain ⟨a, ha, rfl⟩ := holds_ofBare.mp hinner
      exact endsWithin_ofBare.mpr (h a ha)

/-- A mention ends if the bare ids in it do, at all depths; the others end with the nesting of its
fields. -/
lemma endsWithin_of_settles (hsettles : ∀ inner, ReflTransGen (Holds schema) m inner →
    ∀ target, inner.Bare schema target → schema.SettlesWithin n target) :
    m.EndsWithin schema (Json.depthFields m.entry.fields + n + 2) := by
  induction hdepth : Json.depthFields m.entry.fields using Nat.strong_induction_on
    generalizing m with
  | _ depth ih =>
    intro inner hinner
    rcases hinner.cases with ⟨target, v, hbare, rfl⟩ | hnested
    · exact (endsWithin_ofBare.mpr (hsettles m .refl target hbare)).mono (by omega)
    · refine (ih _ (by omega) (fun last hlast => hsettles last (.head hinner hlast)) rfl).mono ?_
      omega

/-- In a mention that ends, all bare ids do. -/
lemma EndsWithin.settles (h : m.EndsWithin schema n)
    (hinner : ReflTransGen (Holds schema) m inner) (hbare : inner.Bare schema target) :
    schema.SettlesWithin n target := by
  obtain ⟨v, hv⟩ := hbare.holds
  have hlast := h.held (hinner.tail hv)
  cases n with
  | zero => exact hlast.elim
  | succ n => exact (endsWithin_ofBare.mp hlast).mono (Nat.le_succ n)

end Mention

/-! ## Mentions as lists -/

namespace Mention

/-- The mentions in a chain request of a relation to some type. -/
def inRequest (target : String) (request : String × Json) : List Mention :=
  match Chain.ofName? request.1 with
  | none => []
  | some chain =>
    match Entry.ofParams chain request.2 with
    | .ok entries => entries.map (⟨target, chain, ·⟩)
    | .error _ => []

/-- The mentions in the value of a relation to some type. -/
def inValue (target : String) (v : Json) : List Mention :=
  match Entry.expandScalar v with
  | .obj chains => chains.flatMap (inRequest target)
  | _ => []

/-- The mentions that stand in another one. -/
def held (schema : Schema) (m : Mention) : List Mention :=
  m.entry.fields.flatMap fun (field, v) =>
    match schema.association? m.entityType field with
    | some a => inValue a.target v
    | none => []

variable {schema : Schema} {m inner : Mention} {target : String} {v : Json} {n : Nat}

lemma mem_inRequest {request : String × Json} : m ∈ inRequest target request ↔
    Chain.ofName? request.1 = some m.chain ∧ ∃ entries,
      Entry.ofParams m.chain request.2 = .ok entries ∧ m.entry ∈ entries ∧
        m.entityType = target := by
  rw [inRequest]
  constructor
  · intro hm
    split at hm
    · cases hm
    · rename_i chain hchain
      split at hm
      · rename_i entries hentries
        obtain ⟨e, he, rfl⟩ := List.mem_map.mp hm
        exact ⟨hchain, entries, hentries, he, rfl⟩
      · cases hm
  · obtain ⟨entityType, chain, e⟩ := m
    rintro ⟨hchain, entries, hentries, he, rfl⟩
    dsimp only at hchain hentries
    rw [hchain]
    dsimp only
    rw [hentries]
    exact List.mem_map.mpr ⟨e, he, rfl⟩

lemma mem_inValue : m ∈ inValue target v ↔ Requested target v m := by
  rw [inValue]
  constructor
  · intro hm
    split at hm
    · rename_i chains hchains
      obtain ⟨request, hrequest, hm⟩ := List.mem_flatMap.mp hm
      exact ⟨chains, hchains, request, hrequest, mem_inRequest.mp hm⟩
    · cases hm
  · rintro ⟨chains, hchains, request, hrequest, hm⟩
    rw [hchains]
    exact List.mem_flatMap.mpr ⟨request, hrequest, mem_inRequest.mpr hm⟩

lemma mem_held : inner ∈ held schema m ↔ Holds schema m inner := by
  rw [held, List.mem_flatMap]
  refine exists_congr fun field => and_congr_right fun _ => ?_
  dsimp only
  cases schema.association? m.entityType field.1 with
  | none => simp
  | some a => simp [mem_inValue]

/-- A mention ends if no bare id in it, at any depth, leads on forever. -/
lemma exists_endsWithin (hsettles : ∀ inner, ReflTransGen (Holds schema) m inner →
    ∀ target, inner.Bare schema target → schema.Settles target) : ∃ n, m.EndsWithin schema n := by
  induction hdepth : Json.depthFields m.entry.fields using Nat.strong_induction_on
    generalizing m with
  | _ depth ih =>
    have hheld : ∀ inner ∈ m.held schema, ∃ n, inner.EndsWithin schema n := by
      intro inner hinner
      replace hinner := mem_held.mp hinner
      rcases hinner.cases with ⟨target, v, hbare, rfl⟩ | hnested
      · obtain ⟨n, hn⟩ := hsettles m .refl target hbare
        exact ⟨n + 1, endsWithin_ofBare.mpr hn⟩
      · exact ih _ (by omega) (fun last hlast => hsettles last (.head hinner hlast)) rfl
    obtain ⟨n, hn⟩ := exists_forall_mem (fun _ _ _ h hle => h.mono hle) hheld
    exact ⟨n + 1, fun inner hinner => hn inner (mem_held.mpr hinner)⟩

end Mention

/-! ## Levels -/

namespace References

variable {schema : Schema}

/-- What the value of a relation refers to is gathered if what its chain requests do is. -/
lemma isSome_addRelation {next : Chain → List Entry → References → Option References}
    (target : String) {v : Json} (hnext : ∀ chain entries refs,
      (∀ e ∈ entries, Mention.Requested target v ⟨target, chain, e⟩) →
      (next chain entries refs).isSome) (refs : References) : (addRelation next v refs).isSome := by
  rw [addRelation]
  split
  · rename_i chains hchains
    refine isSome_foldlM (fun refs request hrequest => ?_) refs
    dsimp only
    split
    · rfl
    · rename_i chain hchain
      split
      · rename_i entries hentries
        exact hnext chain entries refs fun e he =>
          ⟨chains, hchains, request, hrequest, hchain, entries, hentries, he, rfl⟩
      · rfl
  · rfl

/-- Entries whose mentions end are gathered. -/
lemma isSome_addEntries (levels : Nat) : ∀ more entityType chain entries refs, levels < more →
    (∀ e ∈ entries, Mention.EndsWithin schema levels ⟨entityType, chain, e⟩) →
    (addEntries schema more entityType chain entries refs).isSome := by
  induction levels with
  | zero =>
    intro more entityType chain entries refs hlt hends
    obtain ⟨more, rfl⟩ := Nat.exists_eq_add_of_le' hlt
    unfold addEntries
    exact isSome_foldlM (fun _ e he => (hends e he).elim) _
  | succ levels ih =>
    intro more entityType chain entries refs hlt hends
    obtain ⟨more, rfl⟩ := Nat.exists_eq_add_of_le' (Nat.one_le_of_lt hlt)
    unfold addEntries
    refine isSome_foldlM (fun refs e he => ?_) _
    refine isSome_foldlM (fun refs field hfield => ?_) _
    dsimp only
    split
    · rename_i a ha
      refine isSome_addRelation a.target (fun chain entries refs hrequested => ?_) refs
      exact ih more a.target chain entries refs (Nat.lt_of_succ_lt_succ hlt) fun e' he' =>
        hends e he _ ⟨field, hfield, a, ha, hrequested e' he'⟩
    · rfl

/-- The mentions of entries that are gathered end. -/
lemma endsWithin_of_isSome (levels : Nat) : ∀ entityType chain entries refs,
    (addEntries schema levels entityType chain entries refs).isSome →
    ∀ e ∈ entries, Mention.EndsWithin schema levels ⟨entityType, chain, e⟩ := by
  induction levels with
  | zero =>
    intro _ _ _ _ h
    cases h
  | succ levels ih =>
    rintro entityType chain entries refs h e he ⟨_, innerChain, e'⟩
      ⟨field, hfield, a, ha, chains, hchains, request, hrequest, hchain, nested, hnested, he', rfl⟩
    -- each loop comes to its end, so the one inside comes to its end as well
    unfold addEntries at h
    obtain ⟨refs, h⟩ := exists_isSome_of_foldlM h he
    obtain ⟨refs, h⟩ := exists_isSome_of_foldlM h hfield
    dsimp only at h hchain hnested
    rw [ha] at h
    dsimp only at h
    rw [addRelation, hchains] at h
    obtain ⟨refs, h⟩ := exists_isSome_of_foldlM h hrequest
    dsimp only at h
    rw [hchain] at h
    dsimp only at h
    rw [hnested] at h
    exact ih a.target innerChain nested refs h e' he'

/-- References that were gathered are gathered with more levels as well. -/
lemma addEntries_of_le {levels : Nat} : ∀ {more entityType chain entries refs refs'},
    addEntries schema levels entityType chain entries refs = some refs' → levels ≤ more →
    addEntries schema more entityType chain entries refs = some refs' := by
  induction levels with
  | zero =>
    intro _ _ _ _ _ _ h
    cases h
  | succ levels ih =>
    intro more entityType chain entries refs refs' h hle
    obtain ⟨more, rfl⟩ := Nat.exists_eq_add_of_le' (Nat.one_le_of_lt hle)
    rw [addEntries] at h ⊢
    refine foldlM_eq_some_of_steps (fun refs e _ refs' he => ?_) h
    refine foldlM_eq_some_of_steps (fun refs field _ refs' hfield => ?_) he
    dsimp only at hfield ⊢
    split at hfield
    · rename_i a ha
      rw [addRelation] at hfield ⊢
      split at hfield
      · refine foldlM_eq_some_of_steps (fun refs request _ refs' hrequest => ?_) hfield
        dsimp only at hrequest ⊢
        split at hrequest
        · exact hrequest
        · split at hrequest
          · exact ih hrequest (Nat.le_of_succ_le_succ hle)
          · exact hrequest
      · exact hfield
    · exact hfield

end References

namespace Batch

variable {schema : Schema} {b : Batch}

/-- A batch has a bare id, at some depth, on a relation to some type. -/
def Bare (schema : Schema) (b : Batch) (target : String) : Prop :=
  ∃ e ∈ b.entries, ∃ m, ReflTransGen (Mention.Holds schema) (b.mention e) m ∧
    m.Bare schema target

/-- What a batch refers to can be gathered, if there are levels enough, exactly if the types of all
its bare ids settle. -/
theorem gathered_iff (schema : Schema) (b : Batch) (refs : References) :
    (∃ levels refs', ∀ more ≥ levels,
      References.addEntries schema more b.entityType b.chain b.entries refs = some refs') ↔
      ∀ target, b.Bare schema target → schema.Settles target := by
  constructor
  · rintro ⟨levels, refs', h⟩ target ⟨e, he, m, hm, hbare⟩
    have hends := References.endsWithin_of_isSome levels b.entityType b.chain b.entries refs
      (Option.isSome_iff_exists.mpr ⟨refs', h levels (Nat.le_refl _)⟩) e he
    exact ⟨levels, hends.settles hm hbare⟩
  · intro hsettles
    obtain ⟨levels, hends⟩ := exists_forall_mem
      (P := fun n e => Mention.EndsWithin schema n (b.mention e)) (l := b.entries)
      (fun _ _ _ h hle => h.mono hle) fun e he => Mention.exists_endsWithin fun m hm target hbare =>
        hsettles target ⟨e, he, m, hm, hbare⟩
    obtain ⟨refs', h⟩ := Option.isSome_iff_exists.mp
      (References.isSome_addEntries levels _ b.entityType b.chain b.entries refs
        (Nat.lt_succ_self levels) hends)
    exact ⟨levels + 1, refs', fun more hmore => References.addEntries_of_le h hmore⟩

lemma depthFields_le {e : Entry} (he : e ∈ b.entries) : Json.depthFields e.fields ≤
    (b.entries.map fun e => Json.depthFields e.fields).foldl max 0 :=
  (le_foldl_max _ 0).2 _ (List.mem_map_of_mem he)

end Batch

namespace References

variable {schema : Schema}

/-- The references of a batch are gathered if the levels for bare ids suffice. -/
theorem isSome_ofBatch?_of_settles {bareLevels : Nat} {b : Batch}
    (hsettles : ∀ target, b.Bare schema target → schema.SettlesWithin bareLevels target) :
    (ofBatch? schema bareLevels b).isSome := by
  have hlt : (b.entries.map fun e => Json.depthFields e.fields).foldl max 0 + bareLevels + 2 <
      b.levels + bareLevels := by
    unfold Batch.levels
    omega
  refine isSome_addEntries _ _ b.entityType b.chain b.entries .empty hlt fun e he => ?_
  refine (Mention.endsWithin_of_settles (m := b.mention e) fun m hm target hbare =>
    hsettles target ⟨e, he, m, hm, hbare⟩).mono ?_
  have hdepth := Batch.depthFields_le he
  exact Nat.add_le_add_right (Nat.add_le_add_right hdepth _) _

/-- The references of every batch are gathered if no type has such a relation. -/
theorem isSome_ofBatch? (hassign : ∀ entityType, schema.association? entityType "assignType" =
    none) (bareLevels : Nat) (b : Batch) : (ofBatch? schema bareLevels b).isSome :=
  isSome_ofBatch?_of_settles fun target _ =>
    Schema.SettlesWithin.mono (n := 0) (hassign target) (Nat.zero_le _)

end References

end EntityGate
