/-
# Refusals

A refusal is a fault that a request meets because of what it asks for: an action, a field, a
chain or an assignment that is unknown or not allowed, params of the wrong form, a batch that is
too large, or a type of entity without configuration.  All other faults come from settings,
hooks, the validator or the store.

This file says which parts of a mutation never refuse anything.  Settings and hooks do not, nor
do lookups of entities.
-/
import EntityGate.Proofs.Decision
import EntityGate.Proofs.Triple

namespace EntityGate

open Decision

/-- Whether a fault refuses what a request asks for. -/
def Fault.isRefusal : Fault → Bool
  | actionNotAllowed .. | fieldNotAllowed .. | chainTypeNotAllowed .. | unknownChainType _
  | assignTypeNotAllowed .. | unknownAssignType _ | invalidParams _ | batchTooLarge ..
  | unknownEntityType _ => true
  | _ => false

/-! ## Decisions -/

namespace Decision

variable {α β : Type}

/-- A decision that refuses nothing, whatever else it may fail of. -/
def Grants (d : Except Fault α) : Prop := ∀ f, d = .error f → f.isRefusal = false

lemma Grants.ok (a : α) : Grants (.ok a) := by
  rintro f ⟨⟩

lemma Grants.error {f : Fault} (h : f.isRefusal = false) : Grants (.error f : Except Fault α) := by
  rintro f' ⟨⟩
  exact h

lemma Grants.bind {d : Except Fault α} {next : α → Except Fault β} (hd : Grants d)
    (hnext : ∀ a, Grants (next a)) : Grants (d >>= next) := by
  intro f hf
  rcases bind_eq_error.mp hf with h | ⟨a, -, h⟩
  · exact hd f h
  · exact hnext a f h

end Decision

namespace Setting

variable {registry : Registry} {ctx : Context}

mutual
/-- The evaluation of a setting refuses nothing. -/
theorem resolve_grants : (s : Setting) → Grants (s.resolve registry ctx)
  | .literal v => by
    rw [resolve]
    exact .ok v
  | .list items => by
    rw [resolve]
    exact (resolveItems_grants items).bind fun _ => .ok _
  | .map entries => by
    rw [resolve]
    exact (resolveEntries_grants entries).bind fun _ => .ok _
  | .call name args => by
    rw [resolve]
    split
    · exact .error rfl
    · refine (resolveItems_grants args).bind fun values => ?_
      split
      · exact .ok _
      · exact .error rfl

theorem resolveItems_grants : (items : List Setting) → Grants (resolveItems registry ctx items)
  | [] => .ok []
  | s :: rest => by
    rw [resolveItems]
    exact (resolve_grants s).bind fun _ => (resolveItems_grants rest).bind fun _ => .ok _

theorem resolveEntries_grants : (entries : List (String × Setting)) →
    Grants (resolveEntries registry ctx entries)
  | [] => .ok []
  | (_, s) :: rest => by
    rw [resolveEntries]
    exact (resolve_grants s).bind fun _ => (resolveEntries_grants rest).bind fun _ => .ok _
end

end Setting

namespace Resolve

variable {registry : Registry} {ctx : Context}

lemma value?_grants (s : Setting?) : Grants (value? registry ctx s) := by
  cases s with
  | none => exact .ok none
  | some s =>
    refine (Setting.resolve_grants s).bind fun v => ?_
    cases v <;> exact .ok _

lemma bool?_grants (name : String) (s : Setting?) : Grants (bool? registry ctx name s) := by
  refine (value?_grants s).bind fun v => ?_
  split
  · exact .ok _
  · exact .ok _
  · exact .error rfl

lemma first?_grants {α : Type} {read : Setting? → Except Fault (Option α)}
    (hread : ∀ s, Grants (read s)) (layers : List Setting?) : Grants (first? read layers) := by
  induction layers with
  | nil => exact .ok none
  | cons layer rest ih =>
    refine (hread layer).bind fun a => ?_
    cases a with
    | none => exact ih
    | some a => exact .ok _

lemma findBool?_grants (name : String) (layers : List Setting?) :
    Grants (findBool? registry ctx name layers) :=
  first?_grants (bool?_grants name) layers

end Resolve

/-! ## Hooks -/

namespace Hooks

variable {registry : Registry}

lemma mutated_grants (hooks : Hooks) (ctx : Context) (v : Json) :
    Grants (hooks.mutated registry ctx v) := by
  unfold mutated
  split
  · exact Setting.resolve_grants _
  · exact .ok v

lemma checkClosure_grants (hooks : Hooks) (ctx : Context) (field : String) :
    Grants (hooks.checkClosure registry ctx field) := by
  unfold checkClosure
  split
  · refine (Setting.resolve_grants _).bind fun v => ?_
    split
    · exact .error rfl
    · exact .ok ()
  · exact .ok ()

/-- The hooks of a field refuse nothing. -/
lemma onField_grants (hooks : Hooks) (ctx : Context) (field : String) (v : Json) :
    Grants (hooks.onField registry ctx field v) := by
  refine (mutated_grants hooks ctx v).bind fun v => ?_
  refine (checkClosure_grants hooks _ field).bind fun _ => ?_
  refine (Resolve.value?_grants _).bind fun expected => ?_
  have hset : Grants (Resolve.value? registry (ctx.withExtra "value" v) hooks.setTo >>=
      fun forced => .ok (forced.getD v)) :=
    (Resolve.value?_grants _).bind fun _ => .ok _
  cases expected with
  | none => exact hset
  | some w =>
    dsimp only
    split
    · exact .error rfl
    · exact hset

lemma checkEnforced_grants (fields expected : List (String × Json)) :
    Grants (checkEnforced fields expected) := by
  induction expected with
  | nil => exact .ok ()
  | cons entry rest ih =>
    rw [checkEnforced]
    split
    · exact ih
    · exact .error rfl

lemma entriesOf_grants (s : Setting?) (ctx : Context) : Grants (entriesOf registry s ctx) := by
  refine (Resolve.value?_grants s).bind fun v => ?_
  split <;> exact .ok _

end Hooks

namespace EntityRecord

variable {registry : Registry} {validator : Validator}

lemma mutated_grants (hooks : Hooks) (ctx : Context) (r : EntityRecord) :
    Grants (mutated registry hooks ctx r) := by
  unfold mutated
  split
  · exact .ok r
  · refine (Setting.resolve_grants _).bind fun v => ?_
    split <;> exact .ok _

lemma validated_grants (hooks : Hooks) (r : EntityRecord) :
    Grants (validated validator hooks r) := by
  unfold validated
  split
  · exact .ok ()
  · split
    · exact .ok ()
    · exact .error rfl

/-- The hooks of an action refuse nothing. -/
lemma prepared_grants (action : Action) (r : EntityRecord) :
    Grants (prepared registry validator action r) := by
  unfold prepared
  dsimp only
  split
  · refine (mutated_grants _ _ _).bind fun r => ?_
    refine (Hooks.checkClosure_grants _ _ _).bind fun _ => ?_
    refine (Hooks.entriesOf_grants _ _).bind fun expected => ?_
    refine (Hooks.checkEnforced_grants _ _).bind fun _ => ?_
    refine (Hooks.entriesOf_grants _ _).bind fun forced => ?_
    exact (validated_grants _ _).bind fun _ => .ok _
  · refine (Grants.ok r).bind fun r => ?_
    refine (Hooks.checkClosure_grants _ _ _).bind fun _ => ?_
    refine (Hooks.entriesOf_grants _ _).bind fun expected => ?_
    exact (Hooks.checkEnforced_grants _ _).bind fun _ => .ok r

end EntityRecord

end EntityGate
