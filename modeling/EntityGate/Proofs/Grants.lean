/-
# When a permission check allows

The rules by which two permission layers allow a target, stated for themselves: an entry of the
field decides; without one a permissive field allows what the aggregate does not deny; else the
aggregate has to have an entry or to be permissive.  A setting counts for what it resolves to, and
one that does not have to be looked at may even fail to resolve.  The checks allow exactly what
the rules grant.
-/
import EntityGate.Permission.Check
import EntityGate.Proofs.Decision

namespace EntityGate

open Decision

namespace Permission

open Resolve

variable {registry : Registry} {aggregate : Layer} {field : Option Layer} {ctx : Context}

/-! ## Hooks -/

/-- The hook that replaces a value. -/
def mutateOf (aggregate : Layer) (field : Option Layer) : Setting? :=
  (field.bind fun f => f.hooks.mutate) <|> aggregate.hooks.mutate

/-- The hook that may refuse a value. -/
def closureOf (aggregate : Layer) (field : Option Layer) : Setting? :=
  (field.bind fun f => f.hooks.closure) <|> aggregate.hooks.closure

/-- What a hook makes of a value: the value itself if there is no hook. -/
def Replaces (registry : Registry) (ctx : Context) (hook : Setting?) (value after : Json) : Prop :=
  match hook with
  | none => after = value
  | some s => s.resolve registry (ctx.withExtra "value" value) = .ok after

/-- Whether a hook answers, and with something other than `false`. -/
def Agrees (registry : Registry) (ctx : Context) (hook : Setting?) (value : Json) : Prop :=
  match hook with
  | none => True
  | some s => ∃ answer, s.resolve registry (ctx.withExtra "value" value) = .ok answer ∧
      (answer == .bool false) = false

/-- A value that passes the hooks of its layers, and what has become of it then. -/
structure Passes (registry : Registry) (aggregate : Layer) (field : Option Layer) (value : Json)
    (ctx : Context) (after : Json) : Prop where
  replaced : Replaces registry ctx (mutateOf aggregate field) value after
  agreed : Agrees registry ctx (closureOf aggregate field) after

lemma applyHooks_eq_ok {value after : Json} :
    applyHooks registry aggregate field value ctx = .ok ⟨after, false⟩ ↔
      Passes registry aggregate field value ctx after := by
  have hsplit : Passes registry aggregate field value ctx after ↔
      Replaces registry ctx (mutateOf aggregate field) value after ∧
        Agrees registry ctx (closureOf aggregate field) after :=
    ⟨fun h => ⟨h.replaced, h.agreed⟩, fun h => ⟨h.1, h.2⟩⟩
  have hmutate : ((field.bind fun f => f.hooks.mutate) <|> aggregate.hooks.mutate) =
      mutateOf aggregate field := rfl
  have hclosure : ((field.bind fun f => f.hooks.closure) <|> aggregate.hooks.closure) =
      closureOf aggregate field := rfl
  rw [hsplit, applyHooks, hmutate, hclosure]
  cases mutateOf aggregate field with
  | none =>
    cases closureOf aggregate field with
    | none => simp [Replaces, Agrees, eq_comm]
    | some s =>
      simp only [Replaces, Agrees, pure_eq_ok, ok_bind, bind_eq_ok, Except.ok.injEq,
        Hooked.mk.injEq]
      constructor
      · rintro ⟨answer, hanswer, rfl, hveto⟩
        exact ⟨rfl, answer, hanswer, hveto⟩
      · rintro ⟨rfl, answer, hanswer, hveto⟩
        exact ⟨answer, hanswer, rfl, hveto⟩
  | some m =>
    cases closureOf aggregate field with
    | none => simp [Replaces, Agrees, bind_eq_ok]
    | some s =>
      simp only [Replaces, Agrees, pure_eq_ok, ok_bind, bind_eq_ok, Except.ok.injEq,
        Hooked.mk.injEq]
      constructor
      · rintro ⟨_, hvalue, answer, hanswer, rfl, hveto⟩
        exact ⟨hvalue, answer, hanswer, hveto⟩
      · rintro ⟨hvalue, answer, hanswer, hveto⟩
        exact ⟨after, hvalue, answer, hanswer, rfl, hveto⟩

/-! ## Targets of a bucket -/

/-- The answer of the field layer for a target. -/
def explicitAnswer (registry : Registry) (field : Option Layer) (bucket : Bucket) (target : String)
    (ctx : Context) : Except Fault (Option Bool) :=
  bool? registry (ctx.withExtra "target" (.str target)) (bucket.name ++ "." ++ target)
    (field.bind fun f => (f.bucket bucket).get? target)

/-- Whether the field layer is permissive. -/
def fieldPermissive (registry : Registry) (field : Option Layer) (target : String) (ctx : Context) :
    Except Fault (Option Bool) :=
  bool? registry (ctx.withExtra "target" (.str target)) "permissive"
    (field.bind fun f => f.permissive)

/-- The answer of the aggregate for a target. -/
def aggregateAnswer (registry : Registry) (aggregate : Layer) (bucket : Bucket) (target : String)
    (ctx : Context) : Except Fault (Option Bool) :=
  bool? registry (ctx.withExtra "target" (.str target)) (bucket.name ++ "." ++ target)
    ((aggregate.bucket bucket).get? target)

/-- The rules by which two layers allow a target of a bucket. -/
inductive Grants (registry : Registry) (aggregate : Layer) (field : Option Layer) (bucket : Bucket)
    (target : String) (ctx : Context) : Prop where
  /-- The field allows it. -/
  | explicit (h : explicitAnswer registry field bucket target ctx = .ok (some true))
  /-- The field leaves it open but is permissive, and the aggregate does not deny it. -/
  | permissiveField (entry : Option Bool)
      (hopen : explicitAnswer registry field bucket target ctx = .ok none)
      (hpermissive : fieldPermissive registry field target ctx = .ok (some true))
      (hentry : aggregateAnswer registry aggregate bucket target ctx = .ok entry)
      (hdenied : entry ≠ some false)
  /-- The field leaves it open and is not permissive, but the aggregate allows it. -/
  | aggregateEntry (permissive : Option Bool)
      (hopen : explicitAnswer registry field bucket target ctx = .ok none)
      (hpermissive : fieldPermissive registry field target ctx = .ok permissive)
      (hnot : permissive ≠ some true)
      (hentry : aggregateAnswer registry aggregate bucket target ctx = .ok (some true))
  /-- Neither the field nor an entry of the aggregate allows it, but the aggregate is
  permissive. -/
  | permissiveAggregate (permissive entry : Option Bool)
      (hopen : explicitAnswer registry field bucket target ctx = .ok none)
      (hpermissive : fieldPermissive registry field target ctx = .ok permissive)
      (hnot : permissive ≠ some true)
      (hentry : aggregateAnswer registry aggregate bucket target ctx = .ok entry)
      (hno : entry ≠ some true)
      (haggregate : bool? registry (ctx.withExtra "target" (.str target)) "permissive"
        aggregate.permissive = .ok (some true))

lemma grants_of_bucketCheck {bucket : Bucket} {target : String}
    (h : bucketCheck registry aggregate field bucket target ctx = .ok true) :
    Grants registry aggregate field bucket target ctx := by
  rw [bucketCheck] at h
  obtain ⟨answer, hanswer, h⟩ := bind_eq_ok.mp h
  cases answer with
  | some b =>
    cases h
    exact .explicit hanswer
  | none =>
    obtain ⟨permissive, hpermissive, h⟩ := bind_eq_ok.mp h
    obtain ⟨entry, hentry, h⟩ := bind_eq_ok.mp h
    split at h
    · rename_i hyes
      rw [hyes] at hpermissive
      exact .permissiveField entry hanswer hpermissive hentry (by simpa using h)
    · rename_i hnot
      split at h
      · rename_i hyes
        rw [hyes] at hentry
        exact .aggregateEntry permissive hanswer hpermissive hnot hentry
      · rename_i hno
        obtain ⟨flag, hflag, h⟩ := bind_eq_ok.mp h
        have hflagged : flag = some true := by
          cases flag with
          | none => cases h
          | some b => simpa using h
        subst hflagged
        exact .permissiveAggregate permissive entry hanswer hpermissive hnot hentry hno hflag

lemma bucketCheck_of_grants {bucket : Bucket} {target : String}
    (h : Grants registry aggregate field bucket target ctx) :
    bucketCheck registry aggregate field bucket target ctx = .ok true := by
  rw [bucketCheck]
  cases h with
  | explicit h => exact bind_eq_ok.mpr ⟨some true, h, rfl⟩
  | permissiveField entry hopen hpermissive hentry hdenied =>
    refine bind_eq_ok.mpr ⟨none, hopen, bind_eq_ok.mpr ⟨some true, hpermissive,
      bind_eq_ok.mpr ⟨entry, hentry, ?_⟩⟩⟩
    simp [hdenied]
  | aggregateEntry permissive hopen hpermissive hnot hentry =>
    refine bind_eq_ok.mpr ⟨none, hopen, bind_eq_ok.mpr ⟨permissive, hpermissive,
      bind_eq_ok.mpr ⟨some true, hentry, ?_⟩⟩⟩
    rw [if_neg hnot, if_pos rfl]
    rfl
  | permissiveAggregate permissive entry hopen hpermissive hnot hentry hno haggregate =>
    refine bind_eq_ok.mpr ⟨none, hopen, bind_eq_ok.mpr ⟨permissive, hpermissive,
      bind_eq_ok.mpr ⟨entry, hentry, ?_⟩⟩⟩
    rw [if_neg hnot, if_neg hno]
    exact bind_eq_ok.mpr ⟨some true, haggregate, rfl⟩

/-- A bucket check allows what the rules grant. -/
theorem bucketCheck_eq_true {bucket : Bucket} {target : String} :
    bucketCheck registry aggregate field bucket target ctx = .ok true ↔
      Grants registry aggregate field bucket target ctx :=
  ⟨grants_of_bucketCheck, bucketCheck_of_grants⟩

/-- A value that passes its hooks and whose target is granted with what it has become. -/
structure Permits (registry : Registry) (aggregate : Layer) (field : Option Layer)
    (bucket : Bucket) (target : String) (value : Json) (ctx : Context) (after : Json) : Prop where
  passes : Passes registry aggregate field value ctx after
  grants : Grants registry aggregate field bucket target (ctx.withExtra "value" after)

/-- A check neither vetoes nor refuses exactly what its hooks pass and the rules grant. -/
theorem check_eq_allowed {bucket : Bucket} {target : String} {value after : Json} :
    check registry aggregate field bucket target value ctx = .ok ⟨true, false, after⟩ ↔
      Permits registry aggregate field bucket target value ctx after := by
  rw [check]
  constructor
  · intro h
    obtain ⟨⟨replaced, vetoed⟩, hhooks, h⟩ := bind_eq_ok.mp h
    cases vetoed with
    | true => cases h
    | false =>
      obtain ⟨allowed, hallowed, h⟩ := bind_eq_ok.mp h
      obtain ⟨rfl, -, rfl⟩ := Verdict.mk.inj (Except.ok.inj h)
      exact ⟨applyHooks_eq_ok.mp hhooks, bucketCheck_eq_true.mp hallowed⟩
  · rintro ⟨hpasses, hgrants⟩
    exact bind_eq_ok.mpr ⟨⟨after, false⟩, applyHooks_eq_ok.mpr hpasses,
      bind_eq_ok.mpr ⟨true, bucketCheck_eq_true.mpr hgrants, rfl⟩⟩

/-! ## Flags -/

/-- The rules by which a field without buckets is allowed: by its own flag, or, where that is
open, by a permissive aggregate. -/
inductive Allows (registry : Registry) (aggregate : Layer) (fieldAllowed : Setting?)
    (ctx : Context) : Prop where
  | explicit (h : bool? registry ctx "allowed" fieldAllowed = .ok (some true))
  | permissiveAggregate (hopen : bool? registry ctx "allowed" fieldAllowed = .ok none)
      (haggregate : bool? registry ctx "permissive" aggregate.permissive = .ok (some true))

/-- A flag check allows what the rules do. -/
theorem allowedCheck_eq_true {fieldAllowed : Setting?} :
    allowedCheck registry aggregate fieldAllowed ctx = .ok true ↔
      Allows registry aggregate fieldAllowed ctx := by
  rw [allowedCheck]
  constructor
  · intro h
    obtain ⟨answer, hanswer, h⟩ := bind_eq_ok.mp h
    cases answer with
    | some b =>
      cases h
      exact .explicit hanswer
    | none =>
      obtain ⟨flag, hflag, h⟩ := bind_eq_ok.mp h
      have hflagged : flag = some true := by
        cases flag with
        | none => cases h
        | some b => simpa using h
      subst hflagged
      exact .permissiveAggregate hanswer hflag
  · intro h
    cases h with
    | explicit h => exact bind_eq_ok.mpr ⟨some true, h, rfl⟩
    | permissiveAggregate hopen haggregate =>
      exact bind_eq_ok.mpr ⟨none, hopen, bind_eq_ok.mpr ⟨some true, haggregate, rfl⟩⟩

end Permission

end EntityGate
