/-
# Assertions about runs

`Effect.Triple pre e post fail` says of an effect: from a state in which `pre` holds, it either
returns a value and leaves a state of which `post` holds, or it ends in a fault and leaves a
state of which `fail` holds.  A fault keeps the state that it was met in, so `fail` speaks about
that state and not about the one before the effect.  `Mutating.Triple` says the same of a part of
a mutation, whose assertions see the cache of the call as well.

For each way in which runs are put together there is a rule.  A loop keeps an assertion that
each of its passes keeps.
-/
import EntityGate.Mutation.Bind
import Mathlib.Tactic.Lemma

namespace EntityGate

namespace Effect

variable {σ α β : Type}

/-! ## Effects -/

/-- A computation that keeps its state through a fault, followed by another one. -/
lemma run_bind {ε : Type} (e : ExceptT ε (StateM σ) α) (next : α → ExceptT ε (StateM σ) β)
    (s : σ) : (e >>= next) s = match e s with
      | (.ok a, s') => next a s'
      | (.error f, s') => (.error f, s') := by
  have hbind : (e >>= next) s = ExceptT.bindCont next (e s).1 (e s).2 := rfl
  rw [hbind]
  cases e s with
  | mk result s' => cases result <;> rfl

/-- What holds after an effect, when it returns and when it ends in a fault. -/
def Triple (pre : σ → Prop) (e : Effect σ α) (post : α → σ → Prop)
    (fail : Fault → σ → Prop) : Prop :=
  ∀ s, pre s → match e s with
    | (.ok a, s') => post a s'
    | (.error f, s') => fail f s'

namespace Triple

variable {pre : σ → Prop} {e : Effect σ α} {post : α → σ → Prop} {fail : Fault → σ → Prop}

lemma of_ok (h : Triple pre e post fail) {s s' : σ} {a : α} (hs : pre s)
    (hrun : e s = (.ok a, s')) : post a s' := by
  have h := h s hs
  rw [hrun] at h
  exact h

lemma of_error (h : Triple pre e post fail) {s s' : σ} {f : Fault} (hs : pre s)
    (hrun : e s = (.error f, s')) : fail f s' := by
  have h := h s hs
  rw [hrun] at h
  exact h

lemma weaken {pre' : σ → Prop} {post' : α → σ → Prop} {fail' : Fault → σ → Prop}
    (h : Triple pre e post fail) (hpre : ∀ s, pre' s → pre s)
    (hpost : ∀ a s, post a s → post' a s) (hfail : ∀ f s, fail f s → fail' f s) :
    Triple pre' e post' fail' := by
  intro s hs
  have hrun := h s (hpre s hs)
  split at hrun
  · exact hpost _ _ hrun
  · exact hfail _ _ hrun

/-- What two assertions say of one effect may be used together. -/
lemma and {pre' : σ → Prop} {post' : α → σ → Prop} {fail' : Fault → σ → Prop}
    (h : Triple pre e post fail) (h' : Triple pre' e post' fail') :
    Triple (fun s => pre s ∧ pre' s) e (fun a s => post a s ∧ post' a s)
      fun f s => fail f s ∧ fail' f s := by
  intro s hs
  have hrun := h s hs.1
  have hrun' := h' s hs.2
  cases he : e s with
  | mk result s' =>
    rw [he] at hrun hrun'
    cases result <;> exact ⟨hrun, hrun'⟩

lemma pure {a : α} (h : ∀ s, pre s → post a s) : Triple pre (Pure.pure a) post fail := h

/-- Run one effect, and another one with what it returned. -/
lemma bind {m : α → σ → Prop} {next : α → Effect σ β} {post : β → σ → Prop}
    (he : Triple pre e m fail) (hnext : ∀ a, Triple (m a) (next a) post fail) :
    Triple pre (e >>= next) post fail := by
  intro s hs
  have hrun := he s hs
  rw [run_bind]
  cases hes : e s with
  | mk result s' =>
    rw [hes] at hrun
    cases result with
    | ok a => exact hnext a s' hrun
    | error f => exact hrun

/-- A decision is taken without a look at the state. -/
lemma ofExcept {d : Except Fault α} (hok : ∀ a s, d = .ok a → pre s → post a s)
    (herror : ∀ f s, d = .error f → pre s → fail f s) :
    Triple pre (Effect.ofExcept d) post fail := by
  intro s hs
  cases d with
  | ok a => exact hok a s rfl hs
  | error f => exact herror f s rfl hs

/-- A store call answers with a value or with a text, which becomes an execution fault. -/
lemma ofStore {call : StoreCall σ α}
    (h : ∀ s, pre s → match call s with
      | (.ok a, s') => post a s'
      | (.error text, s') => fail (.execution text) s') :
    Triple pre (Effect.ofStore call) post fail := by
  intro s hs
  have hcall := h s hs
  unfold Effect.ofStore
  cases hrun : call s with
  | mk result s' =>
    rw [hrun] at hcall
    cases result with
    | ok a => exact hcall
    | error text => exact hcall

/-- A fold along a list: what holds tells which part of the list has been passed. -/
lemma foldlM_along {I : List α → β → σ → Prop} {step : β → α → Effect σ β} {l : List α}
    (hstep : ∀ done, ∀ a ∈ l, ∀ b, Triple (I done b) (step b a) (I (done ++ [a])) fail) (b : β) :
    Triple (I [] b) (l.foldlM step b) (I l) fail := by
  -- the induction is on the part that is still to be passed
  suffices h : ∀ rest done, done ++ rest = l → ∀ b,
      Triple (I done b) (rest.foldlM step b) (I l) fail from h l [] rfl b
  intro rest
  induction rest with
  | nil =>
    intro done hdone b
    rw [← hdone, List.append_nil]
    exact pure fun _ hs => hs
  | cons a rest ih =>
    intro done hdone b
    have ha : a ∈ l := hdone ▸ List.mem_append_right _ List.mem_cons_self
    rw [List.foldlM_cons]
    refine (hstep done a ha b).bind fun b' => ih (done ++ [a]) ?_ b'
    rw [← hdone, List.append_assoc]
    rfl

/-- A fold over effects keeps what each of its steps keeps. -/
lemma foldlM {I : β → σ → Prop} {step : β → α → Effect σ β} {l : List α}
    (hstep : ∀ b, ∀ a ∈ l, Triple (I b) (step b a) I fail) (b : β) :
    Triple (I b) (l.foldlM step b) I fail :=
  foldlM_along (I := fun _ => I) (fun _ a ha b => hstep b a ha) b

end Triple

end Effect

/-! ## Mutations -/

namespace Mutating

variable {σ α β : Type}

/-- A fold runs with the cache threaded through its steps. -/
lemma run_foldlM (step : β → α → Mutating σ β) (l : List α) (b : β) (cache : CallCache) :
    (l.foldlM step b).run cache =
      l.foldlM (fun x a => (step x.1 a).run x.2) (b, cache) := by
  induction l generalizing b cache with
  | nil => rfl
  | cons a l ih =>
    rw [List.foldlM_cons, List.foldlM_cons, StateT.run_bind]
    exact bind_congr fun x => ih x.1 x.2

/-- What holds after a part of a mutation, when it returns and when it ends in a fault. -/
def Triple (pre : CallCache → σ → Prop) (p : Mutating σ α) (post : α → CallCache → σ → Prop)
    (fail : Fault → σ → Prop) : Prop :=
  ∀ cache, Effect.Triple (pre cache) (p.run cache) (fun x => post x.1 x.2) fail

namespace Triple

variable {pre : CallCache → σ → Prop} {p : Mutating σ α} {post : α → CallCache → σ → Prop}
  {fail : Fault → σ → Prop}

lemma weaken {pre' : CallCache → σ → Prop} {post' : α → CallCache → σ → Prop}
    {fail' : Fault → σ → Prop} (h : Triple pre p post fail)
    (hpre : ∀ cache s, pre' cache s → pre cache s)
    (hpost : ∀ a cache s, post a cache s → post' a cache s)
    (hfail : ∀ f s, fail f s → fail' f s) : Triple pre' p post' fail' :=
  fun cache => (h cache).weaken (hpre cache) (fun x => hpost x.1 x.2) hfail

lemma pure {a : α} (h : ∀ cache s, pre cache s → post a cache s) :
    Triple pre (Pure.pure a) post fail := h

/-- What holds goes on to hold if nothing is done. -/
lemma keep (a : α) : Triple pre (Pure.pure a : Mutating σ α) (fun _ => pre) fail :=
  pure fun _ _ hs => hs

lemma throw {f : Fault} (h : ∀ cache s, pre cache s → fail f s) :
    Triple pre (MonadExcept.throw f : Mutating σ α) post fail := h

/-- Run one part, and another one with what it returned. -/
lemma bind {m : α → CallCache → σ → Prop} {next : α → Mutating σ β}
    {post : β → CallCache → σ → Prop} (hp : Triple pre p m fail)
    (hnext : ∀ a, Triple (m a) (next a) post fail) : Triple pre (p >>= next) post fail := by
  intro cache
  exact (hp cache).bind fun x => hnext x.1 x.2

lemma getCache {post : CallCache → CallCache → σ → Prop}
    (h : ∀ cache s, pre cache s → post cache cache s) :
    Triple pre (get : Mutating σ CallCache) post fail := h

lemma modifyCache {change : CallCache → CallCache} {post : Unit → CallCache → σ → Prop}
    (h : ∀ cache s, pre cache s → post () (change cache) s) :
    Triple pre (modify change : Mutating σ Unit) post fail := h

lemma ofEffect {e : Effect σ α}
    (h : ∀ cache, Effect.Triple (pre cache) e (fun a => post a cache) fail) :
    Triple pre (Mutating.ofEffect e) post fail := by
  intro cache
  exact (h cache).bind fun _ => Effect.Triple.pure fun _ hs => hs

lemma ofDecision {d : Except Fault α}
    (hok : ∀ a cache s, d = .ok a → pre cache s → post a cache s)
    (herror : ∀ f cache s, d = .error f → pre cache s → fail f s) :
    Triple pre (Mutating.ofDecision d) post fail :=
  ofEffect fun cache => .ofExcept (fun a => hok a cache) fun f => herror f cache

/-- A fact that does not depend on the state may be used from the start. -/
lemma of_fact {φ : Prop} (h : φ → Triple pre p post fail) :
    Triple (fun cache s => φ ∧ pre cache s) p post fail :=
  fun cache s hs => h hs.1 cache s hs.2

/-- What exists before may be named. -/
lemma of_exists {γ : Type} {pre : γ → CallCache → σ → Prop}
    (h : ∀ c, Triple (pre c) p post fail) :
    Triple (fun cache s => ∃ c, pre c cache s) p post fail :=
  fun cache s ⟨c, hs⟩ => h c cache s hs

/-- A run may be looked at from each state on its own. -/
lemma of_state (h : ∀ cache s, pre cache s →
      Triple (fun cache' s' => cache' = cache ∧ s' = s) p post fail) : Triple pre p post fail :=
  fun cache s hs => h cache s hs cache s ⟨rfl, rfl⟩

/-- A decision that is taken is known from then on. -/
lemma decided {d : Except Fault α} (hfault : ∀ f cache s, pre cache s → fail f s) :
    Triple pre (Mutating.ofDecision d) (fun a cache s => d = .ok a ∧ pre cache s) fail :=
  .ofDecision (fun _ _ _ hd hs => ⟨hd, hs⟩) fun f cache s _ hs => hfault f cache s hs

/-- What two assertions say of one run may be used together. -/
lemma and {pre' : CallCache → σ → Prop} {post' : α → CallCache → σ → Prop}
    {fail' : Fault → σ → Prop} (h : Triple pre p post fail) (h' : Triple pre' p post' fail') :
    Triple (fun cache s => pre cache s ∧ pre' cache s) p
      (fun a cache s => post a cache s ∧ post' a cache s) fun f s => fail f s ∧ fail' f s :=
  fun cache => (h cache).and (h' cache)

/-- A mutation starts with an empty cache, and what it leaves in the cache is dropped. -/
lemma withoutCache (h : Triple pre p post fail) :
    Effect.Triple (pre .empty) p.withoutCache (fun a s => ∃ cache, post a cache s) fail :=
  Effect.Triple.bind (h .empty) fun x => Effect.Triple.pure fun _ hs => ⟨x.2, hs⟩

/-! ### Loops -/

/-- A fold along a list: what holds tells which part of the list has been passed. -/
lemma foldlM_along {I : List α → β → CallCache → σ → Prop} {step : β → α → Mutating σ β}
    {l : List α} (hstep : ∀ done, ∀ a ∈ l, ∀ b, Triple (I done b) (step b a) (I (done ++ [a])) fail)
    (b : β) : Triple (I [] b) (l.foldlM step b) (I l) fail := by
  intro cache
  rw [run_foldlM]
  exact Effect.Triple.foldlM_along (I := fun done x => I done x.1 x.2)
    (fun done a ha x => hstep done a ha x.1 x.2) (b, cache)

/-- A fold keeps what each of its steps keeps. -/
lemma foldlM {I : β → CallCache → σ → Prop} {step : β → α → Mutating σ β} {l : List α}
    (hstep : ∀ b, ∀ a ∈ l, Triple (I b) (step b a) I fail) (b : β) :
    Triple (I b) (l.foldlM step b) I fail :=
  foldlM_along (I := fun _ => I) (fun _ a ha b => hstep b a ha) b

/-- A loop along a list: what holds tells which part of the list has been passed. -/
lemma forM_split {I : List α → CallCache → σ → Prop} {pass : α → Mutating σ Unit} {l : List α}
    (hpass : ∀ done a rest, done ++ a :: rest = l →
      Triple (I done) (pass a) (fun _ => I (done ++ [a])) fail) :
    Triple (I []) (l.forM pass) (fun _ => I l) fail := by
  suffices h : ∀ rest done, done ++ rest = l →
      Triple (I done) (rest.forM pass) (fun _ => I l) fail from h l [] rfl
  intro rest
  induction rest with
  | nil =>
    intro done hdone
    rw [← hdone, List.append_nil]
    exact pure fun _ _ hs => hs
  | cons a rest ih =>
    intro done hdone
    refine (hpass done a rest hdone).bind fun _ => ih (done ++ [a]) ?_
    rw [← hdone, List.append_assoc]
    rfl

lemma forM {I : CallCache → σ → Prop} {pass : α → Mutating σ Unit} {l : List α}
    (hpass : ∀ a ∈ l, Triple I (pass a) (fun _ => I) fail) :
    Triple I (l.forM pass) (fun _ => I) fail :=
  forM_split (I := fun _ => I) fun _ a _ hsplit =>
    hpass a (hsplit ▸ List.mem_append_right _ List.mem_cons_self)

/-- A loop along a list that collects results: what holds tells which part of the list has been
passed, and what was collected on the way. -/
lemma mapM_split {I : List α → List β → CallCache → σ → Prop} {pass : α → Mutating σ β}
    {l : List α} (hpass : ∀ done bs a rest, done ++ a :: rest = l →
      Triple (I done bs) (pass a) (fun b => I (done ++ [a]) (bs ++ [b])) fail) :
    Triple (I [] []) (l.mapM pass) (I l) fail := by
  suffices h : ∀ rest done, done ++ rest = l → ∀ bs,
      Triple (I done bs) (rest.mapM pass) (fun more => I l (bs ++ more)) fail from h l [] rfl []
  intro rest
  induction rest with
  | nil =>
    intro done hdone bs
    rw [← hdone, List.append_nil]
    exact pure fun _ _ hs => by simpa using hs
  | cons a rest ih =>
    intro done hdone bs
    rw [List.mapM_cons]
    refine (hpass done bs a rest hdone).bind fun b => ?_
    refine (ih (done ++ [a]) (by rw [← hdone, List.append_assoc]; rfl) (bs ++ [b])).bind
      fun more => ?_
    exact pure fun _ _ hs => by simpa using hs

/-- The same, where it does not matter at which place of the list a pass stands. -/
lemma mapM_along {I : List α → List β → CallCache → σ → Prop} {pass : α → Mutating σ β}
    {l : List α} (hpass : ∀ done bs, ∀ a ∈ l,
      Triple (I done bs) (pass a) (fun b => I (done ++ [a]) (bs ++ [b])) fail) :
    Triple (I [] []) (l.mapM pass) (I l) fail :=
  mapM_split fun done bs a _ hsplit =>
    hpass done bs a (hsplit ▸ List.mem_append_right _ List.mem_cons_self)

/-- A loop that collects results returns one for each of its passes. -/
lemma mapM {I : CallCache → σ → Prop} {pass : α → Mutating σ β} {l : List α}
    (hpass : ∀ a ∈ l, Triple I (pass a) (fun _ => I) fail) :
    Triple I (l.mapM pass) (fun bs cache s => bs.length = l.length ∧ I cache s) fail := by
  have halong := mapM_along (I := fun done bs cache s => bs.length = done.length ∧ I cache s)
    fun done bs a ha => of_fact fun hlength => (hpass a ha).weaken (fun _ _ hs => hs)
      (fun _ _ _ hs => ⟨by simpa using hlength, hs⟩) fun _ _ hs => hs
  exact halong.weaken (fun _ _ hs => ⟨rfl, hs⟩) (fun _ _ _ hs => hs) fun _ _ hs => hs

end Triple

end Mutating

end EntityGate
