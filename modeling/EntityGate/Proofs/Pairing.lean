/-
# Two runs side by side

`Effect.Paired pre e e' post fail` says of two effects: from states that `pre` relates they either
both return, with values and states that `post` relates, or they both end in the same fault, in
states that `fail` relates.  `Mutating.Paired` says of two parts of mutations that what relates
their caches and states before goes on to relate them when both return.  Neither the caches nor the
states have to be the same, so one run may look up what the other one finds in its cache.

As for assertions about one run, there is a rule for each way in which runs are put together.
-/
import EntityGate.Proofs.Triple

namespace EntityGate

/-- Decisions that are both refused with the same fault, or that both have an answer. -/
inductive Decision.Pairs {ε α β : Type} (Q : α → β → Prop) : Except ε α → Except ε β → Prop where
  | answered {a : α} {b : β} (h : Q a b) : Pairs Q (.ok a) (.ok b)
  | refused (f : ε) : Pairs Q (.error f) (.error f)

/-- Outcomes that are both the same fault, or that both hold a value. -/
inductive Effect.OutcomePairs {ε α β σ τ : Type} (post : α → β → σ → τ → Prop)
    (fail : σ → τ → Prop) : Except ε α × σ → Except ε β × τ → Prop where
  | returned {a : α} {b : β} {s : σ} {t : τ} (h : post a b s t) :
      OutcomePairs post fail (.ok a, s) (.ok b, t)
  | failed (f : ε) {s : σ} {t : τ} (h : fail s t) :
      OutcomePairs post fail (.error f, s) (.error f, t)

namespace Decision.Pairs

variable {ε α β γ δ : Type} {Q : α → β → Prop} {d : Except ε α} {d' : Except ε β}

lemma refl (d : Except ε α) : Pairs Eq d d := by
  cases d with
  | ok a => exact .answered rfl
  | error f => exact .refused f

lemma of_eq {d d' : Except ε α} (h : d = d') : Pairs Eq d d' := h ▸ refl d

lemma eq {d d' : Except ε α} (h : Pairs Eq d d') : d = d' := by
  cases h with
  | answered h => rw [h]
  | refused f => rfl

lemma mono {Q' : α → β → Prop} (h : Pairs Q d d') (hmono : ∀ a b, Q a b → Q' a b) :
    Pairs Q' d d' := by
  cases h with
  | answered h => exact .answered (hmono _ _ h)
  | refused f => exact .refused f

/-- What is known of one answer may be used along with what relates the two. -/
lemma and_left (h : Pairs Q d d') {P : α → Prop} (hanswer : ∀ a, d = .ok a → P a) :
    Pairs (fun a b => Q a b ∧ P a) d d' := by
  cases h with
  | answered h => exact .answered ⟨h, hanswer _ rfl⟩
  | refused f => exact .refused f

/-- Take one decision, and another one with its answer. -/
lemma bind {next : α → Except ε γ} {next' : β → Except ε δ} {P : γ → δ → Prop} (h : Pairs Q d d')
    (hnext : ∀ a b, Q a b → Pairs P (next a) (next' b)) :
    Pairs P (d >>= next) (d' >>= next') := by
  cases h with
  | answered h => exact hnext _ _ h
  | refused f => exact .refused f

end Decision.Pairs

namespace Effect

variable {ε α β γ δ σ τ : Type}

/-- What relates the outcomes of two runs, from what relates the states before. -/
def Paired (pre : σ → τ → Prop) (e : ExceptT ε (StateM σ) α) (e' : ExceptT ε (StateM τ) β)
    (post : α → β → σ → τ → Prop) (fail : σ → τ → Prop) : Prop :=
  ∀ s t, pre s t → OutcomePairs post fail (e s) (e' t)

/-- What relates the outcomes of two runs, from what is known of each of them. -/
lemma OutcomePairs.of_triples {e : Effect σ α} {e' : Effect τ β} {pre : σ → Prop} {pre' : τ → Prop}
    {m : α → σ → Prop} {m' : β → τ → Prop} {g : Fault → σ → Prop} {g' : Fault → τ → Prop}
    {post : α → β → σ → τ → Prop} {fail : σ → τ → Prop} (h : Triple pre e m g)
    (h' : Triple pre' e' m' g') {s : σ} {t : τ} (hs : pre s) (ht : pre' t)
    (hpost : ∀ a b s t, m a s → m' b t → post a b s t)
    (hfail : ∀ f f' s t, g f s → g' f' t → f = f' ∧ fail s t)
    (hleft : ∀ a s f t, m a s → ¬ g' f t) (hright : ∀ f s b t, g f s → ¬ m' b t) :
    OutcomePairs post fail (e s) (e' t) := by
  have hrun := h s hs
  have hrun' := h' t ht
  split at hrun <;> rename_i heq <;> split at hrun' <;> rename_i heq' <;> rw [heq, heq']
  · exact .returned (hpost _ _ _ _ hrun hrun')
  · exact absurd hrun' (hleft _ _ _ _ hrun)
  · exact absurd hrun' (hright _ _ _ _ hrun)
  · obtain ⟨rfl, hst⟩ := hfail _ _ _ _ hrun hrun'
    exact .failed _ hst

namespace Paired

variable {pre : σ → τ → Prop} {e : ExceptT ε (StateM σ) α} {e' : ExceptT ε (StateM τ) β}
  {post : α → β → σ → τ → Prop} {fail : σ → τ → Prop}

/-- What comes out of two runs that go side by side. -/
lemma outcomes (h : Paired pre e e' post fail) {s : σ} {t : τ} (hst : pre s t) :
    (∃ a b s' t', e s = (.ok a, s') ∧ e' t = (.ok b, t') ∧ post a b s' t') ∨
      ∃ f s' t', e s = (.error f, s') ∧ e' t = (.error f, t') ∧ fail s' t' := by
  have hruns := h s t hst
  generalize e s = run at hruns ⊢
  generalize e' t = run' at hruns ⊢
  cases hruns with
  | returned h => exact .inl ⟨_, _, _, _, rfl, rfl, h⟩
  | failed f h => exact .inr ⟨f, _, _, rfl, rfl, h⟩

lemma weaken {pre' : σ → τ → Prop} {post' : α → β → σ → τ → Prop} {fail' : σ → τ → Prop}
    (h : Paired pre e e' post fail) (hpre : ∀ s t, pre' s t → pre s t)
    (hpost : ∀ a b s t, post a b s t → post' a b s t)
    (hfail : ∀ s t, fail s t → fail' s t) : Paired pre' e e' post' fail' := by
  intro s t hst
  rcases h.outcomes (hpre s t hst) with
    ⟨a, b, s', t', hs, ht, hpost'⟩ | ⟨f, s', t', hs, ht, hfail'⟩
  · rw [hs, ht]
    exact .returned (hpost _ _ _ _ hpost')
  · rw [hs, ht]
    exact .failed f (hfail _ _ hfail')

/-- What relates the states after two runs, however they end. -/
lemma states {R : σ → τ → Prop} (h : Paired pre e e' (fun _ _ => R) R) {s : σ} {t : τ}
    (hst : pre s t) : R (e s).2 (e' t).2 := by
  rcases h.outcomes hst with ⟨a, b, s', t', hs, ht, hR⟩ | ⟨f, s', t', hs, ht, hR⟩ <;>
    rw [hs, ht] <;> exact hR

/-- What is known of one run may be used along with what relates the two. -/
lemma and_left (h : Paired pre e e' post fail) {P : σ → Prop} {Q : α → σ → Prop}
    (hrun : ∀ s a s', P s → e s = (.ok a, s') → Q a s') :
    Paired (fun s t => pre s t ∧ P s) e e' (fun a b s t => post a b s t ∧ Q a s) fail := by
  intro s t hst
  rcases h.outcomes hst.1 with ⟨a, b, s', t', hs, ht, hpost⟩ | ⟨f, s', t', hs, ht, hfail⟩
  · have hleft := hrun s a s' hst.2 hs
    rw [hs, ht]
    exact .returned ⟨hpost, hleft⟩
  · rw [hs, ht]
    exact .failed f hfail

lemma pure {a : α} {b : β} (h : ∀ s t, pre s t → post a b s t) :
    Paired pre (Pure.pure a : ExceptT ε (StateM σ) α) (Pure.pure b : ExceptT ε (StateM τ) β) post
      fail :=
  fun s t hst => .returned (h s t hst)

/-- Run one effect, and another one with what it returned. -/
lemma bind {m : α → β → σ → τ → Prop} {next : α → ExceptT ε (StateM σ) γ}
    {next' : β → ExceptT ε (StateM τ) δ} {post : γ → δ → σ → τ → Prop}
    (he : Paired pre e e' m fail)
    (hnext : ∀ a b, Paired (m a b) (next a) (next' b) post fail) :
    Paired pre (e >>= next) (e' >>= next') post fail := by
  intro s t hst
  rw [run_bind, run_bind]
  rcases he.outcomes hst with ⟨a, b, s', t', hs, ht, hm⟩ | ⟨f, s', t', hs, ht, hfail⟩
  · rw [hs, ht]
    exact hnext a b s' t' hm
  · rw [hs, ht]
    exact .failed f hfail

/-- A decision is taken without a look at the state. -/
lemma ofExcept {Q : α → β → Prop} {d : Except Fault α} {d' : Except Fault β}
    (h : Decision.Pairs Q d d') (hfail : ∀ s t, pre s t → fail s t) :
    Paired pre (Effect.ofExcept d) (Effect.ofExcept d') (fun a b s t => Q a b ∧ pre s t) fail := by
  intro s t hst
  cases h with
  | answered h => exact .returned ⟨h, hst⟩
  | refused f => exact .failed f (hfail s t hst)

/-- A store call that answers with a text ends in the fault with this text. -/
lemma ofStore {call : StoreCall σ α} {call' : StoreCall τ β}
    (h : Paired pre call call' post fail) :
    Paired pre (Effect.ofStore call) (Effect.ofStore call') post fail := by
  intro s t hst
  unfold Effect.ofStore
  rcases h.outcomes hst with ⟨a, b, s', t', hs, ht, hpost⟩ | ⟨text, s', t', hs, ht, hfail⟩
  · rw [hs, ht]
    exact .returned hpost
  · rw [hs, ht]
    exact .failed _ hfail

/-- A fact about the results that does not depend on the states may be used from then on. -/
lemma of_fact {φ : Prop} (h : φ → Paired pre e e' post fail) :
    Paired (fun s t => φ ∧ pre s t) e e' post fail :=
  fun s t hst => h hst.1 s t hst.2

/-- A fold goes side by side if each of its steps does. -/
lemma foldlM {R : σ → τ → Prop} {step : α → γ → ExceptT ε (StateM σ) α}
    {step' : α → γ → ExceptT ε (StateM τ) α} {l : List γ}
    (hstep : ∀ a, ∀ c ∈ l,
      Paired R (step a c) (step' a c) (fun a b s t => a = b ∧ R s t) fail) (a : α) :
    Paired R (l.foldlM step a) (l.foldlM step' a) (fun a b s t => a = b ∧ R s t) fail := by
  induction l generalizing a with
  | nil => exact pure fun _ _ hst => ⟨rfl, hst⟩
  | cons c l ih =>
    rw [List.foldlM_cons, List.foldlM_cons]
    refine (hstep a c List.mem_cons_self).bind fun a b => of_fact ?_
    rintro rfl
    exact ih (fun a c hc => hstep a c (List.mem_cons_of_mem _ hc)) a

end Paired

end Effect

/-! ## Mutations -/

namespace Mutating

variable {σ τ α β γ δ : Type}

/-- Two parts of mutations whose caches and states are related: they both return, results that
are related, and leave caches and states that are again, or they both end in the same fault. -/
def Paired (R : CallCache → CallCache → σ → τ → Prop) (fail : σ → τ → Prop) (Q : α → β → Prop)
    (p : Mutating σ α) (p' : Mutating τ β) : Prop :=
  ∀ cache cache', Effect.Paired (R cache cache') (p.run cache) (p'.run cache')
    (fun x y s t => Q x.1 y.1 ∧ R x.2 y.2 s t) fail

namespace Paired

variable {R : CallCache → CallCache → σ → τ → Prop} {fail : σ → τ → Prop} {Q : α → β → Prop}
  {p : Mutating σ α} {p' : Mutating τ β}

lemma pure {a : α} {b : β} (h : Q a b) :
    Paired R fail Q (Pure.pure a : Mutating σ α) (Pure.pure b : Mutating τ β) :=
  fun _ _ _ _ hst => .returned ⟨h, hst⟩

lemma mono {P : α → β → Prop} (h : Paired R fail Q p p') (hmono : ∀ a b, Q a b → P a b) :
    Paired R fail P p p' :=
  fun cache cache' => (h cache cache').weaken (fun _ _ h => h)
    (fun _ _ _ _ h => ⟨hmono _ _ h.1, h.2⟩) fun _ _ h => h

lemma throw (hfail : ∀ cache cache' s t, R cache cache' s t → fail s t) (f : Fault) :
    Paired R fail Q (MonadExcept.throw f : Mutating σ α) (MonadExcept.throw f : Mutating τ β) :=
  fun _ _ _ _ hst => .failed f (hfail _ _ _ _ hst)

/-- Run one part, and another one with what it returned. -/
lemma bind {next : α → Mutating σ γ} {next' : β → Mutating τ δ} {P : γ → δ → Prop}
    (hp : Paired R fail Q p p') (hnext : ∀ a b, Q a b → Paired R fail P (next a) (next' b)) :
    Paired R fail P (p >>= next) (p' >>= next') :=
  fun cache cache' => (hp cache cache').bind fun x y =>
    .of_fact fun h => hnext x.1 y.1 h x.2 y.2

/-- Run one part, and another one, if the first returns the same on both sides. -/
lemma andThen {p : Mutating σ α} {p' : Mutating τ α} {next : α → Mutating σ γ}
    {next' : α → Mutating τ δ} {P : γ → δ → Prop} (hp : Paired R fail Eq p p')
    (hnext : ∀ a, Paired R fail P (next a) (next' a)) :
    Paired R fail P (p >>= next) (p' >>= next') :=
  hp.bind fun a _ h => h ▸ hnext a

/-- An effect sees no cache. -/
lemma ofEffect {e : Effect σ α} {e' : Effect τ β}
    (h : ∀ cache cache', Effect.Paired (R cache cache') e e'
      (fun a b s t => Q a b ∧ R cache cache' s t) fail) :
    Paired R fail Q (Mutating.ofEffect e) (Mutating.ofEffect e') :=
  fun cache cache' => (h cache cache').bind fun _ _ => .pure fun _ _ h => h

lemma ofDecision {d : Except Fault α} {d' : Except Fault β} (h : Decision.Pairs Q d d')
    (hfail : ∀ cache cache' s t, R cache cache' s t → fail s t) :
    Paired R fail Q (Mutating.ofDecision d) (Mutating.ofDecision d') :=
  ofEffect fun cache cache' => .ofExcept h (hfail cache cache')

/-- Mutations start with empty caches. -/
lemma withoutCache (h : Paired R fail Q p p') :
    Effect.Paired (R .empty .empty) p.withoutCache p'.withoutCache
      (fun a b s t => Q a b ∧ ∃ cache cache', R cache cache' s t) fail :=
  (h .empty .empty).bind fun x y => .pure fun _ _ h => ⟨h.1, x.2, y.2, h.2⟩

/-! ### Loops -/

lemma foldlM {step : β → α → Mutating σ β} {step' : β → α → Mutating τ β}
    (hstep : ∀ b a, Paired R fail Eq (step b a) (step' b a)) (l : List α) (b : β) :
    Paired R fail Eq (l.foldlM step b) (l.foldlM step' b) := by
  induction l generalizing b with
  | nil => exact pure rfl
  | cons a l ih =>
    rw [List.foldlM_cons, List.foldlM_cons]
    exact (hstep b a).andThen ih

lemma mapM {pass : α → Mutating σ β} {pass' : α → Mutating τ β}
    (hpass : ∀ a, Paired R fail Eq (pass a) (pass' a)) (l : List α) :
    Paired R fail Eq (l.mapM pass) (l.mapM pass') := by
  induction l with
  | nil => exact pure rfl
  | cons a l ih =>
    rw [List.mapM_cons, List.mapM_cons]
    exact (hpass a).andThen fun b => ih.andThen fun bs => pure rfl

end Paired

end Mutating

end EntityGate
