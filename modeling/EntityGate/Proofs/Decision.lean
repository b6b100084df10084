/-
# Decisions

A decision is a computation in `Except`: it goes on with a value or ends in a fault.  The lemmas
of this file take decisions apart.  A sequence of two comes out well when both do, a loop over a
list when every pass does, and it ends in a fault when one of its parts does.
-/
import Mathlib.Tactic.Lemma

namespace EntityGate
namespace Decision

variable {ε α β γ : Type}

lemma bind_eq_ok {x : Except ε α} {f : α → Except ε β} {b : β} :
    (x >>= f) = .ok b ↔ ∃ a, x = .ok a ∧ f a = .ok b := by
  cases x with
  | ok a => simp [bind, Except.bind]
  | error e => simp [bind, Except.bind]

lemma bind_eq_error {x : Except ε α} {f : α → Except ε β} {e : ε} :
    (x >>= f) = .error e ↔ x = .error e ∨ ∃ a, x = .ok a ∧ f a = .error e := by
  cases x with
  | ok a => simp [bind, Except.bind]
  | error e' => simp [bind, Except.bind]

@[simp] lemma ok_bind (a : α) (f : α → Except ε β) : ((.ok a : Except ε α) >>= f) = f a := rfl

@[simp] lemma pure_eq_ok (a : α) : (pure a : Except ε α) = .ok a := rfl

/-- Two decisions that thread a state come out well when both do, the second from where the first
one ends. -/
lemma threaded_eq_ok {σ : Type} {x : Except ε (α × σ)} {f : σ → Except ε (β × σ)} {g : α → β → γ}
    {c : γ} {s : σ} :
    (do
      let (a, t) ← x
      let (b, t) ← f t
      return (g a b, t)) = .ok (c, s) ↔
      ∃ a t b, x = .ok (a, t) ∧ f t = .ok (b, s) ∧ c = g a b := by
  simp only [bind_eq_ok]
  constructor
  · rintro ⟨⟨a, t⟩, ha, ⟨b, _⟩, hb, h⟩
    cases h
    exact ⟨a, t, b, ha, hb, rfl⟩
  · rintro ⟨a, t, b, ha, hb, rfl⟩
    exact ⟨(a, t), ha, (b, s), hb, rfl⟩

/-! ## Loops -/

lemma forM_cons (f : α → Except ε Unit) (a : α) (l : List α) :
    (a :: l).forM f = f a >>= fun _ => l.forM f := rfl

lemma forM_eq_ok {f : α → Except ε Unit} {l : List α} :
    l.forM f = .ok () ↔ ∀ a ∈ l, f a = .ok () := by
  induction l with
  | nil => simp
  | cons a l ih =>
    rw [forM_cons, bind_eq_ok]
    simp only [ih, List.mem_cons, forall_eq_or_imp]
    constructor
    · rintro ⟨⟨⟩, ha, hl⟩
      exact ⟨ha, hl⟩
    · rintro ⟨ha, hl⟩
      exact ⟨⟨⟩, ha, hl⟩

lemma mapM_cons_eq_ok {f : α → Except ε β} {a : α} {l : List α} {bs : List β} :
    (a :: l).mapM f = .ok bs ↔ ∃ b, f a = .ok b ∧ ∃ rest, l.mapM f = .ok rest ∧ bs = b :: rest := by
  simp only [List.mapM_cons, bind_eq_ok, pure_eq_ok, Except.ok.injEq, eq_comm (a := bs)]

/-- A loop whose passes all come out well returns what they return. -/
lemma mapM_eq_ok_map {f : α → Except ε β} {g : α → β} {l : List α}
    (h : ∀ a ∈ l, f a = .ok (g a)) : l.mapM f = .ok (l.map g) := by
  induction l with
  | nil => rfl
  | cons a rest ih =>
    obtain ⟨ha, hrest⟩ := List.forall_mem_cons.mp h
    rw [List.mapM_cons, ha, ih hrest]
    rfl

/-- A loop that came out well goes on with one more pass. -/
lemma mapM_snoc_eq_ok {f : α → Except ε β} {l : List α} {bs : List β} {a : α} {b : β}
    (hl : l.mapM f = .ok bs) (ha : f a = .ok b) : (l ++ [a]).mapM f = .ok (bs ++ [b]) := by
  rw [List.mapM_append, hl, ok_bind, List.mapM_cons, ha]
  rfl

/-- What a loop returns corresponds entry by entry to what it ran over. -/
lemma map_of_mapM_eq_ok {f : α → Except ε β} {g : β → γ} {h : α → γ}
    (hf : ∀ a b, f a = .ok b → g b = h a) {l : List α} {bs : List β}
    (hl : l.mapM f = .ok bs) : bs.map g = l.map h := by
  induction l generalizing bs with
  | nil =>
    have : bs = [] := by simpa [eq_comm] using hl
    simp [this]
  | cons a l ih =>
    obtain ⟨b, hb, rest, hrest, rfl⟩ := mapM_cons_eq_ok.mp hl
    rw [List.map_cons, List.map_cons, hf a b hb, ih hrest]

/-- What a loop returns was returned by one of its passes. -/
lemma mem_of_mapM_eq_ok {f : α → Except ε β} {l : List α} {bs : List β}
    (hl : l.mapM f = .ok bs) {b : β} (hb : b ∈ bs) : ∃ a ∈ l, f a = .ok b := by
  induction l generalizing bs with
  | nil =>
    have : bs = [] := by simpa [eq_comm] using hl
    simp [this] at hb
  | cons a l ih =>
    obtain ⟨made, hmade, rest, hrest, rfl⟩ := mapM_cons_eq_ok.mp hl
    rcases List.mem_cons.mp hb with rfl | hb
    · exact ⟨a, List.mem_cons_self, hmade⟩
    · obtain ⟨a', ha', hb⟩ := ih hrest hb
      exact ⟨a', List.mem_cons_of_mem _ ha', hb⟩

/-- What a loop returns holds of every value it returned on the way. -/
lemma forall_of_mapM_eq_ok {f : α → Except ε β} {p : β → Prop}
    (hf : ∀ a b, f a = .ok b → p b) {l : List α} {bs : List β}
    (hl : l.mapM f = .ok bs) : ∀ b ∈ bs, p b := by
  induction l generalizing bs with
  | nil =>
    have : bs = [] := by simpa [eq_comm] using hl
    simp [this]
  | cons a l ih =>
    obtain ⟨b, hb, rest, hrest, rfl⟩ := mapM_cons_eq_ok.mp hl
    simp only [List.mem_cons, forall_eq_or_imp]
    exact ⟨hf a b hb, ih hrest⟩

/-- A loop comes out well exactly if every pass does. -/
lemma exists_mapM_eq_ok {f : α → Except ε β} {l : List α} :
    (∃ bs, l.mapM f = .ok bs) ↔ ∀ a ∈ l, ∃ b, f a = .ok b := by
  induction l with
  | nil => simp
  | cons a l ih =>
    simp only [mapM_cons_eq_ok, List.mem_cons, forall_eq_or_imp, ← ih]
    constructor
    · rintro ⟨_, b, hb, rest, hrest, -⟩
      exact ⟨⟨b, hb⟩, rest, hrest⟩
    · rintro ⟨⟨b, hb⟩, rest, hrest⟩
      exact ⟨b :: rest, b, hb, rest, hrest, rfl⟩

/-- Loops whose passes return lists, up to the order in these. -/
lemma exists_mapM_flatten_perm {f : α → Except ε (List β)}
    {g : α → List β} {l : List α} (h : ∀ a ∈ l, ∃ bs, f a = .ok bs ∧ bs.Perm (g a)) :
    ∃ parts, l.mapM f = .ok parts ∧ parts.flatten.Perm (l.flatMap g) := by
  induction l with
  | nil => exact ⟨[], rfl, .refl _⟩
  | cons a rest ih =>
    obtain ⟨⟨bs, hbs, hperm⟩, hrest⟩ := List.forall_mem_cons.mp h
    obtain ⟨parts, hparts, hparts_perm⟩ := ih hrest
    exact ⟨bs :: parts, mapM_cons_eq_ok.mpr ⟨bs, hbs, parts, hparts, rfl⟩,
      hperm.append hparts_perm⟩

/-- A fold that comes out well keeps what each of its steps keeps. -/
lemma foldlM_eq_ok_induct {f : β → α → Except ε β} {p : β → Prop}
    (hf : ∀ b a b', p b → f b a = .ok b' → p b') {l : List α} {b b' : β}
    (hb : p b) (hl : l.foldlM f b = .ok b') : p b' := by
  induction l generalizing b with
  | nil =>
    have : b = b' := by simpa using hl
    exact this ▸ hb
  | cons a l ih =>
    simp only [List.foldlM_cons, bind_eq_ok] at hl
    obtain ⟨c, hc, hl⟩ := hl
    exact ih (hf b a c hb hc) hl

end Decision
end EntityGate
