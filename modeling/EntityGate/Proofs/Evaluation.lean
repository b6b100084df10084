/-
# What a condition reads

Whether an expression holds of a row depends on the query only through the alias of its root and
through the parameters that the expression names: as operands, or in trusted text after a colon.
So queries that agree on these agree on the expression.  An expression at the end of a
conjunction or of a disjunction is looked at last, and only where what is before it does not
decide; so a condition stays true as conjuncts are taken away from its end.
-/
import EntityGate.Proofs.Decision
import EntityGate.Store.Evaluate

namespace EntityGate

namespace Expr

/-- The parameter that a trusted text refers to, the text after a colon. -/
def referred? (text : String) : Option String :=
  match text.toList with
  | ':' :: name => some (String.ofList name)
  | _ => none

mutual
/-- The parameters that the trusted texts of an expression refer to, in order. -/
def textNames : Expr → List String
  | fragment _ => []
  | predicate _ _ arguments => operandTextNames arguments
  | and items => itemTextNames items
  | or items => itemTextNames items

/-- The parameters that the trusted texts among some operands refer to. -/
def operandTextNames : List Operand → List String
  | [] => []
  | .param _ :: rest => operandTextNames rest
  | .fragment text :: rest => (referred? text).toList ++ operandTextNames rest
  | .expr e :: rest => textNames e ++ operandTextNames rest

/-- The parameters that the trusted texts of some expressions refer to. -/
def itemTextNames : List Expr → List String
  | [] => []
  | e :: rest => textNames e ++ itemTextNames rest
end

end Expr

namespace QuerySpec

/-! ## Queries that agree -/

/-- Two queries agree on some names if these are bound alike and the roots have one alias. -/
structure AgreeOn (q q' : QuerySpec) (names : List String) : Prop where
  root : q.rootAlias = q'.rootAlias
  bound : ∀ name ∈ names, q.parameter? name = q'.parameter? name

variable {q q' : QuerySpec} {row : Json}

lemma AgreeOn.mono {names more : List String} (h : q.AgreeOn q' more)
    (hsub : ∀ name ∈ names, name ∈ more) : q.AgreeOn q' names :=
  ⟨h.root, fun name hname => h.bound name (hsub name hname)⟩

lemma AgreeOn.left {names more : List String} (h : q.AgreeOn q' (names ++ more)) :
    q.AgreeOn q' names :=
  h.mono fun _ hname => List.mem_append_left _ hname

lemma AgreeOn.right {names more : List String} (h : q.AgreeOn q' (names ++ more)) :
    q.AgreeOn q' more :=
  h.mono fun _ hname => List.mem_append_right _ hname

lemma column?_congr (h : q.rootAlias = q'.rootAlias) (field : String) :
    q.column? field = q'.column? field := by
  simp only [column?, h]

lemma boundValue_congr {name : String} (h : q.parameter? name = q'.parameter? name) :
    q.boundValue name = q'.boundValue name := by
  simp only [boundValue, h]

lemma textValue_congr {text : String} (h : q.AgreeOn q' (Expr.referred? text).toList) :
    q.textValue row text = q'.textValue row text := by
  unfold textValue
  split
  · rename_i name hname
    refine boundValue_congr (h.bound _ ?_)
    simp [Expr.referred?, hname]
  · rw [column?_congr h.root]

/-- Queries that agree on the names in some operands give them the same values. -/
lemma operandValues_congr {arguments : List Operand}
    (hp : q.AgreeOn q' (Expr.operandNames arguments))
    (ht : q.AgreeOn q' (Expr.operandTextNames arguments)) :
    arguments.mapM (q.operandValue row) = arguments.mapM (q'.operandValue row) := by
  induction arguments with
  | nil => rfl
  | cons argument rest ih =>
    rw [List.mapM_cons, List.mapM_cons]
    cases argument with
    | param name =>
      have hname : q.parameter? name = q'.parameter? name :=
        hp.bound name (by simp [Expr.operandNames])
      have hrest := ih (hp.mono fun _ h => by simp [Expr.operandNames, h]) ht
      rw [operandValue, operandValue, boundValue_congr hname, hrest]
    | fragment text =>
      have htext : q.textValue row text = q'.textValue row text := textValue_congr ht.left
      have hrest := ih hp ht.right
      rw [operandValue, operandValue, htext, hrest]
    | expr e =>
      -- a nested expression is refused without a look at the query
      rfl

mutual
/-- Queries that agree on the names in an expression agree on whether it holds. -/
theorem holds_congr : (e : Expr) → q.AgreeOn q' e.parameterNames → q.AgreeOn q' e.textNames →
    q.holds row e = q'.holds row e
  | .fragment _, _, _ => rfl
  | .predicate field op arguments, hp, ht => by
    rw [holds, holds, column?_congr hp.root, operandValues_congr hp ht]
  | .and items, hp, ht => by rw [holds, holds, holdsAll_congr items hp ht]
  | .or items, hp, ht => by rw [holds, holds, holdsSome_congr items hp ht]

theorem holdsAll_congr : (items : List Expr) → q.AgreeOn q' (Expr.parameterNamesItems items) →
    q.AgreeOn q' (Expr.itemTextNames items) → q.holdsAll row items = q'.holdsAll row items
  | [], _, _ => rfl
  | e :: rest, hp, ht => by
    rw [holdsAll, holdsAll, holds_congr e hp.left ht.left,
      holdsAll_congr rest hp.right ht.right]

theorem holdsSome_congr : (items : List Expr) → q.AgreeOn q' (Expr.parameterNamesItems items) →
    q.AgreeOn q' (Expr.itemTextNames items) → q.holdsSome row items = q'.holdsSome row items
  | [], _, _ => rfl
  | e :: rest, hp, ht => by
    rw [holdsSome, holdsSome, holds_congr e hp.left ht.left,
      holdsSome_congr rest hp.right ht.right]
end

end QuerySpec

/-! ## Answers -/

/-- What is answered to a question about a row, unless no answer can be given. -/
abbrev Answer : Type := Except String Bool

namespace Answer

/-- Yes if both questions are answered so; the second is not put where the first one decides. -/
def andThen (a b : Answer) : Answer := do
  if ← a then b else return false

/-- Yes if one of the questions is answered so; the second is not put where the first one
decides. -/
def orElse (a b : Answer) : Answer := do
  if ← a then return true else b

lemma andThen_assoc (a b c : Answer) : andThen (andThen a b) c = andThen a (andThen b c) := by
  rcases a with e | _ | _ <;> rfl

lemma orElse_assoc (a b c : Answer) : orElse (orElse a b) c = orElse a (orElse b c) := by
  rcases a with e | _ | _ <;> rfl

lemma andThen_true (a : Answer) : andThen a (.ok true) = a := by
  rcases a with e | _ | _ <;> rfl

lemma orElse_false (a : Answer) : orElse a (.ok false) = a := by
  rcases a with e | _ | _ <;> rfl

lemma andThen_eq_true {a b : Answer} : andThen a b = .ok true ↔ a = .ok true ∧ b = .ok true := by
  rcases a with e | _ | _ <;> simp [andThen, bind, Except.bind, pure, Except.pure]

end Answer

/-! ## Conjunctions and disjunctions -/

namespace QuerySpec

variable {q : QuerySpec} {row : Json}

lemma holdsAll_cons (e : Expr) (rest : List Expr) :
    q.holdsAll row (e :: rest) = Answer.andThen (q.holds row e) (q.holdsAll row rest) := by
  rw [holdsAll, Answer.andThen]

lemma holdsSome_cons (e : Expr) (rest : List Expr) :
    q.holdsSome row (e :: rest) = Answer.orElse (q.holds row e) (q.holdsSome row rest) := by
  rw [holdsSome, Answer.orElse]

lemma holdsAll_append (items more : List Expr) :
    q.holdsAll row (items ++ more) =
      Answer.andThen (q.holdsAll row items) (q.holdsAll row more) := by
  induction items with
  | nil => rw [holdsAll]; rfl
  | cons e items ih =>
    rw [List.cons_append, holdsAll_cons, holdsAll_cons, ih, Answer.andThen_assoc]

lemma holdsSome_append (items more : List Expr) :
    q.holdsSome row (items ++ more) =
      Answer.orElse (q.holdsSome row items) (q.holdsSome row more) := by
  induction items with
  | nil => rw [holdsSome]; rfl
  | cons e items ih =>
    rw [List.cons_append, holdsSome_cons, holdsSome_cons, ih, Answer.orElse_assoc]

/-- An expression that is put at the end of a conjunction is looked at after it. -/
theorem holds_andThen (acc e : Expr) :
    q.holds row (acc.andThen e) = Answer.andThen (q.holds row acc) (q.holds row e) := by
  have hone : q.holdsAll row [e] = q.holds row e := by
    rw [holdsAll_cons, holdsAll, Answer.andThen_true]
  unfold Expr.andThen
  split
  · rw [holds, holds, holdsAll_append, hone]
  · rw [holds, holdsAll_cons, hone]

/-- An expression that is put at the end of a disjunction is looked at after it. -/
theorem holds_orElse (acc e : Expr) :
    q.holds row (acc.orElse e) = Answer.orElse (q.holds row acc) (q.holds row e) := by
  have hone : q.holdsSome row [e] = q.holds row e := by
    rw [holdsSome_cons, holdsSome, Answer.orElse_false]
  unfold Expr.orElse
  split
  · rw [holds, holds, holdsSome_append, hone]
  · rw [holds, holdsSome_cons, hone]

/-- A narrowed clause holds of no row of which the clause does not hold. -/
theorem clauseHolds_of_narrow {clause added : Option Expr}
    (h : q.clauseHolds row (Expr.narrow clause added) = .ok true) :
    q.clauseHolds row clause = .ok true := by
  cases added with
  | none => exact h
  | some e =>
    cases clause with
    | none => rfl
    | some acc =>
      have hboth : Answer.andThen (q.holds row acc) (q.holds row e) = .ok true := by
        rw [← holds_andThen]
        exact h
      exact (Answer.andThen_eq_true.mp hboth).1

end QuerySpec

end EntityGate
