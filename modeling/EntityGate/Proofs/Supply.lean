/-
# The values of a test

What is bound for the literals of a test.  The literals are checked together, as one list, and the
value that the closure was shown is what comes out of the check.  A test for membership binds just
that value.  Any other test hands out its items to the literals one after the other, a value that
is no list being its own only item, and a literal for which no item is left is bound as it was
sent.

So every value that is bound comes out of the check exactly if the items reach for all literals, or
those beyond happen to be among the items.  Where a hook shortens the list, the literals beyond it
are bound though no hook has seen them.
-/
import EntityGate.Proofs.Mirroring

namespace EntityGate

open Decision EntityGate.Bound

/-! ## Items for literals -/

namespace Checked

/-- The literals take the values in order, and those beyond stay as they are. -/
lemma literals_supply (values : List Json) (arguments : List CheckedArgument) :
    literals (supply values arguments) =
      values.take (literals arguments).length ++ (literals arguments).drop values.length := by
  induction arguments generalizing values with
  | nil => simp [supply, literals]
  | cons a rest ih =>
    cases a with
    | literal v =>
      rw [supply, literals, literals, ih]
      cases values with
      | nil => simp
      | cons first others => simp
    | nested c =>
      rw [supply, literals, literals, ih]

lemma literals_filter_isCondition (arguments : List CheckedArgument) :
    literals (arguments.filter CheckedArgument.isCondition) = [] := by
  induction arguments with
  | nil => rfl
  | cons a rest ih =>
    cases a with
    | literal v => exact ih
    | nested c => exact ih

end Checked

namespace Leaf

/-- What is bound for the literals of a test that have come to a value. -/
def boundFor (l : Leaf) (value : Json) : List Json :=
  if l.operator.isMembership then [.arr (Checked.flattenOnce value.toItems)]
  else
    value.toItems.take (Checked.literals l.arguments).length ++
      (Checked.literals l.arguments).drop value.toItems.length

lemma literals_supplied (l : Leaf) (value : Json) :
    Checked.literals (l.supplied value) = l.boundFor value := by
  rw [supplied, boundFor]
  split
  · rw [Checked.literals, Checked.literals_filter_isCondition]
  · exact Checked.literals_supply value.toItems l.arguments

/-- Whether something that is bound for a test comes out of the value of its literals: an item of
the value, or for membership its items in one list. -/
def ComesFrom (l : Leaf) (value v : Json) : Prop :=
  if l.operator.isMembership then v = .arr (Checked.flattenOnce value.toItems)
  else v ∈ value.toItems

/-- Whether the items of a value reach for the literals of a test, or else hold those beyond. -/
def Covered (l : Leaf) (value : Json) : Prop :=
  l.operator.isMembership = true ∨
    ∀ v ∈ (Checked.literals l.arguments).drop value.toItems.length, v ∈ value.toItems

lemma covered_iff {l : Leaf} {value : Json} :
    l.Covered value ↔ ∀ v ∈ l.boundFor value, l.ComesFrom value v := by
  by_cases hmembership : l.operator.isMembership = true
  · simp [Covered, boundFor, ComesFrom, hmembership]
  · have hitems : ∀ v ∈ value.toItems.take (Checked.literals l.arguments).length,
        v ∈ value.toItems := fun v => List.mem_of_mem_take
    simp only [Covered, boundFor, ComesFrom, hmembership, false_or, if_false, Bool.false_eq_true,
      List.forall_mem_append]
    exact ⟨fun h => ⟨hitems, h⟩, fun h => h.2⟩

end Leaf

namespace Predicate

/-- The parameters that stand as operands of a test, in order. -/
def parameters (p : Predicate) : List String :=
  p.operands.filterMap fun
    | .param name => some name
    | _ => none

/-- What the parameters of a test hold. -/
def values (bound : Bound) (p : Predicate) : List (Option Json) :=
  p.parameters.map fun name => (named frontEnd bound).lookup name

end Predicate

lemma CheckedArgument.values_of_held {bound : Bound} {arguments : List CheckedArgument}
    {p : Predicate} (h : List.Forall₂ (Held bound) arguments p.operands) :
    p.values bound = (Checked.literals arguments).map some := by
  obtain ⟨field, operator, operands⟩ := p
  dsimp only at h
  induction h with
  | nil => rfl
  | cons hfirst _ ih =>
    cases hfirst with
    | literal v i hvalue =>
      rw [Checked.literals, List.map_cons, ← ih, ← hvalue, ← lookup_named frontEnd]
      rfl
    | nested c e htests => exact ih

/-! ## The values of built tests -/

/-- A test that is built with what its check came to: what its parameters hold, and when all of it
comes out of the check. -/
structure Leaf.Settled (registry : Registry) (node : Node) (ctx : Context) (bound : Bound)
    (l : Leaf) (p : Predicate) (value : Json) : Prop where
  field : p.field = l.field
  operator : p.operator = l.operator
  /-- The value has passed the mutation and the closure, and the operator is granted. -/
  passes : l.Passes registry node ctx value
  values : p.values bound = (l.boundFor value).map some
  verdict : (∀ held ∈ p.values bound, ∃ v, held = some v ∧ l.ComesFrom value v) ↔ l.Covered value

/-- Every test that is built, at any depth, binds what its check came to, item by item, and the
literals for which no item is left; so all that it binds comes out of the check exactly if the
items cover the literals. -/
theorem Checked.literals_take_items {registry : Registry} {node : Node} {ctx : Context}
    {bound after : Bound} {cs : List Checked} {clause : Option Expr}
    (h : buildAll registry node ctx bound cs = .ok (clause, after)) :
    ∃ predicates, Expr.clauseAtoms clause = predicates.map .test ∧
      List.Forall₂ (fun l p => ∃ value, l.Settled registry node ctx after p value)
        (itemLeaves cs) predicates := by
  obtain ⟨predicates, hatoms, hbuilt⟩ := buildAll_realized h
  refine ⟨predicates, hatoms, hbuilt.imp fun l p hp => ?_⟩
  obtain ⟨value, hpasses, hheld⟩ := hp.operands
  have hvalues : p.values after = (l.boundFor value).map some := by
    rw [CheckedArgument.values_of_held hheld, Leaf.literals_supplied]
  refine ⟨value, hp.field, hp.operator, hpasses, hvalues, ?_⟩
  rw [hvalues, Leaf.covered_iff]
  simp

/-- A test as a condition of its own. -/
def Leaf.alone (l : Leaf) : Checked := .leaf .and l.field l.operator l.arguments

namespace Checked

/-- A node that puts one year in the place of the years that a client sends. -/
def fixedYear : Node :=
  { (default : Node) with
    permissive := some (.literal (.bool true))
    fields := .ofList [("t.year", { (default : Layer) with
      hooks := { (default : Hooks) with mutate := some (.literal (.int 5)) } })] }

/-- The context of a call without params and options. -/
def bareContext : Context := .ofCall .null .null .null .null

/-- A test for one year. -/
def oneYear : Leaf := ⟨"t.year", .eq, [.literal (.int 1)]⟩

/-- A test for a range of years. -/
def yearRange : Leaf := ⟨"t.year", .between, [.literal (.int 1), .literal (.int 100)]⟩

/-- The one year that is sent is replaced, and nothing else is bound. -/
theorem oneYear_replaced : ∃ clause after p,
    buildAll .standard fixedYear bareContext [] [oneYear.alone] = .ok (clause, after) ∧
    Expr.clauseAtoms clause = [.test p] ∧
    oneYear.Settled .standard fixedYear bareContext after p (.int 5) ∧
    p.values after = [some (.int 5)] ∧ oneYear.Covered (.int 5) := by
  have hbuilds : ∃ clause after,
      buildAll .standard fixedYear bareContext [] [oneYear.alone] = .ok (clause, after) :=
    ⟨_, _, rfl⟩
  obtain ⟨clause, after, hbuild⟩ := hbuilds
  obtain ⟨predicates, hatoms, hsettled⟩ := literals_take_items hbuild
  obtain ⟨p, _, ⟨value, hvalue⟩, hrest, rfl⟩ := List.forall₂_cons_left_iff.mp hsettled
  cases List.forall₂_nil_left_iff.mp hrest
  have hfive : authorize .standard fixedYear bareContext oneYear.field oneYear.operator
      oneYear.arguments = .ok (.int 5) := rfl
  have hsame : value = .int 5 :=
    Except.ok.inj ((authorize_eq_ok.mpr hvalue.passes).symm.trans hfive)
  subst hsame
  refine ⟨clause, after, p, hbuild, hatoms, hvalue, hvalue.values, .inr fun v hv => ?_⟩
  cases hv

/-- Of a range of years only the first is replaced.  The second is bound as it was sent, though all
that comes out of the check is the one year of the node. -/
theorem yearRange_escapes : ∃ clause after p,
    buildAll .standard fixedYear bareContext [] [yearRange.alone] = .ok (clause, after) ∧
    Expr.clauseAtoms clause = [.test p] ∧
    p.values after = [some (.int 5), some (.int 100)] ∧
    ∀ value, yearRange.Passes .standard fixedYear bareContext value →
      value = .int 5 ∧ ¬ yearRange.ComesFrom value (.int 100) := by
  have hfive : authorize .standard fixedYear bareContext yearRange.field yearRange.operator
      yearRange.arguments = .ok (.int 5) := rfl
  refine ⟨_, _, _, rfl, rfl, rfl, fun value hvalue => ?_⟩
  have hsame : value = .int 5 :=
    Except.ok.inj ((authorize_eq_ok.mpr hvalue).symm.trans hfive)
  subst hsame
  refine ⟨rfl, fun hcomes => ?_⟩
  have hmem : Json.int 100 ∈ [Json.int 5] := hcomes
  simp [Json.int] at hmem

end Checked

end EntityGate
