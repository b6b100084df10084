/-
# Which conditions are built

The second pass over front-end conditions puts every test before its permissions.  The tests of a
condition are listed here with those inside groups and inside arguments.  An expression is built if
and only if each of them is permitted, whatever was bound before, and it has just these tests.
-/
import EntityGate.Proofs.Compilation
import EntityGate.Proofs.Grants

namespace EntityGate

open Decision

/-! ## Tests -/

/-- A test of a field, with the literals it was sent with. -/
structure FieldTest where
  field : String
  operator : Operator
  literals : List Json

namespace FieldTest

/-- The field and the operator of a test. -/
def key (t : FieldTest) : String × Operator := (t.field, t.operator)

/-- Whether the layers of a node permit a test. -/
def Permitted (registry : Registry) (node : Node) (ctx : Context) (t : FieldTest) : Prop :=
  ∃ after, Permission.Permits registry node.toLayer (node.field? t.field) .operators
    t.operator.name (.arr t.literals) (Checked.testContext ctx t.field t.operator) after

end FieldTest

/-- Whether the layers of a node permit all of some tests. -/
def AllPermitted (registry : Registry) (node : Node) (ctx : Context) (tests : List FieldTest) :
    Prop :=
  ∀ t ∈ tests, t.Permitted registry node ctx

lemma allPermitted_nil {registry : Registry} {node : Node} {ctx : Context} :
    AllPermitted registry node ctx [] := by
  simp [AllPermitted]

lemma allPermitted_append {registry : Registry} {node : Node} {ctx : Context}
    {tests more : List FieldTest} :
    AllPermitted registry node ctx (tests ++ more) ↔
      AllPermitted registry node ctx tests ∧ AllPermitted registry node ctx more :=
  List.forall_mem_append

lemma allPermitted_cons {registry : Registry} {node : Node} {ctx : Context} {t : FieldTest}
    {tests : List FieldTest} :
    AllPermitted registry node ctx (t :: tests) ↔
      t.Permitted registry node ctx ∧ AllPermitted registry node ctx tests :=
  List.forall_mem_cons

namespace Checked

mutual
/-- The tests of a condition at every depth, in order. -/
def tests : Checked → List FieldTest
  | leaf _ field operator arguments =>
    ⟨field, operator, literals arguments⟩ :: argumentTests arguments
  | group _ _ conditions => itemTests conditions

/-- The tests of some conditions. -/
def itemTests : List Checked → List FieldTest
  | [] => []
  | c :: rest => tests c ++ itemTests rest

/-- The tests inside some arguments. -/
def argumentTests : List CheckedArgument → List FieldTest
  | [] => []
  | .literal _ :: rest => argumentTests rest
  | .nested c :: rest => tests c ++ argumentTests rest
end

mutual
/-- The tests that are counted are those that are listed. -/
theorem length_tests : (c : Checked) → c.tests.length = c.leafCount
  | .leaf _ _ _ arguments => by
    rw [tests, leafCount, List.length_cons, length_argumentTests arguments, Nat.add_comm]
  | .group _ _ conditions => by
    rw [tests, leafCount, length_itemTests conditions]

theorem length_itemTests : (cs : List Checked) → (itemTests cs).length = leafCountItems cs
  | [] => rfl
  | c :: rest => by
    rw [itemTests, leafCountItems, List.length_append, length_tests c, length_itemTests rest]

theorem length_argumentTests : (arguments : List CheckedArgument) →
    (argumentTests arguments).length = leafCountArguments arguments
  | [] => rfl
  | .literal _ :: rest => by
    rw [argumentTests, leafCountArguments, length_argumentTests rest]
  | .nested c :: rest => by
    rw [argumentTests, leafCountArguments, List.length_append, length_tests c,
      length_argumentTests rest]
end

end Checked

namespace Expr

mutual
/-- The fields and operators of the tests in an expression at every depth, in order. -/
def tests : Expr → List (String × Operator)
  | fragment _ => []
  | predicate field operator arguments => (field, operator) :: testsOfOperands arguments
  | and items => testsOfItems items
  | or items => testsOfItems items

/-- The tests inside some operands. -/
def testsOfOperands : List Operand → List (String × Operator)
  | [] => []
  | .param _ :: rest => testsOfOperands rest
  | .fragment _ :: rest => testsOfOperands rest
  | .expr e :: rest => tests e ++ testsOfOperands rest

/-- The tests of some expressions. -/
def testsOfItems : List Expr → List (String × Operator)
  | [] => []
  | e :: rest => tests e ++ testsOfItems rest
end

/-- The tests of a clause, none if it is absent. -/
def clauseTests : Option Expr → List (String × Operator)
  | none => []
  | some e => e.tests

lemma clauseTests_eq_elim (clause : Option Expr) :
    clauseTests clause = clause.elim [] tests := by
  cases clause <;> rfl

lemma itemwise_tests : Itemwise tests := by
  have hitems : ∀ items, testsOfItems items = items.flatMap tests := by
    intro items
    induction items with
    | nil => rfl
    | cons e rest ih => rw [testsOfItems, ih, List.flatMap_cons]
  exact ⟨hitems, hitems⟩

lemma tests_join (before : Option Expr) (e : Expr) (connective : Connective) :
    (join before e connective).tests = clauseTests before ++ e.tests := by
  rw [clauseTests_eq_elim]
  exact itemwise_tests.join before e connective

/-- A narrowed clause has the tests of both clauses. -/
lemma clauseTests_narrow (clause more : Option Expr) :
    clauseTests (narrow clause more) = clauseTests clause ++ clauseTests more := by
  simp only [clauseTests_eq_elim]
  exact itemwise_tests.narrow clause more

end Expr

/-! ## Building -/

namespace Checked

variable {registry : Registry} {node : Node} {ctx : Context}

/-- The literals of a test are authorized exactly if the test is permitted. -/
lemma authorize_eq_ok {field : String} {operator : Operator} {arguments : List CheckedArgument}
    {value : Json} :
    authorize registry node ctx field operator arguments = .ok value ↔
      Permission.Permits registry node.toLayer (node.field? field) .operators operator.name
        (.arr (literals arguments)) (testContext ctx field operator) value := by
  rw [← Permission.check_eq_allowed, authorize]
  constructor
  · intro h
    obtain ⟨⟨allowed, vetoed, after⟩, hverdict, h⟩ := bind_eq_ok.mp h
    cases vetoed with
    | true => cases h
    | false =>
      cases allowed with
      | false => cases h
      | true =>
        cases h
        exact hverdict
  · intro h
    exact bind_eq_ok.mpr ⟨_, h, rfl⟩

lemma buildItems_cons_eq_ok {bound after : Bound} {c : Checked} {rest : List Checked}
    {es : List Expr} :
    buildItems registry node ctx bound (c :: rest) = .ok (es, after) ↔
      ∃ e between others, build registry node ctx bound c = .ok (e, between) ∧
        buildItems registry node ctx between rest = .ok (others, after) ∧ es = e :: others := by
  rw [buildItems]
  exact threaded_eq_ok (f := fun b => buildItems registry node ctx b rest)
    (g := List.cons)

lemma buildNested_cons_eq_ok {bound after : Bound} {c : Checked} {rest : List CheckedArgument}
    {operands : List Operand} :
    buildNested registry node ctx bound (.nested c :: rest) = .ok (operands, after) ↔
      ∃ e between others, build registry node ctx bound c = .ok (e, between) ∧
        buildNested registry node ctx between rest = .ok (others, after) ∧
        operands = .expr e :: others := by
  rw [buildNested]
  exact threaded_eq_ok (f := fun b => buildNested registry node ctx b rest)
    (g := fun e others => .expr e :: others)

lemma buildOperands_literal_eq_ok {bound after : Bound} {values : List Json} {v : Json}
    {rest : List CheckedArgument} {operands : List Operand} :
    buildOperands registry node ctx bound values (.literal v :: rest) = .ok (operands, after) ↔
      ∃ others, buildOperands registry node ctx (bound ++ [values.headD v]) values.tail rest =
          .ok (others, after) ∧
        operands = .param (Bound.paramName Bound.frontEnd bound.length) :: others := by
  rw [buildOperands]
  constructor
  · intro h
    obtain ⟨⟨others, _⟩, hothers, h⟩ := bind_eq_ok.mp h
    cases h
    exact ⟨others, hothers, rfl⟩
  · rintro ⟨others, hothers, rfl⟩
    exact bind_eq_ok.mpr ⟨(others, after), hothers, rfl⟩

lemma buildOperands_nested_eq_ok {bound after : Bound} {values : List Json} {c : Checked}
    {rest : List CheckedArgument} {operands : List Operand} :
    buildOperands registry node ctx bound values (.nested c :: rest) = .ok (operands, after) ↔
      ∃ e between others, build registry node ctx bound c = .ok (e, between) ∧
        buildOperands registry node ctx between values rest = .ok (others, after) ∧
        operands = .expr e :: others := by
  rw [buildOperands]
  exact threaded_eq_ok (f := fun b => buildOperands registry node ctx b values rest)
    (g := fun e others => .expr e :: others)

mutual
/-- An expression is built from permitted tests only, and has just these tests. -/
theorem build_sound : (c : Checked) → ∀ {bound after : Bound} {e : Expr},
    build registry node ctx bound c = .ok (e, after) →
      AllPermitted registry node ctx c.tests ∧ e.tests = c.tests.map FieldTest.key
  | .group _ operator conditions, bound, after, e, h => by
    rw [build] at h
    obtain ⟨⟨items, _⟩, hitems, h⟩ := bind_eq_ok.mp h
    have hsound := buildItems_sound conditions hitems
    cases h
    rw [tests]
    split <;> exact hsound
  | .leaf _ field operator arguments, bound, after, e, h => by
    rw [build] at h
    obtain ⟨value, hvalue, h⟩ := bind_eq_ok.mp h
    have htest : FieldTest.Permitted registry node ctx ⟨field, operator, literals arguments⟩ :=
      ⟨value, authorize_eq_ok.mp hvalue⟩
    rw [tests, allPermitted_cons, List.map_cons]
    split at h
    · obtain ⟨⟨operands, _⟩, hoperands, h⟩ := bind_eq_ok.mp h
      obtain ⟨hpermitted, htests⟩ := buildNested_sound arguments hoperands
      cases h
      exact ⟨⟨htest, hpermitted⟩, congrArg ((field, operator) :: ·) htests⟩
    · obtain ⟨⟨operands, _⟩, hoperands, h⟩ := bind_eq_ok.mp h
      obtain ⟨hpermitted, htests⟩ := buildOperands_sound arguments hoperands
      cases h
      exact ⟨⟨htest, hpermitted⟩, congrArg ((field, operator) :: ·) htests⟩

theorem buildItems_sound : (cs : List Checked) → ∀ {bound after : Bound} {es : List Expr},
    buildItems registry node ctx bound cs = .ok (es, after) →
      AllPermitted registry node ctx (itemTests cs) ∧
        Expr.testsOfItems es = (itemTests cs).map FieldTest.key
  | [], bound, after, es, h => by
    cases h
    exact ⟨allPermitted_nil, rfl⟩
  | c :: rest, bound, after, es, h => by
    obtain ⟨e, between, others, he, hothers, rfl⟩ := buildItems_cons_eq_ok.mp h
    obtain ⟨hpermitted, htests⟩ := build_sound c he
    obtain ⟨hmore, hmoreTests⟩ := buildItems_sound rest hothers
    rw [itemTests, allPermitted_append, Expr.testsOfItems, htests, hmoreTests, List.map_append]
    exact ⟨⟨hpermitted, hmore⟩, rfl⟩

theorem buildNested_sound : (arguments : List CheckedArgument) →
    ∀ {bound after : Bound} {operands : List Operand},
    buildNested registry node ctx bound arguments = .ok (operands, after) →
      AllPermitted registry node ctx (argumentTests arguments) ∧
        Expr.testsOfOperands operands = (argumentTests arguments).map FieldTest.key
  | [], bound, after, operands, h => by
    cases h
    exact ⟨allPermitted_nil, rfl⟩
  | .literal _ :: rest, bound, after, operands, h => by
    rw [argumentTests]
    rw [buildNested] at h
    exact buildNested_sound rest h
  | .nested c :: rest, bound, after, operands, h => by
    obtain ⟨e, between, others, he, hothers, rfl⟩ := buildNested_cons_eq_ok.mp h
    obtain ⟨hpermitted, htests⟩ := build_sound c he
    obtain ⟨hmore, hmoreTests⟩ := buildNested_sound rest hothers
    rw [argumentTests, allPermitted_append, Expr.testsOfOperands, htests, hmoreTests,
      List.map_append]
    exact ⟨⟨hpermitted, hmore⟩, rfl⟩

theorem buildOperands_sound : (arguments : List CheckedArgument) →
    ∀ {bound after : Bound} {values : List Json} {operands : List Operand},
    buildOperands registry node ctx bound values arguments = .ok (operands, after) →
      AllPermitted registry node ctx (argumentTests arguments) ∧
        Expr.testsOfOperands operands = (argumentTests arguments).map FieldTest.key
  | [], bound, after, values, operands, h => by
    cases h
    exact ⟨allPermitted_nil, rfl⟩
  | .literal v :: rest, bound, after, values, operands, h => by
    obtain ⟨others, hothers, rfl⟩ := buildOperands_literal_eq_ok.mp h
    rw [argumentTests, Expr.testsOfOperands]
    exact buildOperands_sound rest hothers
  | .nested c :: rest, bound, after, values, operands, h => by
    obtain ⟨e, between, others, he, hothers, rfl⟩ := buildOperands_nested_eq_ok.mp h
    obtain ⟨hpermitted, htests⟩ := build_sound c he
    obtain ⟨hmore, hmoreTests⟩ := buildOperands_sound rest hothers
    rw [argumentTests, allPermitted_append, Expr.testsOfOperands, htests, hmoreTests,
      List.map_append]
    exact ⟨⟨hpermitted, hmore⟩, rfl⟩
end

mutual
/-- A condition whose tests are permitted is built, whatever was bound before. -/
theorem build_complete : (c : Checked) → ∀ bound : Bound,
    AllPermitted registry node ctx c.tests →
      ∃ e after, build registry node ctx bound c = .ok (e, after)
  | .group _ operator conditions, bound, h => by
    rw [tests] at h
    obtain ⟨items, after, hitems⟩ := buildItems_complete conditions bound h
    rw [build]
    exact ⟨_, after, bind_eq_ok.mpr ⟨(items, after), hitems, rfl⟩⟩
  | .leaf _ field operator arguments, bound, h => by
    rw [tests, allPermitted_cons] at h
    obtain ⟨⟨value, hvalue⟩, hmore⟩ := h
    rw [build]
    by_cases hmembership : operator.isMembership = true
    · obtain ⟨operands, after, hoperands⟩ := buildNested_complete arguments
        (bound ++ [.arr (flattenOnce value.toItems)]) hmore
      refine ⟨.predicate field operator (.param (Bound.paramName Bound.frontEnd bound.length) ::
        operands), after, bind_eq_ok.mpr ⟨value, authorize_eq_ok.mpr hvalue, ?_⟩⟩
      rw [if_pos hmembership]
      exact bind_eq_ok.mpr ⟨(operands, after), hoperands, rfl⟩
    · obtain ⟨operands, after, hoperands⟩ :=
        buildOperands_complete arguments bound value.toItems hmore
      refine ⟨.predicate field operator operands, after,
        bind_eq_ok.mpr ⟨value, authorize_eq_ok.mpr hvalue, ?_⟩⟩
      rw [if_neg hmembership]
      exact bind_eq_ok.mpr ⟨(operands, after), hoperands, rfl⟩

theorem buildItems_complete : (cs : List Checked) → ∀ bound : Bound,
    AllPermitted registry node ctx (itemTests cs) →
      ∃ es after, buildItems registry node ctx bound cs = .ok (es, after)
  | [], bound, _ => ⟨[], bound, rfl⟩
  | c :: rest, bound, h => by
    rw [itemTests, allPermitted_append] at h
    obtain ⟨e, between, he⟩ := build_complete c bound h.1
    obtain ⟨others, after, hothers⟩ := buildItems_complete rest between h.2
    exact ⟨e :: others, after, buildItems_cons_eq_ok.mpr ⟨e, between, others, he, hothers, rfl⟩⟩

theorem buildNested_complete : (arguments : List CheckedArgument) → ∀ bound : Bound,
    AllPermitted registry node ctx (argumentTests arguments) →
      ∃ operands after, buildNested registry node ctx bound arguments = .ok (operands, after)
  | [], bound, _ => ⟨[], bound, rfl⟩
  | .literal _ :: rest, bound, h => by
    rw [argumentTests] at h
    rw [buildNested]
    exact buildNested_complete rest bound h
  | .nested c :: rest, bound, h => by
    rw [argumentTests, allPermitted_append] at h
    obtain ⟨e, between, he⟩ := build_complete c bound h.1
    obtain ⟨others, after, hothers⟩ := buildNested_complete rest between h.2
    exact ⟨.expr e :: others, after,
      buildNested_cons_eq_ok.mpr ⟨e, between, others, he, hothers, rfl⟩⟩

theorem buildOperands_complete : (arguments : List CheckedArgument) → ∀ (bound : Bound)
    (values : List Json), AllPermitted registry node ctx (argumentTests arguments) →
      ∃ operands after,
        buildOperands registry node ctx bound values arguments = .ok (operands, after)
  | [], bound, _, _ => ⟨[], bound, rfl⟩
  | .literal v :: rest, bound, values, h => by
    rw [argumentTests] at h
    obtain ⟨others, after, hothers⟩ :=
      buildOperands_complete rest (bound ++ [values.headD v]) values.tail h
    exact ⟨_, after, buildOperands_literal_eq_ok.mpr ⟨others, hothers, rfl⟩⟩
  | .nested c :: rest, bound, values, h => by
    rw [argumentTests, allPermitted_append] at h
    obtain ⟨e, between, he⟩ := build_complete c bound h.1
    obtain ⟨others, after, hothers⟩ := buildOperands_complete rest between values h.2
    exact ⟨.expr e :: others, after,
      buildOperands_nested_eq_ok.mpr ⟨e, between, others, he, hothers, rfl⟩⟩
end

/-- What conditions make of a clause that has begun. -/
def buildFrom (registry : Registry) (node : Node) (ctx : Context) (acc : Option Expr)
    (bound : Bound) : List Checked → Except Fault (Option Expr × Bound)
  | [] => .ok (acc, bound)
  | c :: rest => do
    let (e, bound) ← build registry node ctx bound c
    buildFrom registry node ctx (some (Expr.join acc e c.connective)) bound rest

lemma buildAll_eq_buildFrom (bound : Bound) (cs : List Checked) :
    buildAll registry node ctx bound cs = buildFrom registry node ctx none bound cs := by
  rw [buildAll]
  generalize (none : Option Expr) = acc
  induction cs generalizing acc bound with
  | nil => rfl
  | cons c rest ih =>
    simp only [List.foldlM_cons, buildFrom, bind_assoc]
    refine bind_congr fun made => ?_
    exact ih made.2 (some (Expr.join acc made.1 c.connective))

lemma buildFrom_sound {cs : List Checked} {acc clause : Option Expr} {bound after : Bound}
    (h : buildFrom registry node ctx acc bound cs = .ok (clause, after)) :
    AllPermitted registry node ctx (itemTests cs) ∧
      Expr.clauseTests clause = Expr.clauseTests acc ++ (itemTests cs).map FieldTest.key := by
  induction cs generalizing acc bound with
  | nil =>
    cases h
    exact ⟨allPermitted_nil, (List.append_nil _).symm⟩
  | cons c rest ih =>
    rw [buildFrom] at h
    obtain ⟨⟨e, between⟩, he, h⟩ := bind_eq_ok.mp h
    obtain ⟨hpermitted, htests⟩ := build_sound c he
    obtain ⟨hmore, hmoreTests⟩ := ih h
    rw [itemTests, allPermitted_append, hmoreTests, Expr.clauseTests, Expr.tests_join, htests,
      List.map_append, List.append_assoc]
    exact ⟨⟨hpermitted, hmore⟩, rfl⟩

lemma buildFrom_complete {cs : List Checked} (h : AllPermitted registry node ctx (itemTests cs))
    (acc : Option Expr) (bound : Bound) :
    ∃ clause after, buildFrom registry node ctx acc bound cs = .ok (clause, after) := by
  induction cs generalizing acc bound with
  | nil => exact ⟨acc, bound, rfl⟩
  | cons c rest ih =>
    rw [itemTests, allPermitted_append] at h
    obtain ⟨e, between, he⟩ := build_complete c bound h.1
    obtain ⟨clause, after, hclause⟩ := ih h.2 (some (Expr.join acc e c.connective)) between
    rw [buildFrom]
    exact ⟨clause, after, bind_eq_ok.mpr ⟨(e, between), he, hclause⟩⟩

/-- A clause is built from permitted tests only, and has just these tests. -/
theorem buildAll_sound {cs : List Checked} {clause : Option Expr} {bound after : Bound}
    (h : buildAll registry node ctx bound cs = .ok (clause, after)) :
    AllPermitted registry node ctx (itemTests cs) ∧
      Expr.clauseTests clause = (itemTests cs).map FieldTest.key := by
  rw [buildAll_eq_buildFrom] at h
  exact buildFrom_sound h

/-- A clause whose tests are permitted is built. -/
theorem buildAll_complete {cs : List Checked}
    (h : AllPermitted registry node ctx (itemTests cs)) (bound : Bound) :
    ∃ clause after, buildAll registry node ctx bound cs = .ok (clause, after) := by
  rw [buildAll_eq_buildFrom]
  exact buildFrom_complete h none bound

end Checked

end EntityGate
