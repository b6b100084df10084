/-
# What is built mirrors what was sent

The second pass over front-end conditions, said without a pass: the tests of an expression in
preorder are those of the conditions in preorder, and nothing else stands in it.  Each test keeps
its field and its operator.  Its operands stand for its arguments one by one, a parameter for a
literal and an expression for a condition; a test for membership has a parameter for all of its
literals, and then the conditions.

The parameters of a test hold the value that its permission check came to, item by item.  The check
sees all literals of a test as one list, and a hook may put any value in its place, so the two need
not be of one length: where the items run out, the rest of the literals stay as they were sent.
-/
import EntityGate.Proofs.Numbering

namespace EntityGate

open Decision EntityGate.Bound

/-! ## Tests in preorder -/

/-- A test of a field as it was sent. -/
structure Leaf where
  field : String
  operator : Operator
  arguments : List CheckedArgument

/-- The test with its literals only. -/
def Leaf.test (l : Leaf) : FieldTest := ⟨l.field, l.operator, Checked.literals l.arguments⟩

/-- A test of a field as it stands in an expression. -/
structure Predicate where
  field : String
  operator : Operator
  operands : List Operand

/-- What an expression consists of, apart from conjunctions and disjunctions. -/
inductive Atom where
  /-- Text of the configuration, as an expression or as an operand. -/
  | text (s : String)
  | test (p : Predicate)

namespace Checked

mutual
/-- The tests of a condition in preorder, those inside arguments included. -/
def leaves : Checked → List Leaf
  | leaf _ field operator arguments => ⟨field, operator, arguments⟩ :: argumentLeaves arguments
  | group _ _ conditions => itemLeaves conditions

/-- The tests of some conditions. -/
def itemLeaves : List Checked → List Leaf
  | [] => []
  | c :: rest => leaves c ++ itemLeaves rest

/-- The tests inside some arguments. -/
def argumentLeaves : List CheckedArgument → List Leaf
  | [] => []
  | .literal _ :: rest => argumentLeaves rest
  | .nested c :: rest => leaves c ++ argumentLeaves rest
end

mutual
/-- The tests in preorder are those that are listed by field, operator and literals. -/
theorem map_leaves : (c : Checked) → c.leaves.map Leaf.test = c.tests
  | .leaf _ field operator arguments => by
    rw [leaves, tests, List.map_cons, map_argumentLeaves arguments]
    rfl
  | .group _ _ conditions => by
    rw [leaves, tests, map_itemLeaves conditions]

theorem map_itemLeaves : (cs : List Checked) → (itemLeaves cs).map Leaf.test = itemTests cs
  | [] => rfl
  | c :: rest => by
    rw [itemLeaves, itemTests, List.map_append, map_leaves c, map_itemLeaves rest]

theorem map_argumentLeaves : (arguments : List CheckedArgument) →
    (argumentLeaves arguments).map Leaf.test = argumentTests arguments
  | [] => rfl
  | .literal _ :: rest => by
    rw [argumentLeaves, argumentTests, map_argumentLeaves rest]
  | .nested c :: rest => by
    rw [argumentLeaves, argumentTests, List.map_append, map_leaves c, map_argumentLeaves rest]
end

/-- The tests that are counted are those in preorder. -/
lemma length_itemLeaves (cs : List Checked) : (itemLeaves cs).length = leafCountItems cs := by
  rw [← length_itemTests, ← map_itemLeaves, List.length_map]

end Checked

namespace Expr

mutual
/-- The atoms of an expression in preorder, those inside operands included. -/
def atoms : Expr → List Atom
  | fragment text => [.text text]
  | predicate field operator operands =>
    .test ⟨field, operator, operands⟩ :: atomsOfOperands operands
  | and items => atomsOfItems items
  | or items => atomsOfItems items

/-- The atoms inside some operands. -/
def atomsOfOperands : List Operand → List Atom
  | [] => []
  | .param _ :: rest => atomsOfOperands rest
  | .fragment text :: rest => .text text :: atomsOfOperands rest
  | .expr e :: rest => atoms e ++ atomsOfOperands rest

/-- The atoms of some expressions. -/
def atomsOfItems : List Expr → List Atom
  | [] => []
  | e :: rest => atoms e ++ atomsOfItems rest
end

/-- The atoms of a clause, none if it is absent. -/
def clauseAtoms : Option Expr → List Atom
  | none => []
  | some e => e.atoms

lemma clauseAtoms_eq_elim (clause : Option Expr) :
    clauseAtoms clause = clause.elim [] atoms := by
  cases clause <;> rfl

lemma itemwise_atoms : Itemwise atoms := by
  have hitems : ∀ items, atomsOfItems items = items.flatMap atoms := by
    intro items
    induction items with
    | nil => rfl
    | cons e rest ih => rw [atomsOfItems, ih, List.flatMap_cons]
  exact ⟨hitems, hitems⟩

lemma atoms_join (before : Option Expr) (e : Expr) (connective : Connective) :
    (join before e connective).atoms = clauseAtoms before ++ e.atoms := by
  rw [clauseAtoms_eq_elim]
  exact itemwise_atoms.join before e connective

/-- A narrowed clause consists of both clauses. -/
lemma clauseAtoms_narrow (clause more : Option Expr) :
    clauseAtoms (narrow clause more) = clauseAtoms clause ++ clauseAtoms more := by
  simp only [clauseAtoms_eq_elim]
  exact itemwise_atoms.narrow clause more

end Expr

/-! ## Operands -/

namespace CheckedArgument

/-- Whether an argument is a condition. -/
def isCondition : CheckedArgument → Bool
  | literal _ => false
  | nested _ => true

/-- An operand that stands for an argument: a parameter for a literal, and for a condition an
expression with its tests. -/
inductive Mirrored : CheckedArgument → Operand → Prop
  | literal (v : Json) (name : String) : Mirrored (.literal v) (.param name)
  | nested (c : Checked) (e : Expr) (htests : e.tests = c.tests.map FieldTest.key) :
      Mirrored (.nested c) (.expr e)

/-- An operand that stands for an argument, where the parameter for a literal holds the literal. -/
inductive Held (bound : Bound) : CheckedArgument → Operand → Prop
  | literal (v : Json) (i : Nat) (hvalue : bound[i]? = some v) :
      Held bound (.literal v) (.param (paramName frontEnd i))
  | nested (c : Checked) (e : Expr) (htests : e.tests = c.tests.map FieldTest.key) :
      Held bound (.nested c) (.expr e)

lemma Held.mono {bound after : Bound} (hle : bound <+: after) {a : CheckedArgument} {o : Operand}
    (h : Held bound a o) : Held after a o := by
  cases h with
  | literal v i hvalue =>
    obtain ⟨more, rfl⟩ := hle
    have hi : i < bound.length := (List.getElem?_eq_some_iff.mp hvalue).1
    exact .literal v i (by rw [List.getElem?_append_left hi, hvalue])
  | nested c e htests => exact .nested c e htests

lemma Held.mirrored {bound : Bound} {a : CheckedArgument} {o : Operand} (h : Held bound a o) :
    Mirrored a o := by
  cases h with
  | literal v i hvalue => exact .literal v _
  | nested c e htests => exact .nested c e htests

end CheckedArgument

namespace Checked

/-- Arguments whose literals are replaced by some values, as far as these go. -/
def supply : List Json → List CheckedArgument → List CheckedArgument
  | _, [] => []
  | values, .literal v :: rest => .literal (values.headD v) :: supply values.tail rest
  | values, .nested c :: rest => .nested c :: supply values rest

end Checked

namespace Leaf

/-- The arguments of a test once its literals have been checked and come to a value. -/
def supplied (l : Leaf) (value : Json) : List CheckedArgument :=
  if l.operator.isMembership then
    .literal (.arr (Checked.flattenOnce value.toItems)) ::
      l.arguments.filter CheckedArgument.isCondition
  else Checked.supply value.toItems l.arguments

/-- Whether the permissions of a node let the literals of a test pass, and as what. -/
def Passes (registry : Registry) (node : Node) (ctx : Context) (l : Leaf) (value : Json) : Prop :=
  Permission.Permits registry node.toLayer (node.field? l.field) .operators l.operator.name
    (.arr (Checked.literals l.arguments)) (Checked.testContext ctx l.field l.operator) value

/-- A test that is built: its field, its operator, and its arguments with the value that its
permission check came to. -/
structure Built (registry : Registry) (node : Node) (ctx : Context) (bound : Bound) (l : Leaf)
    (p : Predicate) : Prop where
  field : p.field = l.field
  operator : p.operator = l.operator
  operands : ∃ value, l.Passes registry node ctx value ∧
    List.Forall₂ (CheckedArgument.Held bound) (l.supplied value) p.operands

/-- An atom that is a built test. -/
def BuiltAtom (registry : Registry) (node : Node) (ctx : Context) (bound : Bound) (l : Leaf) :
    Atom → Prop
  | .text _ => False
  | .test p => l.Built registry node ctx bound p

variable {registry : Registry} {node : Node} {ctx : Context} {bound after : Bound}

lemma Built.mono (hle : bound <+: after) {l : Leaf} {p : Predicate}
    (h : l.Built registry node ctx bound p) : l.Built registry node ctx after p := by
  obtain ⟨value, hpasses, hoperands⟩ := h.operands
  exact ⟨h.field, h.operator, value, hpasses, hoperands.imp fun _ _ => .mono hle⟩

lemma BuiltAtom.mono (hle : bound <+: after) {l : Leaf} {a : Atom}
    (h : l.BuiltAtom registry node ctx bound a) : l.BuiltAtom registry node ctx after a := by
  cases a with
  | text s => exact h
  | test p => exact Built.mono hle h

end Leaf

/-! ## Building -/

namespace Checked

variable {registry : Registry} {node : Node} {ctx : Context}

/-- The leaves of some conditions and the atoms that are built for them, one by one. -/
def Realized (registry : Registry) (node : Node) (ctx : Context) (bound : Bound)
    (leaves : List Leaf) (atoms : List Atom) : Prop :=
  List.Forall₂ (Leaf.BuiltAtom registry node ctx bound) leaves atoms

lemma Realized.mono {bound after : Bound} (hle : bound <+: after) {leaves : List Leaf}
    {atoms : List Atom} (h : Realized registry node ctx bound leaves atoms) :
    Realized registry node ctx after leaves atoms :=
  h.imp fun _ _ => .mono hle

lemma Realized.append {bound : Bound} {leaves more : List Leaf} {atoms others : List Atom}
    (h : Realized registry node ctx bound leaves atoms)
    (hmore : Realized registry node ctx bound more others) :
    Realized registry node ctx bound (leaves ++ more) (atoms ++ others) :=
  List.rel_append h hmore

mutual
/-- The tests of a condition are built one by one, and nothing besides. -/
theorem build_realized : (c : Checked) → ∀ {bound after : Bound} {e : Expr},
    build registry node ctx bound c = .ok (e, after) →
      Realized registry node ctx after c.leaves e.atoms
  | .group _ operator conditions, bound, after, e, h => by
    rw [build] at h
    obtain ⟨⟨items, _⟩, hitems, h⟩ := bind_eq_ok.mp h
    have hrealized := buildItems_realized conditions hitems
    cases h
    split <;> exact hrealized
  | .leaf _ field operator arguments, bound, after, e, h => by
    rw [build] at h
    obtain ⟨value, hvalue, h⟩ := bind_eq_ok.mp h
    have hpasses : Leaf.Passes registry node ctx ⟨field, operator, arguments⟩ value :=
      authorize_eq_ok.mp hvalue
    rw [leaves]
    split at h
    · rename_i hmembership
      obtain ⟨⟨operands, _⟩, hoperands, h⟩ := bind_eq_ok.mp h
      obtain ⟨hinner, hheld⟩ := buildNested_realized arguments hoperands
      obtain ⟨more, hafter, -⟩ := buildNested_names arguments hoperands
      cases h
      refine .cons ⟨rfl, rfl, value, hpasses, ?_⟩ hinner
      -- the list is bound first, and stays where it is whatever the conditions bind after it
      rw [Leaf.supplied, if_pos hmembership]
      refine .cons (.literal _ bound.length ?_) hheld
      rw [hafter]
      simp
    · rename_i hmembership
      obtain ⟨⟨operands, _⟩, hoperands, h⟩ := bind_eq_ok.mp h
      obtain ⟨hinner, hheld⟩ := buildOperands_realized arguments hoperands
      cases h
      refine .cons ⟨rfl, rfl, value, hpasses, ?_⟩ hinner
      rw [Leaf.supplied, if_neg hmembership]
      exact hheld

theorem buildItems_realized : (cs : List Checked) → ∀ {bound after : Bound} {es : List Expr},
    buildItems registry node ctx bound cs = .ok (es, after) →
      Realized registry node ctx after (itemLeaves cs) (Expr.atomsOfItems es)
  | [], bound, after, es, h => by
    cases h
    exact .nil
  | c :: rest, bound, after, es, h => by
    obtain ⟨e, between, others, he, hothers, rfl⟩ := buildItems_cons_eq_ok.mp h
    have hle : between <+: after := (buildItems_names rest hothers).le
    exact ((build_realized c he).mono hle).append (buildItems_realized rest hothers)

theorem buildNested_realized : (arguments : List CheckedArgument) →
    ∀ {bound after : Bound} {operands : List Operand},
    buildNested registry node ctx bound arguments = .ok (operands, after) →
      Realized registry node ctx after (argumentLeaves arguments) (Expr.atomsOfOperands operands) ∧
        List.Forall₂ (CheckedArgument.Held after) (arguments.filter CheckedArgument.isCondition)
          operands
  | [], bound, after, operands, h => by
    cases h
    exact ⟨.nil, .nil⟩
  | .literal _ :: rest, bound, after, operands, h => by
    rw [buildNested] at h
    exact buildNested_realized rest h
  | .nested c :: rest, bound, after, operands, h => by
    obtain ⟨e, between, others, he, hothers, rfl⟩ := buildNested_cons_eq_ok.mp h
    have hle : between <+: after := (buildNested_names rest hothers).le
    obtain ⟨hmore, hheld⟩ := buildNested_realized rest hothers
    exact ⟨((build_realized c he).mono hle).append hmore,
      .cons (.nested c e (build_sound c he).2) hheld⟩

theorem buildOperands_realized : (arguments : List CheckedArgument) →
    ∀ {bound after : Bound} {values : List Json} {operands : List Operand},
    buildOperands registry node ctx bound values arguments = .ok (operands, after) →
      Realized registry node ctx after (argumentLeaves arguments) (Expr.atomsOfOperands operands) ∧
        List.Forall₂ (CheckedArgument.Held after) (supply values arguments) operands
  | [], bound, after, values, operands, h => by
    cases h
    exact ⟨.nil, .nil⟩
  | .literal v :: rest, bound, after, values, operands, h => by
    obtain ⟨others, hothers, rfl⟩ := buildOperands_literal_eq_ok.mp h
    obtain ⟨hmore, hheld⟩ := buildOperands_realized rest hothers
    obtain ⟨more, hafter, -⟩ := buildOperands_names rest hothers
    refine ⟨hmore, .cons (.literal _ bound.length ?_) hheld⟩
    rw [hafter]
    simp
  | .nested c :: rest, bound, after, values, operands, h => by
    obtain ⟨e, between, others, he, hothers, rfl⟩ := buildOperands_nested_eq_ok.mp h
    have hle : between <+: after := (buildOperands_names rest hothers).le
    obtain ⟨hmore, hheld⟩ := buildOperands_realized rest hothers
    exact ⟨((build_realized c he).mono hle).append hmore,
      .cons (.nested c e (build_sound c he).2) hheld⟩
end

lemma buildFrom_realized {cs : List Checked} {acc clause : Option Expr} {bound after : Bound}
    (h : buildFrom registry node ctx acc bound cs = .ok (clause, after)) :
    ∃ atoms, Expr.clauseAtoms clause = Expr.clauseAtoms acc ++ atoms ∧
      Realized registry node ctx after (itemLeaves cs) atoms := by
  induction cs generalizing acc bound with
  | nil =>
    cases h
    exact ⟨[], (List.append_nil _).symm, .nil⟩
  | cons c rest ih =>
    rw [buildFrom] at h
    obtain ⟨⟨e, between⟩, he, h⟩ := bind_eq_ok.mp h
    obtain ⟨atoms, hatoms, hrealized⟩ := ih h
    obtain ⟨names, hnumbered, -⟩ := buildFrom_names h
    -- the values of the first condition stay bound while the others are built
    refine ⟨e.atoms ++ atoms, ?_, ((build_realized c he).mono hnumbered.le).append hrealized⟩
    rw [hatoms, Expr.clauseAtoms, Expr.atoms_join, List.append_assoc]

lemma Realized.exists_predicates {bound : Bound} {leaves : List Leaf} {atoms : List Atom}
    (h : Realized registry node ctx bound leaves atoms) :
    ∃ predicates, atoms = predicates.map .test ∧
      List.Forall₂ (Leaf.Built registry node ctx bound) leaves predicates := by
  induction h with
  | nil => exact ⟨[], rfl, .nil⟩
  | @cons l a _ _ hfirst _ ih =>
    obtain ⟨predicates, rfl, hrest⟩ := ih
    cases a with
    | text s => exact hfirst.elim
    | test p => exact ⟨p :: predicates, rfl, .cons hfirst hrest⟩

/-- The tests of conditions are built one by one, and the clause consists of nothing else. -/
theorem buildAll_realized {cs : List Checked} {clause : Option Expr} {bound after : Bound}
    (h : buildAll registry node ctx bound cs = .ok (clause, after)) :
    ∃ predicates, Expr.clauseAtoms clause = predicates.map .test ∧
      List.Forall₂ (Leaf.Built registry node ctx after) (itemLeaves cs) predicates := by
  rw [buildAll_eq_buildFrom] at h
  obtain ⟨atoms, hatoms, hrealized⟩ := buildFrom_realized h
  obtain ⟨predicates, rfl, hbuilt⟩ := hrealized.exists_predicates
  exact ⟨predicates, hatoms, hbuilt⟩

end Checked

/-! ## Counting -/

/-- A test that mirrors the one that was sent, argument by argument. -/
structure Leaf.Mirrors (l : Leaf) (p : Predicate) : Prop where
  field : p.field = l.field
  operator : p.operator = l.operator
  operands : l.operator.isMembership = false →
    List.Forall₂ CheckedArgument.Mirrored l.arguments p.operands
  /-- A test for membership takes its literals together as one, in front. -/
  members : l.operator.isMembership = true → ∃ name operands,
    p.operands = .param name :: operands ∧ List.Forall₂ CheckedArgument.Mirrored
      (l.arguments.filter CheckedArgument.isCondition) operands

lemma CheckedArgument.mirrored_of_supply {arguments : List CheckedArgument} {values : List Json}
    {operands : List Operand}
    (h : List.Forall₂ Mirrored (Checked.supply values arguments) operands) :
    List.Forall₂ Mirrored arguments operands := by
  induction arguments generalizing values operands with
  | nil => exact h
  | cons a rest ih =>
    cases a with
    | literal v =>
      cases h with
      | cons hfirst hrest =>
        cases hfirst
        exact .cons (.literal v _) (ih hrest)
    | nested c =>
      cases h with
      | cons hfirst hrest => exact .cons hfirst (ih hrest)

lemma Leaf.Built.mirrors {registry : Registry} {node : Node} {ctx : Context} {bound : Bound}
    {l : Leaf} {p : Predicate} (h : l.Built registry node ctx bound p) : l.Mirrors p := by
  obtain ⟨value, -, hheld⟩ := h.operands
  have hmirrored : List.Forall₂ CheckedArgument.Mirrored (l.supplied value) p.operands :=
    hheld.imp fun _ _ ho => ho.mirrored
  rw [supplied] at hmirrored
  refine ⟨h.field, h.operator, fun hother => ?_, fun hmembership => ?_⟩
  · rw [if_neg (by simp [hother])] at hmirrored
    exact CheckedArgument.mirrored_of_supply hmirrored
  · rw [if_pos hmembership] at hmirrored
    obtain ⟨o, operands, hfirst, hrest, hoperands⟩ := List.forall₂_cons_left_iff.mp hmirrored
    cases hfirst with
    | literal _ name => exact ⟨name, operands, hoperands, hrest⟩

/-- What is built for conditions mirrors their tests one by one, as many as are counted. -/
lemma Checked.buildAll_mirrors {registry : Registry} {node : Node} {ctx : Context}
    {bound after : Bound} {cs : List Checked} {clause : Option Expr}
    (h : buildAll registry node ctx bound cs = .ok (clause, after)) :
    ∃ predicates, Expr.clauseAtoms clause = predicates.map .test ∧
      List.Forall₂ Leaf.Mirrors (itemLeaves cs) predicates ∧
      predicates.length = leafCountItems cs := by
  obtain ⟨predicates, hatoms, hbuilt⟩ := buildAll_realized h
  refine ⟨predicates, hatoms, hbuilt.imp fun _ _ hp => hp.mirrors, ?_⟩
  rw [← hbuilt.length_eq, length_itemLeaves]

namespace Compile

lemma count_le_of_checkParamCount {registry : Registry} {r : ReadRequest} {checked : CheckedQuery}
    {max : Nat} (h : checkParamCount registry r checked = .ok ())
    (hmax : Resolve.findNat? registry r.ctx "queryMaxParams" (r.layers "queryMaxParams") =
      .ok (some max)) :
    checked.leafCount + r.frontEnd.query.placeholders.size ≤ max := by
  rw [checkParamCount, hmax, ok_bind] at h
  dsimp only at h
  split at h
  · cases h
  · rename_i hcount
    exact Nat.le_of_not_lt hcount

/-- Where conditions are built, the tests in the clause mirror theirs one by one in preorder, each
with its field, its operator and its arguments, and nothing else stands in the clause.  So where a
query compiles below a limit for its params, the tests that the front end adds to both clauses,
together with its placeholders, keep to the limit. -/
theorem tests_keep_to_limit :
    (∀ (registry : Registry) (node : Node) (ctx : Context) (bound after : Bound)
        (cs : List Checked) (clause : Option Expr),
      Checked.buildAll registry node ctx bound cs = .ok (clause, after) →
        ∃ predicates, Expr.clauseAtoms clause = predicates.map .test ∧
          List.Forall₂ Leaf.Mirrors (Checked.itemLeaves cs) predicates ∧
          predicates.length = Checked.leafCountItems cs) ∧
    ∀ (registry : Registry) (r : ReadRequest) (q : QuerySpec) (max : Nat),
      (compile registry r).outcome.1 = .ok q →
      Resolve.findNat? registry r.ctx "queryMaxParams" (r.layers "queryMaxParams") =
        .ok (some max) →
      ∃ checked base configured conditions having,
        CheckedQuery.of r.frontEnd.query = .ok checked ∧
        baseQuery registry r = .ok (base, configured) ∧
        Expr.clauseAtoms q.conditions =
          Expr.clauseAtoms base.conditions ++ conditions.map .test ∧
        Expr.clauseAtoms q.having = Expr.clauseAtoms base.having ++ having.map .test ∧
        List.Forall₂ Leaf.Mirrors (Checked.itemLeaves checked.conditions) conditions ∧
        List.Forall₂ Leaf.Mirrors (Checked.itemLeaves checked.having) having ∧
        conditions.length + having.length + r.frontEnd.query.placeholders.size ≤ max := by
  refine ⟨fun registry node ctx bound after cs clause h => Checked.buildAll_mirrors h,
    fun registry r q max hq hmax => ?_⟩
  obtain ⟨checked, base, configured, authorized, hresolving, hauthorizing, hassembling⟩ :=
    compile_eq_ok.mp hq
  obtain ⟨hchecked, hcount, hbase⟩ := resolving_eq_ok.mp hresolving
  obtain ⟨backEnd, frontEnd, front, bound, frontHaving, bound', orders, -, -, hfront, hfrontHaving,
    -, -, rfl⟩ := authorizing_eq_ok.mp hauthorizing
  obtain ⟨limit, offset, shaping, rfl, -⟩ := assembling_eq_ok hassembling
  obtain ⟨conditions, hconditions, hmirrors, hlength⟩ := Checked.buildAll_mirrors hfront
  obtain ⟨having, hhaving, hmirrors', hlength'⟩ := Checked.buildAll_mirrors hfrontHaving
  refine ⟨checked, base, configured, conditions, having, hchecked, hbase, ?_, ?_, hmirrors,
    hmirrors', ?_⟩
  · rw [← hconditions]
    exact Expr.clauseAtoms_narrow base.conditions front
  · rw [← hhaving]
    exact Expr.clauseAtoms_narrow base.having frontHaving
  · rw [hlength, hlength']
    exact count_le_of_checkParamCount hcount hmax

/-- A test of the year that a client writes into an argument. -/
def yearArgument : Json := .ofFields [("operator", .str "isNull"), ("field", .str "t.year")]

/-- A test for membership with that test among its arguments. -/
def labelCondition : Condition :=
  ⟨some "t.label", .and, "in", [.str "blue", yearArgument, .str "red"], []⟩

/-- A request with that condition and a placeholder, for at most three params. -/
def labelRequest : ReadRequest where
  entityType := "album"
  config := openAlbums
  frontEnd := { (default : FrontEndOptions) with
    query := { (default : FrontEndQuery) with
      conditions := [labelCondition]
      placeholders := .ofList [("you", ⟨.str "bob", none⟩)] } }
  overrides := (default : CallOptions).withOption "queryMaxParams" (.literal (.nat 3))
  ctx := .ofCall .null .null .null .null

/-- Its conditions after the structural checks. -/
def labelChecked : List Checked :=
  [.leaf .and "t.label" .isIn [.literal (.str "blue"), .nested (.leaf .and "t.year" .isNull []),
    .literal (.str "red")]]

lemma labelRequest_checks :
    CheckedQuery.of labelRequest.frontEnd.query = .ok ⟨labelChecked, [], [], []⟩ := by
  have hdepth : labelCondition.argumentDepth = 3 := rfl
  have hwritten : Condition.isNested yearArgument = true := rfl
  have hread : Condition.ofJson? yearArgument = some ⟨some "t.year", .and, "isNull", [], []⟩ := rfl
  simp only [CheckedQuery.of, labelRequest, Condition.check, List.mapM_cons, hdepth]
  simp only [labelCondition, Condition.checkWithin, Condition.checkArguments, hwritten, hread,
    if_true]
  rfl

/-- Its two tests are built one by one, and with its placeholder they just keep to the limit. -/
theorem labelRequest_keeps :
    (∃ clause after predicates,
      Checked.buildAll .standard permissiveNode labelRequest.ctx [] labelChecked =
        .ok (clause, after) ∧
      Expr.clauseAtoms clause = predicates.map .test ∧
      List.Forall₂ Leaf.Mirrors (Checked.itemLeaves labelChecked) predicates ∧
      predicates.length = 2) ∧
    ∃ q conditions, (compile .standard labelRequest).outcome.1 = .ok q ∧
      Expr.clauseAtoms q.conditions = conditions.map .test ∧
      List.Forall₂ Leaf.Mirrors (Checked.itemLeaves labelChecked) conditions ∧
      conditions.length + 1 ≤ 3 := by
  obtain ⟨hkept, hlimit⟩ := tests_keep_to_limit
  constructor
  · have hbuilds : ∃ clause after,
        Checked.buildAll .standard permissiveNode labelRequest.ctx [] labelChecked =
          .ok (clause, after) := ⟨_, _, rfl⟩
    obtain ⟨clause, after, hbuild⟩ := hbuilds
    obtain ⟨predicates, hatoms, hmirrors, hlength⟩ := hkept _ _ _ _ _ _ _ hbuild
    exact ⟨clause, after, predicates, hbuild, hatoms, hmirrors, hlength⟩
  · have hcompiles : ∃ q, (compile .standard labelRequest).outcome.1 = .ok q :=
      ⟨_, compile_eq_ok.mpr ⟨_, _, _, _, resolving_eq_ok.mpr ⟨labelRequest_checks, rfl, rfl⟩, rfl,
        rfl⟩⟩
    obtain ⟨q, hq⟩ := hcompiles
    obtain ⟨checked, base, configured, conditions, having, hchecked, hbase, hatoms, -, hmirrors, -,
      hcount⟩ := hlimit .standard labelRequest q 3 hq rfl
    rw [labelRequest_checks] at hchecked
    cases hchecked
    cases hbase
    have hplaceholders : labelRequest.frontEnd.query.placeholders.size = 1 := rfl
    exact ⟨q, conditions, hq, hatoms, hmirrors, by omega⟩

end Compile

end EntityGate
