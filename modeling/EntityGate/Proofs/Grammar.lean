/-
# The grammar of filters

Which conditions the structural pass accepts, said without a pass: an operator of the closed set,
and with it either conditions that are in the grammar themselves, or a field of two names and a
fitting number of arguments, where an argument that is written like a condition is one of the
grammar.

The pass counts how deep it may still go, and a condition inside an argument is read out of a value
first.  What is read out of a value is not nested more deeply than the value, so the count that the
pass begins with suffices, and no condition of the grammar is refused for its depth.

What is malformed is refused before anything is looked up in the configuration.  So a client learns
the same of it whatever the configuration is.
-/
import EntityGate.Proofs.Compilation
import EntityGate.Proofs.Depth

namespace EntityGate

open Decision

/-! ## Fields -/

namespace Text

/-- A run of word characters that is not empty. -/
def IsRun (cs : List Char) : Prop := cs ≠ [] ∧ ∀ c ∈ cs, isWord c = true

lemma IsRun.notMem_dot {cs : List Char} (h : IsRun cs) : '.' ∉ cs := by
  intro hdot
  have hword : isWord '.' = true := h.2 '.' hdot
  have hnot : isWord '.' = false := by decide
  rw [hnot] at hword
  cases hword

variable {separator : Char} {cs piece other : List Char}

lemma splitChars_of_notMem (h : separator ∉ cs) : splitChars separator cs = [cs] := by
  induction cs with
  | nil => rfl
  | cons c rest ih =>
    rw [List.mem_cons, not_or] at h
    rw [splitChars, ih h.2]
    exact if_neg (Ne.symm h.1)

/-- The first piece of a text ends before the first separator. -/
lemma splitChars_append (h : separator ∉ cs) (rest : List Char) :
    splitChars separator (cs ++ separator :: rest) = cs :: splitChars separator rest := by
  induction cs with
  | nil =>
    obtain ⟨first, pieces, hrest⟩ := List.exists_cons_of_ne_nil (splitChars_ne_nil separator rest)
    rw [List.nil_append, splitChars, hrest]
    exact if_pos rfl
  | cons c cs ih =>
    rw [List.mem_cons, not_or] at h
    rw [List.cons_append, splitChars, ih h.2]
    exact if_neg (Ne.symm h.1)

lemma eq_of_splitChars_eq_single (h : splitChars separator cs = [piece]) :
    cs = piece ∧ separator ∉ piece := by
  by_cases hmem : separator ∈ cs
  · obtain ⟨front, back, rfl, hfront⟩ := List.eq_append_cons_of_mem hmem
    rw [splitChars_append hfront] at h
    exact absurd (List.cons.inj h).2 (splitChars_ne_nil separator back)
  · rw [splitChars_of_notMem hmem] at h
    cases h
    exact ⟨rfl, hmem⟩

/-- A text has two pieces exactly if the separator occurs once, between them. -/
lemma splitChars_eq_pair : splitChars separator cs = [piece, other] ↔
    cs = piece ++ separator :: other ∧ separator ∉ piece ∧ separator ∉ other := by
  constructor
  · intro h
    by_cases hmem : separator ∈ cs
    · obtain ⟨front, back, rfl, hfront⟩ := List.eq_append_cons_of_mem hmem
      rw [splitChars_append hfront] at h
      obtain ⟨rfl, hback⟩ := List.cons.inj h
      obtain ⟨rfl, hother⟩ := eq_of_splitChars_eq_single hback
      exact ⟨rfl, hfront, hother⟩
    · rw [splitChars_of_notMem hmem] at h
      cases h
  · rintro ⟨rfl, hpiece, hother⟩
    rw [splitChars_append hpiece, splitChars_of_notMem hother]

end Text

namespace Field

/-- A field that is written as two runs of word characters with a dot in between. -/
def WellFormed (field : String) : Prop :=
  ∃ scope column, Text.IsRun scope ∧ Text.IsRun column ∧ field.toList = scope ++ '.' :: column

lemma isQualified_iff {field : String} : isQualified field = true ↔ WellFormed field := by
  rw [isQualified]
  constructor
  · intro h
    split at h
    · rename_i scope column hpieces
      obtain ⟨hfield, -, -⟩ := Text.splitChars_eq_pair.mp hpieces
      simp only [Bool.and_eq_true, Bool.not_eq_true', List.isEmpty_eq_false_iff,
        List.all_eq_true] at h
      obtain ⟨⟨⟨hscope, hscopeWord⟩, hcolumn⟩, hcolumnWord⟩ := h
      exact ⟨scope, column, ⟨hscope, hscopeWord⟩, ⟨hcolumn, hcolumnWord⟩, hfield⟩
    · cases h
  · rintro ⟨scope, column, hscope, hcolumn, hfield⟩
    have hpieces := Text.splitChars_eq_pair.mpr ⟨hfield, hscope.notMem_dot, hcolumn.notMem_dot⟩
    rw [hpieces]
    simpa [Text.IsRun, and_assoc] using And.intro hscope hcolumn

lemma verify_eq_ok {field : String} : verify field = .ok () ↔ WellFormed field := by
  rw [verify, ← isQualified_iff]
  cases isQualified field <;> simp

end Field

/-! ## Operators -/

namespace Operator

lemma ofName?_eq_some {s : String} {operator : Operator} :
    ofName? s = some operator ↔ s = operator.name := by
  constructor
  · intro h
    have hname := List.find?_some h
    exact (of_decide_eq_true hname).symm
  · rintro rfl
    cases operator <;> rfl

lemma ofName_eq_ok {s : String} {operator : Operator} :
    ofName s = .ok operator ↔ s = operator.name := by
  rw [← ofName?_eq_some, ofName]
  cases ofName? s <;> simp

end Operator

/-! ## Conditions -/

namespace Condition

/-- The conditions of the grammar. -/
inductive WellFormed : Condition → Prop
  /-- A combination of conditions of the grammar, at least one. -/
  | group {c : Condition} (operator : Operator) (hname : c.operator = operator.name)
      (hcombinator : operator.isCombinator = true) (hconditions : c.conditions ≠ [])
      (hnested : ∀ nested ∈ c.conditions, WellFormed nested) : WellFormed c
  /-- A test of a field with as many arguments as the operator takes.  Those that are written like
  a condition describe one of the grammar, the others are free. -/
  | leaf {c : Condition} (operator : Operator) (hname : c.operator = operator.name)
      (htest : operator.isCombinator = false) (field : String) (hfield : c.field = some field)
      (hqualified : Field.WellFormed field) (harity : operator.takes c.arguments.length = true)
      (hdecodes : ∀ v ∈ c.arguments, isNested v = true → (ofJson? v).isSome)
      (hnested : ∀ v ∈ c.arguments, isNested v = true → ∀ nested, ofJson? v = some nested →
        WellFormed nested) : WellFormed c

/-- The field of a test is there, since the empty text is no field. -/
lemma wellFormed_getD {field : Option String} :
    Field.WellFormed (field.getD "") ↔ ∃ f, field = some f ∧ Field.WellFormed f := by
  cases field with
  | none =>
    have hempty : ¬ Field.WellFormed "" := by
      rintro ⟨scope, column, -, -, hfield⟩
      simp at hfield
    simpa using hempty
  | some f => simp

/-- What one step of the pass accepts, and what it makes of it. -/
lemma checkWithin_eq_ok {fuel : Nat} {c : Condition} {checked : Checked} :
    checkWithin (fuel + 1) c = .ok checked ↔
      ∃ operator : Operator, c.operator = operator.name ∧
        ((operator.isCombinator = true ∧ c.conditions ≠ [] ∧
            ∃ items, checkItems fuel c.conditions = .ok items ∧
              checked = .group c.connective operator items) ∨
          (operator.isCombinator = false ∧ Field.WellFormed (c.field.getD "") ∧
            operator.takes c.arguments.length = true ∧
            ∃ arguments, checkArguments fuel c.arguments = .ok arguments ∧
              checked = .leaf c.connective (c.field.getD "") operator arguments)) := by
  rw [checkWithin, bind_eq_ok]
  refine exists_congr fun operator => and_congr Operator.ofName_eq_ok ?_
  -- a combination looks at its conditions only, a test at its field and its arguments
  by_cases hcombinator : operator.isCombinator = true
  · rw [if_pos hcombinator]
    by_cases hconditions : c.conditions = []
    · rw [hconditions]
      constructor
      · intro h
        cases h
      · rintro (⟨-, hsome, -⟩ | ⟨htest, -⟩)
        · exact absurd rfl hsome
        · exact absurd hcombinator (by simp [htest])
    · rw [if_neg (by simpa using hconditions), bind_eq_ok]
      constructor
      · rintro ⟨items, hitems, h⟩
        exact .inl ⟨hcombinator, hconditions, items, hitems, (Except.ok.inj h).symm⟩
      · rintro (⟨-, -, items, hitems, rfl⟩ | ⟨htest, -⟩)
        · exact ⟨items, hitems, rfl⟩
        · exact absurd hcombinator (by simp [htest])
  · rw [if_neg hcombinator, bind_eq_ok]
    have htest : operator.isCombinator = false := by simpa using hcombinator
    constructor
    · rintro ⟨⟨⟩, hfield, h⟩
      split at h
      · rename_i harity
        obtain ⟨arguments, harguments, h⟩ := bind_eq_ok.mp h
        exact .inr ⟨htest, Field.verify_eq_ok.mp hfield, harity, arguments, harguments,
          (Except.ok.inj h).symm⟩
      · cases h
    · rintro (⟨hcombinator', -⟩ | ⟨-, hfield, harity, arguments, harguments, rfl⟩)
      · exact absurd hcombinator' hcombinator
      · refine ⟨(), Field.verify_eq_ok.mpr hfield, ?_⟩
        rw [if_pos harity]
        exact bind_eq_ok.mpr ⟨arguments, harguments, rfl⟩

/-- The pass accepts a list of conditions if it accepts each of them. -/
lemma exists_checkItems {fuel : Nat} {cs : List Condition} :
    (∃ items, checkItems fuel cs = .ok items) ↔
      ∀ c ∈ cs, ∃ checked, checkWithin fuel c = .ok checked := by
  induction cs with
  | nil => simp [checkItems]
  | cons c rest ih =>
    rw [List.forall_mem_cons, ← ih]
    simp only [checkItems, bind_eq_ok]
    constructor
    · rintro ⟨items, checked, hchecked, others, hothers, -⟩
      exact ⟨⟨checked, hchecked⟩, others, hothers⟩
    · rintro ⟨⟨checked, hchecked⟩, others, hothers⟩
      exact ⟨_, checked, hchecked, others, hothers, rfl⟩

/-- The structural check of one argument. -/
def checkArgument (fuel : Nat) (v : Json) : Except Fault CheckedArgument :=
  if isNested v then
    match ofJson? v with
    | none => .error (.invalidParams .nestedCondition)
    | some c => (checkWithin fuel c).map .nested
  else .ok (.literal v)

lemma checkArguments_cons (fuel : Nat) (v : Json) (rest : List Json) :
    checkArguments fuel (v :: rest) = (do
      let argument ← checkArgument fuel v
      let others ← checkArguments fuel rest
      return argument :: others) := by
  rw [checkArguments, checkArgument]
  split
  · cases ofJson? v with
    | none => rfl
    | some c =>
      dsimp only
      cases checkWithin fuel c <;> rfl
  · rfl

lemma exists_checkArgument {fuel : Nat} {v : Json} :
    (∃ argument, checkArgument fuel v = .ok argument) ↔ (isNested v = true →
      ∃ nested, ofJson? v = some nested ∧ ∃ checked, checkWithin fuel nested = .ok checked) := by
  rw [checkArgument]
  by_cases hnested : isNested v = true
  · rw [if_pos hnested]
    cases hread : ofJson? v with
    | none => simp [hnested]
    | some c => cases hchecked : checkWithin fuel c <;> simp [hnested, hchecked, Except.map]
  · rw [if_neg hnested]
    exact ⟨fun _ h => absurd h hnested, fun _ => ⟨_, rfl⟩⟩

/-- It accepts a list of arguments if it accepts what those describe that are written like a
condition. -/
lemma exists_checkArguments {fuel : Nat} {vs : List Json} :
    (∃ arguments, checkArguments fuel vs = .ok arguments) ↔
      ∀ v ∈ vs, isNested v = true →
        ∃ nested, ofJson? v = some nested ∧ ∃ checked, checkWithin fuel nested = .ok checked := by
  induction vs with
  | nil => simp [checkArguments]
  | cons v rest ih =>
    rw [List.forall_mem_cons, ← ih, ← exists_checkArgument]
    simp only [checkArguments_cons, bind_eq_ok]
    constructor
    · rintro ⟨arguments, argument, hargument, others, hothers, -⟩
      exact ⟨⟨argument, hargument⟩, others, hothers⟩
    · rintro ⟨⟨argument, hargument⟩, others, hothers⟩
      exact ⟨_, argument, hargument, others, hothers, rfl⟩

/-- What the pass accepts is in the grammar, however deep it may go. -/
theorem WellFormed.of_checkWithin {fuel : Nat} : ∀ {c : Condition} {checked : Checked},
    checkWithin fuel c = .ok checked → c.WellFormed := by
  -- on how deep the pass may go: what is nested is checked with one level less
  induction fuel with
  | zero =>
    intro c checked h
    rw [checkWithin] at h
    cases h
  | succ fuel ih =>
    intro c checked h
    obtain ⟨operator, hname, hcases⟩ := checkWithin_eq_ok.mp h
    rcases hcases with ⟨hcombinator, hconditions, items, hitems, -⟩ |
      ⟨htest, hfield, harity, arguments, harguments, -⟩
    · refine .group operator hname hcombinator hconditions fun nested hnested => ?_
      obtain ⟨inner, hinner⟩ := exists_checkItems.mp ⟨items, hitems⟩ nested hnested
      exact ih hinner
    · obtain ⟨f, hf, hqualified⟩ := wellFormed_getD.mp hfield
      have hinner := exists_checkArguments.mp ⟨arguments, harguments⟩
      refine .leaf operator hname htest f hf hqualified harity (fun v hv hnested => ?_)
        fun v hv hnested nested hread => ?_
      · obtain ⟨nested, hread, -⟩ := hinner v hv hnested
        exact Option.isSome_of_eq_some hread
      · obtain ⟨nested', hread', inner, hchecked⟩ := hinner v hv hnested
        rw [hread] at hread'
        cases hread'
        exact ih hchecked

/-- The pass accepts a condition of the grammar if it may go deeper than the condition is
nested. -/
theorem WellFormed.exists_checkWithin {c : Condition} (h : c.WellFormed) :
    ∀ {fuel : Nat}, c.argumentDepth < fuel → ∃ checked, checkWithin fuel c = .ok checked := by
  -- on the derivation: what is nested is less deep, so the level that is left suffices for it
  induction h with
  | @group c operator hname hcombinator hconditions hnested ih =>
    intro fuel hfuel
    obtain ⟨fuel, rfl⟩ := Nat.exists_eq_succ_of_ne_zero (Nat.ne_zero_of_lt hfuel)
    obtain ⟨items, hitems⟩ := exists_checkItems.mpr fun nested hmem =>
      ih nested hmem ((argumentDepth_lt_of_mem_conditions hmem).trans_le (Nat.le_of_lt_succ hfuel))
    exact ⟨_, checkWithin_eq_ok.mpr
      ⟨operator, hname, .inl ⟨hcombinator, hconditions, items, hitems, rfl⟩⟩⟩
  | @leaf c operator hname htest field hfield hqualified harity hdecodes hnested ih =>
    intro fuel hfuel
    obtain ⟨fuel, rfl⟩ := Nat.exists_eq_succ_of_ne_zero (Nat.ne_zero_of_lt hfuel)
    obtain ⟨arguments, harguments⟩ := exists_checkArguments.mpr fun v hv hwritten => by
      obtain ⟨nested, hread⟩ := Option.isSome_iff_exists.mp (hdecodes v hv hwritten)
      have hdepth : nested.argumentDepth ≤ v.depth := argumentDepth_of_ofJson? v hread
      have hinner : nested.argumentDepth < fuel :=
        (hdepth.trans_lt (depth_lt_of_mem_arguments hv)).trans_le (Nat.le_of_lt_succ hfuel)
      exact ⟨nested, hread, ih v hv hwritten nested hread hinner⟩
    refine ⟨_, checkWithin_eq_ok.mpr ⟨operator, hname, .inr ⟨htest, ?_, harity, arguments,
      harguments, rfl⟩⟩⟩
    exact wellFormed_getD.mpr ⟨field, hfield, hqualified⟩

/-- The pass over a list of conditions accepts just the grammar. -/
lemma exists_check {conditions : List Condition} :
    (∃ checked, check conditions = .ok checked) ↔ ∀ c ∈ conditions, c.WellFormed := by
  rw [check, exists_mapM_eq_ok]
  refine forall₂_congr fun c _ => ⟨?_, fun h => h.exists_checkWithin (Nat.lt_succ_self _)⟩
  rintro ⟨checked, hchecked⟩
  exact .of_checkWithin hchecked

end Condition

/-! ## Faults -/

/-- The faults of what the front end sent, for which no configuration is looked up. -/
inductive Fault.OfStructure : Fault → Prop
  | malformedField (field : String) : OfStructure (.malformedField field)
  | unsafeOperator (operator : String) : OfStructure (.unsafeOperator operator)
  | invalidArguments (operator expected : String) (actual : Nat) :
      OfStructure (.invalidArguments operator expected actual)
  | nestedCondition : OfStructure (.invalidParams .nestedCondition)
  | invalidDirection (field direction : String) :
      OfStructure (.invalidDirection field direction)

lemma Field.verify_eq_error {field : String} {f : Fault} (h : verify field = .error f) :
    f.OfStructure := by
  rw [verify] at h
  split at h
  · cases h
  · cases h
    exact .malformedField field

lemma Operator.ofName_eq_error {s : String} {f : Fault} (h : ofName s = .error f) :
    f.OfStructure := by
  rw [ofName] at h
  split at h
  · cases h
  · cases h
    exact .unsafeOperator s

lemma Decision.of_mapM_eq_error {ε α β : Type} {P : ε → Prop} {g : α → Except ε β} {l : List α}
    {e : ε} (hg : ∀ a e, g a = .error e → P e) (h : l.mapM g = .error e) : P e := by
  induction l with
  | nil => cases h
  | cons a rest ih =>
    rw [List.mapM_cons] at h
    rcases bind_eq_error.mp h with hfirst | ⟨b, -, h⟩
    · exact hg a e hfirst
    · rcases bind_eq_error.mp h with hrest | ⟨bs, -, h⟩
      · exact ih hrest
      · cases h

lemma Decision.of_forM_eq_error {ε α : Type} {P : ε → Prop} {g : α → Except ε Unit} {l : List α}
    {e : ε} (hg : ∀ a e, g a = .error e → P e) (h : l.forM g = .error e) : P e := by
  induction l with
  | nil => cases h
  | cons a rest ih =>
    rw [forM_cons] at h
    rcases bind_eq_error.mp h with hfirst | ⟨-, -, hrest⟩
    · exact hg a e hfirst
    · exact ih hrest

namespace Condition

mutual
/-- Whatever the pass refuses, it refuses for its structure. -/
lemma checkWithin_eq_error {f : Fault} : (fuel : Nat) → ∀ {c : Condition},
    checkWithin fuel c = .error f → f.OfStructure
  | 0, c, h => by
    rw [checkWithin] at h
    cases h
    exact .nestedCondition
  | fuel + 1, c, h => by
    rw [checkWithin] at h
    rcases bind_eq_error.mp h with hname | ⟨operator, -, h⟩
    · exact Operator.ofName_eq_error hname
    split at h
    · split at h
      · cases h
        exact .invalidArguments ..
      · rcases bind_eq_error.mp h with hitems | ⟨items, -, h⟩
        · exact checkItems_eq_error fuel hitems
        · cases h
    · rcases bind_eq_error.mp h with hfield | ⟨-, -, h⟩
      · exact Field.verify_eq_error hfield
      split at h
      · rcases bind_eq_error.mp h with harguments | ⟨arguments, -, h⟩
        · exact checkArguments_eq_error fuel harguments
        · cases h
      · cases h
        exact .invalidArguments ..

lemma checkItems_eq_error {f : Fault} : (fuel : Nat) → ∀ {cs : List Condition},
    checkItems fuel cs = .error f → f.OfStructure
  | _, [], h => by
    rw [checkItems] at h
    cases h
  | fuel, c :: rest, h => by
    rw [checkItems] at h
    rcases bind_eq_error.mp h with hfirst | ⟨checked, -, h⟩
    · exact checkWithin_eq_error fuel hfirst
    · rcases bind_eq_error.mp h with hrest | ⟨others, -, h⟩
      · exact checkItems_eq_error fuel hrest
      · cases h

lemma checkArguments_eq_error {f : Fault} : (fuel : Nat) → ∀ {vs : List Json},
    checkArguments fuel vs = .error f → f.OfStructure
  | _, [], h => by
    rw [checkArguments] at h
    cases h
  | fuel, v :: rest, h => by
    rw [checkArguments_cons] at h
    rcases bind_eq_error.mp h with hfirst | ⟨argument, -, h⟩
    · rw [checkArgument] at hfirst
      split at hfirst
      · split at hfirst
        · cases hfirst
          exact .nestedCondition
        · rename_i c hread
          cases hnested : checkWithin fuel c with
          | error f' =>
            rw [hnested] at hfirst
            cases hfirst
            exact checkWithin_eq_error fuel hnested
          | ok checked =>
            rw [hnested] at hfirst
            cases hfirst
      · cases hfirst
    · rcases bind_eq_error.mp h with hrest | ⟨others, -, h⟩
      · exact checkArguments_eq_error fuel hrest
      · cases h
end

lemma check_eq_error {conditions : List Condition} {f : Fault}
    (h : check conditions = .error f) : f.OfStructure :=
  of_mapM_eq_error (fun _ _ hc => checkWithin_eq_error _ hc) h

end Condition

/-! ## Queries -/

namespace FrontEndQuery

/-- A query of the front end that has the right structure. -/
structure WellFormed (q : FrontEndQuery) : Prop where
  conditions : ∀ c ∈ q.conditions, c.WellFormed
  having : ∀ c ∈ q.having, c.WellFormed
  orderFields : ∀ entry ∈ q.orderBy.entries, Field.WellFormed entry.1
  /-- A direction is written in any case. -/
  directions : ∀ entry ∈ q.orderBy.entries,
    ∃ d : Direction, Text.sameIgnoringAsciiCase entry.2 d.name = true
  groups : ∀ field ∈ q.groupBy, Field.WellFormed field

end FrontEndQuery

lemma Direction.exists_ofName? {s : String} :
    (∃ d, ofName? s = some d) ↔ ∃ d : Direction, Text.sameIgnoringAsciiCase s d.name = true := by
  rw [ofName?]
  constructor
  · rintro ⟨d, h⟩
    split at h
    · exact ⟨.asc, ‹_›⟩
    · split at h
      · exact ⟨.desc, ‹_›⟩
      · cases h
  · rintro ⟨d, hd⟩
    split
    · exact ⟨.asc, rfl⟩
    · rename_i hasc
      cases d with
      | asc => exact absurd hd hasc
      | desc => exact ⟨.desc, if_pos hd⟩

namespace CheckedQuery

lemma exists_checkOrder {field direction : String} :
    (∃ order, checkOrder field direction = .ok order) ↔ Field.WellFormed field ∧
      ∃ d : Direction, Text.sameIgnoringAsciiCase direction d.name = true := by
  rw [← Direction.exists_ofName?, ← Field.verify_eq_ok, checkOrder]
  simp only [bind_eq_ok]
  constructor
  · rintro ⟨order, ⟨⟩, hfield, h⟩
    split at h
    · rename_i d hd
      exact ⟨hfield, d, hd⟩
    · cases h
  · rintro ⟨hfield, d, hd⟩
    exact ⟨(field, d), (), hfield, by rw [hd]; rfl⟩

lemma checkOrder_eq_error {field direction : String} {f : Fault}
    (h : checkOrder field direction = .error f) : f.OfStructure := by
  rw [checkOrder] at h
  rcases bind_eq_error.mp h with hfield | ⟨-, -, h⟩
  · exact Field.verify_eq_error hfield
  split at h
  · cases h
  · cases h
    exact .invalidDirection ..

/-- The structural checks accept just the queries that have the right structure. -/
theorem exists_of {q : FrontEndQuery} : (∃ checked, of q = .ok checked) ↔ q.WellFormed := by
  simp only [of, bind_eq_ok]
  constructor
  · rintro ⟨_, conditions, hconditions, having, hhaving, orders, horders, ⟨⟩, hgroups, -⟩
    have horder := exists_mapM_eq_ok.mp ⟨orders, horders⟩
    exact {
      conditions := Condition.exists_check.mp ⟨conditions, hconditions⟩
      having := Condition.exists_check.mp ⟨having, hhaving⟩
      orderFields := fun entry hentry => (exists_checkOrder.mp (horder entry hentry)).1
      directions := fun entry hentry => (exists_checkOrder.mp (horder entry hentry)).2
      groups := fun field hfield => Field.verify_eq_ok.mp (forM_eq_ok.mp hgroups field hfield) }
  · intro h
    obtain ⟨conditions, hconditions⟩ := Condition.exists_check.mpr h.conditions
    obtain ⟨having, hhaving⟩ := Condition.exists_check.mpr h.having
    obtain ⟨orders, horders⟩ := exists_mapM_eq_ok.mpr fun entry hentry =>
      exists_checkOrder.mpr ⟨h.orderFields entry hentry, h.directions entry hentry⟩
    have hgroups : q.groupBy.forM Field.verify = .ok () :=
      forM_eq_ok.mpr fun field hfield => Field.verify_eq_ok.mpr (h.groups field hfield)
    exact ⟨_, conditions, hconditions, having, hhaving, orders, horders, (), hgroups, rfl⟩

lemma of_eq_error {q : FrontEndQuery} {f : Fault} (h : of q = .error f) : f.OfStructure := by
  rw [of] at h
  rcases bind_eq_error.mp h with hconditions | ⟨conditions, -, h⟩
  · exact Condition.check_eq_error hconditions
  rcases bind_eq_error.mp h with hhaving | ⟨having, -, h⟩
  · exact Condition.check_eq_error hhaving
  rcases bind_eq_error.mp h with horders | ⟨orders, -, h⟩
  · exact of_mapM_eq_error (fun _ _ horder => checkOrder_eq_error horder) horders
  rcases bind_eq_error.mp h with hgroups | ⟨-, -, h⟩
  · exact of_forM_eq_error (fun _ _ hfield => Field.verify_eq_error hfield) hgroups
  · cases h

end CheckedQuery

namespace Compile

/-- A compilation begins with the structural checks and ends with them if they fail. -/
lemma outcome_of_eq_error {registry : Registry} {r : ReadRequest} {f : Fault}
    (h : CheckedQuery.of r.frontEnd.query = .error f) :
    (compile registry r).outcome = (.error f, [.resolving]) := by
  have hresolving : resolving registry r = .error f := by
    rw [resolving, h]
    rfl
  show compile registry r [] = _
  rw [compile_run, hresolving]
  rfl

/-- The structural pass accepts a list of conditions exactly if each of them is in the grammar.  A
query that has not the right structure is refused for one and the same reason, whatever the
entity, its configuration, the options of the call, the context and the functions that settings
call, and before any permission is looked at. -/
theorem structure_comes_first :
    (∀ conditions : List Condition,
      (∃ checked, Condition.check conditions = .ok checked) ↔ ∀ c ∈ conditions, c.WellFormed) ∧
    ∀ q : FrontEndQuery, ¬ q.WellFormed → ∃ f : Fault, f.OfStructure ∧
      ∀ (registry : Registry) (r : ReadRequest), r.frontEnd.query = q →
        (compile registry r).outcome = (.error f, [.resolving]) := by
  refine ⟨fun conditions => Condition.exists_check, fun q hq => ?_⟩
  cases hof : CheckedQuery.of q with
  | ok checked => exact absurd (CheckedQuery.exists_of.mp ⟨checked, hof⟩) hq
  | error f =>
    refine ⟨f, CheckedQuery.of_eq_error hof, fun registry r hr => ?_⟩
    exact outcome_of_eq_error (hr ▸ hof)

/-- An argument that is written like a condition, with an operator outside the closed set. -/
def smuggledArgument : Json :=
  .obj [("arguments", .arr [.str "1 = 1"]), ("field", .str "t.label"), ("operator", .str "sql")]

/-- A test with that argument. -/
def smuggledCondition : Condition := ⟨some "t.year", .and, "eq", [smuggledArgument], []⟩

/-- A query with that test. -/
def smuggled : FrontEndQuery :=
  { (default : FrontEndQuery) with conditions := [smuggledCondition] }

/-- A request with that query, for an entity without configuration. -/
def smuggledRequest : ReadRequest where
  entityType := "album"
  config := default
  frontEnd := ⟨smuggled, default⟩
  overrides := default
  ctx := .ofCall .null .null .null .null

/-- The query is refused for that operator everywhere. -/
theorem smuggled_refused : ¬ smuggled.WellFormed ∧
    ∀ (registry : Registry) (r : ReadRequest), r.frontEnd.query = smuggled →
      (compile registry r).outcome = (.error (.unsafeOperator "sql"), [.resolving]) := by
  have hcheck : Condition.check smuggled.conditions = .error (.unsafeOperator "sql") := by
    have hdepth : smuggledCondition.argumentDepth = 4 := rfl
    have hwritten : Condition.isNested smuggledArgument = true := rfl
    have hread : Condition.ofJson? smuggledArgument =
        some ⟨some "t.label", .and, "sql", [.str "1 = 1"], []⟩ := rfl
    simp only [smuggled, Condition.check, List.mapM_cons, hdepth]
    simp only [smuggledCondition, Condition.checkWithin, Condition.checkArguments, hwritten,
      hread, if_true]
    rfl
  have hof : CheckedQuery.of smuggled = .error (.unsafeOperator "sql") := by
    rw [CheckedQuery.of, hcheck]
    rfl
  have hmalformed : ¬ smuggled.WellFormed := by
    intro h
    obtain ⟨checked, hchecked⟩ := (structure_comes_first.1 smuggled.conditions).mpr h.conditions
    rw [hcheck] at hchecked
    cases hchecked
  obtain ⟨f, -, hall⟩ := structure_comes_first.2 smuggled hmalformed
  -- the fault is the one that a request without any configuration ends in
  have hone : (compile .standard smuggledRequest).outcome =
      (.error (.unsafeOperator "sql"), [.resolving]) := outcome_of_eq_error hof
  have hsame : f = .unsafeOperator "sql" :=
    Except.error.inj (congrArg Prod.fst ((hall .standard smuggledRequest rfl).symm.trans hone))
  exact ⟨hmalformed, hsame ▸ hall⟩

end Compile

end EntityGate
