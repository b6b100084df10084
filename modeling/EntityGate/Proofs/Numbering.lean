/-
# The parameters of a compiled query

Three writers share one table of parameters: the base query numbers its values, the layers of
placeholders bring names of their own, and the conditions of the front end number their values.
The numbering is shown first: what a condition names are the parameters of the values that are
bound for it, in order and without gaps, so that a clause goes on where the one before it stopped.
Then the table is read back.  Its keys are the generated names of both families and the names of
the placeholders, nothing gets into the way of anything else, and where several layers define a
placeholder it is the highest that counts.
-/
import EntityGate.Proofs.Acceptance
import EntityGate.Proofs.Exposure
import EntityGate.Proofs.Reload
import Mathlib.Data.List.Nodup

namespace EntityGate

open Decision

/-! ## Numbers in names -/

namespace Bound

/-- A generated name tells the number it was generated from. -/
lemma paramName_inj {family : String} {i j : Nat} (h : paramName family i = paramName family j) :
    i = j := by
  have hlists := congrArg String.toList h
  rw [paramName, paramName, String.toList_append, String.toList_append] at hlists
  have hdigits := List.append_cancel_left hlists
  have hnumbers := congrArg (fun digits => Nat.ofDigitChars 10 digits 0) hdigits
  simpa [Nat.toString_eq_ofList_toDigits] using hnumbers

lemma nodup_map_paramName (family : String) {numbers : List Nat} (h : numbers.Nodup) :
    (numbers.map (paramName family)).Nodup := by
  refine List.Nodup.map ?_ h
  intro i j hij
  exact paramName_inj hij

lemma keys_named (family : String) (bound : Bound) :
    (named family bound).map Prod.fst = (List.range bound.length).map (paramName family) := by
  refine List.ext_getElem (by simp [named]) ?_
  intro i hi hi'
  simp [named]

lemma nodup_keys_named (family : String) (bound : Bound) :
    ((named family bound).map Prod.fst).Nodup := by
  rw [keys_named]
  exact nodup_map_paramName family List.nodup_range

/-- Under the name with a number stands the value that was bound with that number. -/
lemma lookup_named (family : String) (bound : Bound) (i : Nat) :
    (named family bound).lookup (paramName family i) = bound[i]? := by
  cases hv : bound[i]? with
  | none =>
    refine Table.lookup_eq_none_of_notMem fun hmem => ?_
    obtain ⟨j, hj, hij⟩ := mem_keys_named.mp hmem
    rw [← paramName_inj hij] at hj
    rw [List.getElem?_eq_getElem hj] at hv
    cases hv
  | some v =>
    obtain ⟨hi, rfl⟩ := List.getElem?_eq_some_iff.mp hv
    exact Table.lookup_eq_some_of_mem (nodup_keys_named family bound)
      (List.mem_mapIdx.mpr ⟨i, hi, rfl⟩)

lemma lookup_named_generated (family : String) (bound : Bound) (i : Nat) :
    ((named family bound).map Compile.generated).lookup (paramName family i) =
      bound[i]?.map fun v => ⟨v, none⟩ := by
  rw [← lookup_named family, Compile.lookup_generated]

end Bound

/-! ## The names in front-end conditions -/

namespace Checked

open EntityGate.Bound

variable {registry : Registry} {node : Node} {ctx : Context}

mutual
/-- The expression of a condition names the values that are bound for it, in order. -/
theorem build_names : (c : Checked) → ∀ {bound after : Bound} {e : Expr},
    build registry node ctx bound c = .ok (e, after) →
      Numbered frontEnd bound after e.parameterNames
  | .group _ operator conditions, bound, after, e, h => by
    rw [build] at h
    obtain ⟨⟨items, _⟩, hitems, h⟩ := bind_eq_ok.mp h
    have hnames := buildItems_names conditions hitems
    cases h
    split <;> exact hnames
  | .leaf _ field operator arguments, bound, after, e, h => by
    rw [build] at h
    obtain ⟨value, -, h⟩ := bind_eq_ok.mp h
    split at h
    · -- a membership test binds one list before what its nested conditions bind
      obtain ⟨⟨operands, _⟩, hoperands, h⟩ := bind_eq_ok.mp h
      have hnames := buildNested_names arguments hoperands
      cases h
      exact hnames.cons
    · obtain ⟨⟨operands, _⟩, hoperands, h⟩ := bind_eq_ok.mp h
      have hnames := buildOperands_names arguments hoperands
      cases h
      exact hnames

theorem buildItems_names : (cs : List Checked) → ∀ {bound after : Bound} {es : List Expr},
    buildItems registry node ctx bound cs = .ok (es, after) →
      Numbered frontEnd bound after (Expr.parameterNamesItems es)
  | [], bound, after, es, h => by
    cases h
    exact Numbered.nil frontEnd bound
  | c :: rest, bound, after, es, h => by
    obtain ⟨e, between, others, he, hothers, rfl⟩ := buildItems_cons_eq_ok.mp h
    exact (build_names c he).append (buildItems_names rest hothers)

theorem buildNested_names : (arguments : List CheckedArgument) →
    ∀ {bound after : Bound} {operands : List Operand},
    buildNested registry node ctx bound arguments = .ok (operands, after) →
      Numbered frontEnd bound after (Expr.operandNames operands)
  | [], bound, after, operands, h => by
    cases h
    exact Numbered.nil frontEnd bound
  | .literal _ :: rest, bound, after, operands, h => by
    rw [buildNested] at h
    exact buildNested_names rest h
  | .nested c :: rest, bound, after, operands, h => by
    obtain ⟨e, between, others, he, hothers, rfl⟩ := buildNested_cons_eq_ok.mp h
    exact (build_names c he).append (buildNested_names rest hothers)

theorem buildOperands_names : (arguments : List CheckedArgument) →
    ∀ {bound after : Bound} {values : List Json} {operands : List Operand},
    buildOperands registry node ctx bound values arguments = .ok (operands, after) →
      Numbered frontEnd bound after (Expr.operandNames operands)
  | [], bound, after, values, operands, h => by
    cases h
    exact Numbered.nil frontEnd bound
  | .literal v :: rest, bound, after, values, operands, h => by
    obtain ⟨others, hothers, rfl⟩ := buildOperands_literal_eq_ok.mp h
    exact (buildOperands_names rest hothers).cons
  | .nested c :: rest, bound, after, values, operands, h => by
    obtain ⟨e, between, others, he, hothers, rfl⟩ := buildOperands_nested_eq_ok.mp h
    exact (build_names c he).append (buildOperands_names rest hothers)
end

lemma buildFrom_names {cs : List Checked} {acc clause : Option Expr} {bound after : Bound}
    (h : buildFrom registry node ctx acc bound cs = .ok (clause, after)) :
    ∃ names, Numbered frontEnd bound after names ∧
      Expr.clauseNames clause = Expr.clauseNames acc ++ names := by
  induction cs generalizing acc bound with
  | nil =>
    cases h
    exact ⟨[], Numbered.nil frontEnd _, by simp⟩
  | cons c rest ih =>
    rw [buildFrom] at h
    obtain ⟨⟨e, between⟩, he, h⟩ := bind_eq_ok.mp h
    obtain ⟨names, hnames, hclause⟩ := ih h
    refine ⟨e.parameterNames ++ names, (build_names c he).append hnames, ?_⟩
    rw [hclause, Expr.clauseNames, Expr.parameterNames_join, List.append_assoc]

/-- A front-end clause names the values that are bound for it, in order. -/
theorem buildAll_names {cs : List Checked} {clause : Option Expr} {bound after : Bound}
    (h : buildAll registry node ctx bound cs = .ok (clause, after)) :
    Numbered frontEnd bound after (Expr.clauseNames clause) := by
  rw [buildAll_eq_buildFrom] at h
  obtain ⟨names, hnames, hclause⟩ := buildFrom_names h
  rw [hclause]
  exact hnames

end Checked

/-! ## The layers of placeholders -/

namespace Decision

variable {ε α β : Type}

/-- A loop over entries that keeps keys returns under a key what the pass for that key returns. -/
lemma lookup_of_mapM_eq_ok {f : String → α → Except ε (String × β)}
    (hf : ∀ k a entry, f k a = .ok entry → entry.1 = k) {l : List (String × α)}
    {bs : List (String × β)} (hl : (l.mapM fun (k, a) => f k a) = .ok bs) {name : String} {a : α}
    (ha : l.lookup name = some a) : ∃ b, f name a = .ok (name, b) ∧ bs.lookup name = some b := by
  induction l generalizing bs with
  | nil => cases ha
  | cons entry l ih =>
    obtain ⟨k, u⟩ := entry
    obtain ⟨⟨k', b⟩, hb, rest, hrest, rfl⟩ := mapM_cons_eq_ok.mp hl
    have hk : k' = k := hf k u _ hb
    subst hk
    rw [Table.lookup_cons] at ha
    rw [Table.lookup_cons]
    by_cases hname : name = k'
    · subst hname
      rw [if_pos rfl] at ha
      cases ha
      exact ⟨b, hb, if_pos rfl⟩
    · rw [if_neg hname] at ha
      rw [if_neg hname]
      exact ih hrest ha

end Decision

namespace ReadRequest

/-- The placeholder that counts under a name as far as the back end goes: that of the call, else
that of the options, else that of the settings. -/
def backEndPlaceholder? (r : ReadRequest) (fromOptions : Table Placeholder) (name : String) :
    Option Placeholder :=
  (r.overrides.placeholders.get? name).or
    ((fromOptions.get? name).or (r.config.read.settings.placeholders.get? name))

/-- Whether a layer defines a placeholder. -/
def NamesPlaceholder (r : ReadRequest) (fromOptions : Table Placeholder) (name : String) : Prop :=
  name ∈ r.config.read.settings.placeholders.keys ∨ name ∈ fromOptions.keys ∨
    name ∈ r.overrides.placeholders.keys ∨ name ∈ r.frontEnd.query.placeholders.keys

/-- The values of the base conditions that are bound to parameters: all that their operands
resolve to but texts, those of `where` before those of `having`. -/
def configuredValues (registry : Registry) (r : ReadRequest) : List Json :=
  BasePart.valuesRead registry r.ctx r.config.read.query.argumentSettings

/-- What the parameters of a compiled query are, with `count` values of the front end. -/
structure Parameterized (registry : Registry) (r : ReadRequest) (fromOptions : Table Placeholder)
    (count : Nat) (q : QuerySpec) : Prop where
  /-- Each key stands for one parameter. -/
  distinct : q.parameters.keys.Nodup
  /-- The keys are the generated names and the names of the placeholders. -/
  keys : ∀ name, name ∈ q.parameters.keys ↔
    (∃ i < (r.configuredValues registry).length, name = Bound.paramName Bound.config i) ∨
      r.NamesPlaceholder fromOptions name ∨
      ∃ j < count, name = Bound.paramName Bound.frontEnd j
  /-- No placeholder has a generated name of either family. -/
  apart : ∀ name, r.NamesPlaceholder fromOptions name →
    ∀ i, name ≠ Bound.paramName Bound.config i ∧ name ≠ Bound.paramName Bound.frontEnd i
  /-- The configured values are bound in order. -/
  configured : ∀ i < (r.configuredValues registry).length,
    q.parameters.get? (Bound.paramName Bound.config i) =
      (r.configuredValues registry)[i]?.map fun v => ⟨v, none⟩
  /-- A placeholder of the front end has the value that its hooks made of it. -/
  frontEnd : ∀ name p, r.frontEnd.query.placeholders.get? name = some p →
    ∃ after, Compile.Placed registry r.permissions.placeholders r.ctx name p.value after ∧
      q.parameters.get? name = some ⟨after, p.paramType⟩
  /-- Any other placeholder has the value that its highest layer resolves to. -/
  backEnd : ∀ name p, r.frontEnd.query.placeholders.get? name = none →
    r.backEndPlaceholder? fromOptions name = some p →
      ∃ value paramType, p.value.resolve registry r.ctx = .ok value ∧
        Resolve.text? registry r.ctx "placeholder type" p.paramType = .ok paramType ∧
        q.parameters.get? name = some ⟨value, paramType⟩
  /-- The front end's values are numbered in the order in which both clauses name them, after
  configured names. -/
  numbered : ∃ base baseHaving first, first ≤ count ∧
    Bound.Configured base ∧ Bound.Configured baseHaving ∧
    Expr.clauseNames q.conditions =
      base ++ (List.range' 0 first).map (Bound.paramName Bound.frontEnd) ∧
    Expr.clauseNames q.having =
      baseHaving ++ (List.range' first (count - first)).map (Bound.paramName Bound.frontEnd)
  /-- Each of them is named once. -/
  once : ∀ j < count, (Expr.clauseNames q.conditions ++ Expr.clauseNames q.having).count
    (Bound.paramName Bound.frontEnd j) = 1
  /-- Every name in a clause is bound. -/
  bound : ∀ name ∈ Expr.clauseNames q.conditions ++ Expr.clauseNames q.having,
    name ∈ q.parameters.keys

end ReadRequest

namespace Compile

open EntityGate.Bound ReadRequest

variable {registry : Registry} {r : ReadRequest}

/-- The values of a base query are those that its operands resolve to. -/
lemma configured_eq {spec : QuerySpec} {bound : Bound}
    (h : baseQuery registry r = .ok (spec, bound)) : bound = r.configuredValues registry := by
  obtain ⟨between, hconditions, hhaving⟩ := BaseQuery.makes_of_baseQuery h
  rw [BasePart.clause_eq_clauseFrom] at hconditions hhaving
  obtain ⟨-, hbetween⟩ := BasePart.clauseFrom_splits hconditions
  obtain ⟨-, hbound⟩ := BasePart.clauseFrom_splits hhaving
  rw [hbound, hbetween, configuredValues, BaseQuery.argumentSettings, BasePart.valuesRead_append,
    List.nil_append]

/-- The parameter of a placeholder of the back end, if its name is free and it resolves. -/
lemma backEndPlaceholder_eq_ok_iff {name : String} {p : Placeholder}
    {entry : String × Parameter} :
    backEndPlaceholder registry r name p = .ok entry ↔
      Bound.isReserved name = false ∧ ∃ value paramType,
        p.value.resolve registry r.ctx = .ok value ∧
        Resolve.text? registry r.ctx "placeholder type" p.paramType = .ok paramType ∧
        entry = (name, ⟨value, paramType⟩) := by
  rw [backEndPlaceholder]
  cases hreserved : Bound.isReserved name with
  | true => simp
  | false =>
    simp only [Bool.false_eq_true, if_false, true_and, bind_eq_ok, pure_eq_ok, Except.ok.injEq,
      eq_comm (a := entry), exists_and_left]

/-- Where the placeholders of the back end come out well, those of the options could be read. -/
lemma backEndParameters_eq_ok {entries : List (String × Parameter)}
    (h : backEndParameters registry r = .ok entries) :
    ∃ fromOptions, r.optionPlaceholders? = some fromOptions ∧
      ((r.placeholdersWith fromOptions).entries.mapM fun (name, p) =>
        backEndPlaceholder registry r name p) = .ok entries := by
  cases hoptions : r.optionPlaceholders? with
  | some fromOptions =>
    rw [backEndParameters, backEndPlaceholders_of_options hoptions] at h
    exact ⟨fromOptions, rfl, h⟩
  | none =>
    rw [backEndParameters, bind_eq_ok] at h
    obtain ⟨table, htable, -⟩ := h
    rw [optionPlaceholders?] at hoptions
    rw [backEndPlaceholders] at htable
    cases hoption : r.config.read.options.get? "placeholders" with
    | none =>
      rw [hoption] at hoptions
      cases hoptions
    | some s =>
      rw [hoption] at hoptions htable
      simp only [show Placeholder.ofJson?.table s.toJson = none from hoptions] at htable
      cases htable

/-- The back end's placeholder under a name is the one of the highest layer. -/
lemma get?_placeholdersWith (fromOptions : Table Placeholder) (name : String) :
    (r.placeholdersWith fromOptions).get? name = r.backEndPlaceholder? fromOptions name := by
  rw [placeholdersWith, Table.get?_merge, Table.get?_merge, backEndPlaceholder?]

/-! ## The table -/

section Table

variable {configured values : Bound} {backEnd frontEnd : List (String × Parameter)}

/-- What is found under a name, the four groups of parameters being looked through from the
last. -/
lemma get?_parameters (hbackEnd : (backEnd.map Prod.fst).Nodup)
    (hfrontEnd : (frontEnd.map Prod.fst).Nodup) (name : String) :
    (Table.ofList (allParameters configured backEnd frontEnd values)).get? name =
      (((named Bound.frontEnd values).map generated).lookup name).or
        ((frontEnd.lookup name).or ((backEnd.lookup name).or
          (((named config configured).map generated).lookup name))) := by
  have hvalues : (((named Bound.frontEnd values).map generated).map Prod.fst).Nodup := by
    rw [keys_generated]
    exact nodup_keys_named _ _
  have hconfigured : (((named config configured).map generated).map Prod.fst).Nodup := by
    rw [keys_generated]
    exact nodup_keys_named _ _
  have hfirst := Table.get?_ofList_append_of_nodup hconfigured [] name
  rw [List.nil_append] at hfirst
  rw [allParameters, Table.get?_ofList_append_of_nodup hvalues, ← List.append_assoc,
    Table.get?_ofList_append_of_nodup hfrontEnd, Table.get?_ofList_append_of_nodup hbackEnd,
    hfirst]
  simp [Table.ofList, Table.get?, Table.empty]

/-- A name that is not reserved is found among the placeholders. -/
lemma get?_parameters_of_free (hbackEnd : (backEnd.map Prod.fst).Nodup)
    (hfrontEnd : (frontEnd.map Prod.fst).Nodup) {name : String}
    (hfree : isReserved name = false) :
    (Table.ofList (allParameters configured backEnd frontEnd values)).get? name =
      (frontEnd.lookup name).or (backEnd.lookup name) := by
  have hvalues : ((named Bound.frontEnd values).map generated).lookup name = none := by
    refine Table.lookup_eq_none_of_notMem ?_
    rw [keys_generated, mem_keys_named]
    rintro ⟨i, -, rfl⟩
    rw [isReserved_frontEnd] at hfree
    cases hfree
  have hconfigured : ((named config configured).map generated).lookup name = none := by
    refine Table.lookup_eq_none_of_notMem ?_
    rw [keys_generated, mem_keys_named]
    rintro ⟨i, -, rfl⟩
    rw [isReserved_config] at hfree
    cases hfree
  rw [get?_parameters hbackEnd hfrontEnd, hvalues, hconfigured, Option.none_or, Option.or_none]

/-- Where no placeholder has a reserved name, a configured value is found under its number. -/
lemma get?_parameters_config (hbackEnd : (backEnd.map Prod.fst).Nodup)
    (hfrontEnd : (frontEnd.map Prod.fst).Nodup)
    (hfree : ∀ name ∈ (backEnd ++ frontEnd).map Prod.fst, isReserved name = false) (i : Nat) :
    (Table.ofList (allParameters configured backEnd frontEnd values)).get? (paramName config i) =
      configured[i]?.map fun v => ⟨v, none⟩ := by
  have hnot : paramName config i ∉ (backEnd ++ frontEnd).map Prod.fst := by
    intro hmem
    have hreserved := hfree _ hmem
    rw [isReserved_config] at hreserved
    cases hreserved
  rw [List.map_append, List.mem_append, not_or] at hnot
  have hvalues : ((named Bound.frontEnd values).map generated).lookup (paramName config i) =
      none := by
    refine Table.lookup_eq_none_of_notMem ?_
    rw [keys_generated, mem_keys_named]
    rintro ⟨j, -, hij⟩
    exact config_ne_frontEnd i j hij
  rw [get?_parameters hbackEnd hfrontEnd, hvalues, Table.lookup_eq_none_of_notMem hnot.2,
    Table.lookup_eq_none_of_notMem hnot.1, lookup_named_generated, Option.none_or,
    Option.none_or, Option.none_or]

lemma mem_keys_parameters {name : String} :
    name ∈ (Table.ofList (allParameters configured backEnd frontEnd values)).keys ↔
      (∃ i < configured.length, name = paramName config i) ∨
        name ∈ (backEnd ++ frontEnd).map Prod.fst ∨
        ∃ j < values.length, name = paramName Bound.frontEnd j := by
  rw [Table.mem_keys_ofList, allParameters, List.map_append, List.map_append, keys_generated,
    keys_generated, List.mem_append, List.mem_append, mem_keys_named, mem_keys_named, or_assoc]

end Table

/-! ## Placeholders in the table -/

/-- The parameters that the placeholders of both ends become. -/
structure Layered (registry : Registry) (r : ReadRequest) (fromOptions : Table Placeholder)
    (backEnd frontEnd : List (String × Parameter)) : Prop where
  options : r.optionPlaceholders? = some fromOptions
  fromBackEnd : ((r.placeholdersWith fromOptions).entries.mapM fun (name, p) =>
    backEndPlaceholder registry r name p) = .ok backEnd
  fromFrontEnd : frontEndParameters registry r r.permissions = .ok frontEnd

namespace Layered

variable {fromOptions : Table Placeholder} {backEnd frontEnd : List (String × Parameter)}
  {configured values : Bound}

lemma backEnd_keys (h : Layered registry r fromOptions backEnd frontEnd) :
    backEnd.map Prod.fst = (r.placeholdersWith fromOptions).keys :=
  map_of_mapM_eq_ok (fun _ _ hentry => (backEndPlaceholder_eq_ok hentry).1) h.fromBackEnd

lemma backEnd_nodup (h : Layered registry r fromOptions backEnd frontEnd) :
    (backEnd.map Prod.fst).Nodup := by
  rw [h.backEnd_keys]
  exact Table.nodup_keys _

lemma frontEnd_nodup (h : Layered registry r fromOptions backEnd frontEnd) :
    (frontEnd.map Prod.fst).Nodup := by
  rw [frontEndParameters_keys h.fromFrontEnd]
  exact Table.nodup_keys _

lemma mem_keys (h : Layered registry r fromOptions backEnd frontEnd) {name : String} :
    name ∈ (backEnd ++ frontEnd).map Prod.fst ↔ r.NamesPlaceholder fromOptions name := by
  rw [List.map_append, List.mem_append, h.backEnd_keys, frontEndParameters_keys h.fromFrontEnd,
    mem_keys_placeholdersWith, NamesPlaceholder, or_assoc, or_assoc]

/-- No placeholder that is accepted has a reserved name. -/
lemma free (h : Layered registry r fromOptions backEnd frontEnd) {name : String}
    (hname : r.NamesPlaceholder fromOptions name) : isReserved name = false := by
  rw [← h.mem_keys, List.map_append, List.mem_append] at hname
  rcases hname with hname | hname
  · obtain ⟨entry, hentry, rfl⟩ := List.mem_map.mp hname
    obtain ⟨p, -, hp⟩ := mem_of_mapM_eq_ok h.fromBackEnd hentry
    obtain ⟨hkey, hreserved⟩ := backEndPlaceholder_eq_ok hp
    rw [hkey]
    exact hreserved
  · exact frontEndParameters_not_reserved h.fromFrontEnd hname

lemma get?_config (h : Layered registry r fromOptions backEnd frontEnd) (i : Nat) :
    (Table.ofList (allParameters configured backEnd frontEnd values)).get? (paramName config i) =
      configured[i]?.map fun v => ⟨v, none⟩ :=
  get?_parameters_config h.backEnd_nodup h.frontEnd_nodup
    (fun _ hname => h.free (h.mem_keys.mp hname)) i

/-- A placeholder of the front end is found with the value that its hooks made of it. -/
lemma get?_frontEnd (h : Layered registry r fromOptions backEnd frontEnd) {name : String}
    {p : FrontEndPlaceholder} (hp : r.frontEnd.query.placeholders.get? name = some p) :
    ∃ after, Placed registry r.permissions.placeholders r.ctx name p.value after ∧
      (Table.ofList (allParameters configured backEnd frontEnd values)).get? name =
        some ⟨after, p.paramType⟩ := by
  obtain ⟨made, hmade, hlookup⟩ := lookup_of_mapM_eq_ok
    (f := frontEndPlaceholder registry r r.permissions.placeholders)
    (fun _ _ _ hentry => (frontEndPlaceholder_eq_ok hentry).1) h.fromFrontEnd hp
  obtain ⟨hfree, after, hplaced, hafter⟩ := frontEndPlaceholder_eq_ok_iff.mp hmade
  refine ⟨after, hplaced, ?_⟩
  rw [get?_parameters_of_free h.backEnd_nodup h.frontEnd_nodup hfree, hlookup]
  cases hafter
  rfl

/-- Any other placeholder is found with the value that its highest layer resolves to. -/
lemma get?_backEnd (h : Layered registry r fromOptions backEnd frontEnd) {name : String}
    {p : Placeholder} (hnone : r.frontEnd.query.placeholders.get? name = none)
    (hp : r.backEndPlaceholder? fromOptions name = some p) :
    ∃ value paramType, p.value.resolve registry r.ctx = .ok value ∧
      Resolve.text? registry r.ctx "placeholder type" p.paramType = .ok paramType ∧
      (Table.ofList (allParameters configured backEnd frontEnd values)).get? name =
        some ⟨value, paramType⟩ := by
  rw [← get?_placeholdersWith] at hp
  obtain ⟨made, hmade, hlookup⟩ := lookup_of_mapM_eq_ok
    (f := backEndPlaceholder registry r)
    (fun _ _ _ hentry => (backEndPlaceholder_eq_ok hentry).1) h.fromBackEnd hp
  obtain ⟨hfree, value, paramType, hvalue, htype, heq⟩ := backEndPlaceholder_eq_ok_iff.mp hmade
  have habsent : name ∉ frontEnd.map Prod.fst := by
    rw [frontEndParameters_keys h.fromFrontEnd]
    intro hmem
    obtain ⟨entry, hentry, rfl⟩ := List.mem_map.mp hmem
    have hfound := Table.lookup_eq_some_of_mem (Table.nodup _) hentry
    rw [Table.get?, hfound] at hnone
    cases hnone
  refine ⟨value, paramType, hvalue, htype, ?_⟩
  rw [get?_parameters_of_free h.backEnd_nodup h.frontEnd_nodup hfree, hlookup,
    Table.lookup_eq_none_of_notMem habsent]
  cases heq
  rfl

end Layered

/-! ## Names in both clauses -/

/-- No configured name is generated for the front end. -/
lemma count_configured {names : List String} (h : Configured names) (j : Nat) :
    names.count (paramName Bound.frontEnd j) = 0 := by
  refine List.count_eq_zero.mpr fun hmem => ?_
  obtain ⟨i, hi⟩ := h _ hmem
  exact config_ne_frontEnd i j hi.symm

/-- The names that two clauses add to base clauses, the second going on where the first stops. -/
structure Extends (configured bound values : Bound)
    (base baseHaving added addedHaving : List String) : Prop where
  base : Within config configured base
  baseHaving : Within config configured baseHaving
  added : Numbered Bound.frontEnd [] bound added
  addedHaving : Numbered Bound.frontEnd bound values addedHaving

namespace Extends

variable {configured bound values : Bound} {base baseHaving added addedHaving : List String}

/-- The names added to both clauses, one after the other, are numbered from zero. -/
lemma eq_range (h : Extends configured bound values base baseHaving added addedHaving) :
    bound.length ≤ values.length ∧
      added = (List.range' 0 bound.length).map (paramName Bound.frontEnd) ∧
      addedHaving = (List.range' bound.length (values.length - bound.length)).map
        (paramName Bound.frontEnd) := by
  obtain ⟨first, hfirst, hadded⟩ := h.added
  obtain ⟨more, rfl, haddedHaving⟩ := h.addedHaving
  rw [List.nil_append] at hfirst
  subst hfirst
  rw [List.length_append]
  refine ⟨Nat.le_add_right _ _, hadded, ?_⟩
  rw [Nat.add_sub_cancel_left, haddedHaving]

/-- Each of them is named once in both clauses together. -/
lemma count_eq_one (h : Extends configured bound values base baseHaving added addedHaving)
    {j : Nat} (hj : j < values.length) :
    ((base ++ added) ++ (baseHaving ++ addedHaving)).count (paramName Bound.frontEnd j) = 1 := by
  have hboth : added ++ addedHaving =
      (List.range values.length).map (paramName Bound.frontEnd) := by
    obtain ⟨hle, hadded, haddedHaving⟩ := h.eq_range
    have hrange := List.range'_append_1 (s := 0) (m := bound.length)
      (n := values.length - bound.length)
    rw [Nat.zero_add, Nat.add_sub_cancel' hle] at hrange
    rw [hadded, haddedHaving, ← List.map_append, hrange, List.range_eq_range']
  have honce : (added ++ addedHaving).count (paramName Bound.frontEnd j) = 1 := by
    rw [hboth]
    refine List.count_eq_one_of_mem (nodup_map_paramName _ List.nodup_range) ?_
    exact List.mem_map.mpr ⟨j, List.mem_range.mpr hj, rfl⟩
  rw [List.count_append] at honce
  rw [List.count_append, List.count_append, List.count_append,
    count_configured h.base.configured, count_configured h.baseHaving.configured, Nat.zero_add,
    Nat.zero_add, honce]

/-- Every name belongs to a configured value or to one of the front end. -/
lemma mem (h : Extends configured bound values base baseHaving added addedHaving) {name : String}
    (hname : name ∈ (base ++ added) ++ (baseHaving ++ addedHaving)) :
    (∃ i < configured.length, name = paramName config i) ∨
      ∃ j < values.length, name = paramName Bound.frontEnd j := by
  have hadded := h.added.within.mono h.addedHaving.le
  have haddedHaving := h.addedHaving.within
  simp only [List.mem_append] at hname
  rcases hname with (hname | hname) | hname | hname
  · exact .inl (h.base name hname)
  · exact .inr (hadded name hname)
  · exact .inl (h.baseHaving name hname)
  · exact .inr (haddedHaving name hname)

end Extends

/-! ## Compiled queries -/

/-- The parameters of a query that is authorized from a base query. -/
lemma parameterized_of_stages {fromOptions : Table Placeholder}
    {backEnd frontEnd : List (String × Parameter)} {spec q : QuerySpec}
    {configured bound values : Bound} {conditions having : Option Expr}
    (hlayered : Layered registry r fromOptions backEnd frontEnd)
    (hbase : baseQuery registry r = .ok (spec, configured))
    (hconditions : Numbered Bound.frontEnd [] bound (Expr.clauseNames conditions))
    (hhaving : Numbered Bound.frontEnd bound values (Expr.clauseNames having))
    (hq : q.conditions = Expr.narrow spec.conditions conditions ∧
      q.having = Expr.narrow spec.having having ∧
      q.parameters = .ofList (allParameters configured backEnd frontEnd values)) :
    r.Parameterized registry fromOptions values.length q := by
  obtain ⟨hbaseNames, hbaseHaving⟩ := baseQuery_within hbase
  have hextends : Extends configured bound values (Expr.clauseNames spec.conditions)
      (Expr.clauseNames spec.having) (Expr.clauseNames conditions) (Expr.clauseNames having) :=
    ⟨hbaseNames, hbaseHaving, hconditions, hhaving⟩
  obtain ⟨hle, hadded, haddedHaving⟩ := hextends.eq_range
  have hvalues := configured_eq hbase
  obtain ⟨hqconditions, hqhaving, hqparameters⟩ := hq
  have hkeys : ∀ name, name ∈ q.parameters.keys ↔
      (∃ i < (r.configuredValues registry).length, name = paramName config i) ∨
        r.NamesPlaceholder fromOptions name ∨
        ∃ j < values.length, name = paramName Bound.frontEnd j := by
    intro name
    rw [hqparameters, mem_keys_parameters, hlayered.mem_keys, hvalues]
  constructor
  case distinct => exact q.parameters.nodup_keys
  case keys => exact hkeys
  case apart =>
    intro name hname i
    have hfree := hlayered.free hname
    constructor
    · rintro rfl
      rw [isReserved_config] at hfree
      cases hfree
    · rintro rfl
      rw [isReserved_frontEnd] at hfree
      cases hfree
  case configured =>
    intro i hi
    rw [hqparameters, hlayered.get?_config, hvalues]
  case frontEnd =>
    intro name p hp
    rw [hqparameters]
    exact hlayered.get?_frontEnd hp
  case backEnd =>
    intro name p hnone hp
    rw [hqparameters]
    exact hlayered.get?_backEnd hnone hp
  case numbered =>
    refine ⟨_, _, bound.length, hle, hbaseNames.configured, hbaseHaving.configured, ?_, ?_⟩
    · rw [hqconditions, Expr.clauseNames_narrow, hadded]
    · rw [hqhaving, Expr.clauseNames_narrow, haddedHaving]
  case once =>
    intro j hj
    rw [hqconditions, hqhaving, Expr.clauseNames_narrow, Expr.clauseNames_narrow]
    exact hextends.count_eq_one hj
  case bound =>
    intro name hname
    rw [hqconditions, hqhaving, Expr.clauseNames_narrow, Expr.clauseNames_narrow] at hname
    rw [hkeys]
    rcases hextends.mem hname with hconfigured | hfrontEnd
    · rw [hvalues] at hconfigured
      exact .inl hconfigured
    · exact .inr (.inr hfrontEnd)

/-- The parameters of a compiled query are the configured values, the placeholders of the highest
layers and the values of the front end, each under a name of its own. -/
theorem compile_parameterized (registry : Registry) (r : ReadRequest) (q : QuerySpec)
    (h : (compile registry r).outcome.1 = .ok q) :
    ∃ fromOptions count, r.optionPlaceholders? = some fromOptions ∧
      r.Parameterized registry fromOptions count q := by
  obtain ⟨checked, spec, configured, authorized, hres, hauth, hass⟩ := compile_eq_ok.mp h
  obtain ⟨-, -, hbase⟩ := resolving_eq_ok.mp hres
  obtain ⟨backEnd, frontEnd, conditions, bound, having, values, orders, hbackEnd, hfrontEnd,
    hconditions, hhaving, -, -, rfl⟩ := authorizing_eq_ok.mp hauth
  obtain ⟨limit, offset, shaping, rfl, -⟩ := assembling_eq_ok hass
  obtain ⟨fromOptions, hoptions, hentries⟩ := backEndParameters_eq_ok hbackEnd
  refine ⟨fromOptions, values.length, hoptions, ?_⟩
  have hlayered : Layered registry r fromOptions backEnd frontEnd :=
    ⟨hoptions, hentries, hfrontEnd⟩
  exact parameterized_of_stages hlayered hbase (Checked.buildAll_names hconditions)
    (Checked.buildAll_names hhaving) ⟨rfl, rfl, rfl⟩

/-- Albums with a number in each base clause, and with placeholders among the settings and the
options. -/
def numberedAlbums : EntityConfig :=
  { (default : EntityConfig) with
    read := { (default : ReadRules) with
      query := { (default : BaseQuery) with
        conditions := .ofList [("shop", ⟨.and, .expression "eq"
          [.value (.literal (.str "t.shop")), .value (.literal (.nat 7))]⟩)]
        having := .ofList [("sold", ⟨.and, .expression "gt"
          [.value (.literal (.str "t.sold")), .value (.literal (.nat 1))]⟩)] }
      settings := { (default : ReadSettings) with
        placeholders := .ofList [("a", ⟨.literal (.str "settings"), none⟩),
          ("b", ⟨.literal (.str "settings"), none⟩), ("c", ⟨.literal (.str "settings"), none⟩),
          ("d", ⟨.literal (.str "settings"), none⟩)] }
      options := .ofList [("placeholders", .literal (.ofFields
        [("b", .ofFields [("value", .str "options")])]))]
      permissions := { (default : ReadPermissions) with
        conditions := permissiveNode
        having := permissiveNode
        placeholders := permissiveNode } } }

/-- A request with a list of years, a bound on what is sold, and a placeholder from each end. -/
def numberedRequest : ReadRequest where
  entityType := "album"
  config := numberedAlbums
  frontEnd := { (default : FrontEndOptions) with
    query := { (default : FrontEndQuery) with
      conditions := [⟨some "t.year", .or, "in", [.nat 1970, .nat 1971], []⟩]
      having := [⟨some "t.sold", .and, "lt", [.nat 9], []⟩]
      placeholders := .ofList [("d", ⟨.str "client", none⟩)] } }
  overrides := { (default : CallOptions) with
    placeholders := .ofList [("c", ⟨.literal (.str "call"), none⟩)] }
  ctx := .ofCall .null .null .null .null

/-- The query of that request: each placeholder has the value of its highest layer. -/
def numberedQuery : QuerySpec where
  entityType := "album"
  select := ["t"]
  sources := [⟨"album", "t", none⟩]
  joins := []
  conditions := some (.and [.predicate "t.shop" .eq [.param "configParam0"],
    .predicate "t.year" .isIn [.param "frontEndParam0"]])
  having := some (.and [.predicate "t.sold" .gt [.param "configParam1"],
    .predicate "t.sold" .lt [.param "frontEndParam1"]])
  orderBy := []
  groupBy := []
  parameters := .ofList [("configParam0", ⟨.nat 7, none⟩), ("configParam1", ⟨.nat 1, none⟩),
    ("a", ⟨.str "settings", none⟩), ("b", ⟨.str "options", none⟩), ("c", ⟨.str "call", none⟩),
    ("d", ⟨.str "client", none⟩), ("frontEndParam0", ⟨.arr [.nat 1970, .nat 1971], none⟩),
    ("frontEndParam1", ⟨.nat 9, none⟩)]
  cache := ⟨true, true, true, none, none, none, none⟩
  limit := 25
  offset := 1
  shaping := .standard

lemma numberedRequest_compiles :
    (compile .standard numberedRequest).outcome.1 = .ok numberedQuery := by
  have hchecked : CheckedQuery.of numberedRequest.frontEnd.query =
      .ok ⟨[.leaf .or "t.year" .isIn [.literal (.nat 1970), .literal (.nat 1971)]],
        [.leaf .and "t.sold" .lt [.literal (.nat 9)]], [], []⟩ := by
    simp only [CheckedQuery.of, numberedRequest, Condition.check, List.mapM_cons,
      Condition.checkWithin, Condition.checkArguments]
    rfl
  exact compile_eq_ok.mpr ⟨_, _, _, _, resolving_eq_ok.mpr ⟨hchecked, rfl, rfl⟩, rfl, rfl⟩

/-- Four layers, two base clauses and two clauses of a client, and none gets in the way of the
others. -/
theorem numberedQuery_parameterized :
    (compile .standard numberedRequest).outcome.1 = .ok numberedQuery ∧
      ∃ fromOptions count, numberedRequest.optionPlaceholders? = some fromOptions ∧
        numberedRequest.Parameterized .standard fromOptions count numberedQuery :=
  ⟨numberedRequest_compiles,
    compile_parameterized .standard numberedRequest numberedQuery numberedRequest_compiles⟩

end Compile

end EntityGate
