/-
# Front-end options as query pairs

How front-end options are written as pairs of texts, and which of them can be.  Each condition has a
key of its own: it begins with what the condition asks, and ends in digits that no other condition
has.  Such a key is cut at the last underscore, so a field may end in digits itself.

Not all options can be written.  Values are typed by their looks, the key of a placeholder is cut at
the first underscore, and conditions inside of others are written as JSON, which is read only so
deep.
-/
import EntityGate.Proofs.Grammar
import EntityGate.Proofs.Reading
import EntityGate.Request.GetParams

namespace EntityGate

open Decision

namespace GetParams

/-! ## The encoding -/

/-- How conditions are told apart: their keys end in digits, others for each of them, and where
there is no field a label stands for it. -/
structure Scheme where
  suffix : Nat → List Char
  label : Nat → List Char
  digits : ∀ i, suffix i ≠ [] ∧ ∀ c ∈ suffix i, c.isDigit = true
  distinct : ∀ {i j}, suffix i = suffix j → i = j
  words : ∀ i, Text.IsRun (label i)

/-- A field with its dots turned into dashes. -/
def dashed (field : String) : List Char :=
  field.toList.map fun c => if c = '.' then '-' else c

/-- What stands for the field in the key of a condition. -/
def subject (scheme : Scheme) (i : Nat) (c : Condition) : List Char :=
  match c.field with
  | some field => dashed field
  | none => scheme.label i

/-- The key of a condition. -/
def keyOf (scheme : Scheme) (i : Nat) (having : Bool) (c : Condition) : List Char :=
  (c.connective.name ++ "_").toList ++ (if having then "having_" else "where_").toList ++
    c.operator.toList ++ '_' :: (subject scheme i c ++ '_' :: scheme.suffix i)

/-- The texts of a condition: its arguments, or the conditions that it combines. -/
def textsOf (c : Condition) : List String :=
  match Operator.ofName? c.operator with
  | some .andX | some .orX => [(Json.arr (Condition.toJsonItems c.conditions)).compact]
  | some .isNull | some .isNotNull => [""]
  | _ => c.arguments.map Json.textOrCompact

/-- The pairs of a condition, with brackets at the key if there are several. -/
def pairsOf (scheme : Scheme) (i : Nat) (having : Bool) (c : Condition) : List (String × String) :=
  let key := String.ofList (keyOf scheme i having c)
  match textsOf c with
  | [text] => [(key, text)]
  | texts => texts.map fun text => (key ++ "[]", text)

/-- The conditions of both clauses, numbered. -/
def numbered (q : FrontEndQuery) : List ((Bool × Condition) × Nat) :=
  (q.conditions.map (Prod.mk false) ++ q.having.map (Prod.mk true)).zipIdx

/-- The pair of an order. -/
def orderPair (entry : String × String) : String × String :=
  ("orderBy_" ++ String.ofList (dashed entry.1), entry.2)

/-- The pair of a placeholder: its type comes behind its name. -/
def placeholderPair (entry : String × FrontEndPlaceholder) : String × String :=
  ("placeholder_" ++ entry.1 ++ (entry.2.paramType.map fun t => "_" ++ t).getD "",
    entry.2.value.textOrCompact)

/-- The pair of an option. -/
def optionPair (entry : String × Json) : String × String :=
  ("option_" ++ entry.1, entry.2.textOrCompact)

/-- Front-end options as pairs. -/
def encode (scheme : Scheme) (o : FrontEndOptions) : List (String × String) :=
  (numbered o.query).flatMap (fun ((having, c), i) => pairsOf scheme i having c) ++
    o.query.orderBy.entries.map orderPair ++
    o.query.groupBy.map (fun field => ("groupBy[]", field)) ++
    o.query.placeholders.entries.map placeholderPair ++
    (o.options.toJson.fields?.getD []).map optionPair

/-! ## What can be encoded -/

/-- A value whose text is decoded as the value. -/
inductive Argument : Json → Prop
  | bool (b : Bool) : Argument (.bool b)
  | int {n : Int} : Number.FitsWord n → Argument (.num (.int n))
  | text {s : String} : (∀ n, Json.read? s ≠ some (.num n)) → (∀ b, Json.read? s ≠ some (.bool b)) →
    Argument (.str s)

/-- Conditions that can be read from their JSON text: it holds canonical values without floats, and
is nested no deeper than the reader goes. -/
structure Legible (conditions : List Condition) : Prop where
  canonical : (Json.arr (Condition.toJsonItems conditions)).Canonical
  whole : (Json.arr (Condition.toJsonItems conditions)).isWhole = true
  depth : (Json.arr (Condition.toJsonItems conditions)).depth ≤ 127

/-- The conditions that can be encoded. -/
inductive Encodable : Condition → Prop
  /-- A combination of conditions, and nothing else. -/
  | group {connective : Connective} {operator : Operator} {conditions : List Condition} :
    connective ≠ .none → operator.isCombinator = true → Legible conditions →
      Encodable ⟨none, connective, operator.name, [], conditions⟩
  /-- A test for `null`. -/
  | null {connective : Connective} {operator : Operator} {field : String} :
    connective ≠ .none → operator = .isNull ∨ operator = .isNotNull → Field.WellFormed field →
      Encodable ⟨some field, connective, operator.name, [], []⟩
  /-- Any other test, with at least one argument. -/
  | test {connective : Connective} {operator : Operator} {field : String}
    {arguments : List Json} : connective ≠ .none → operator.isCombinator = false →
      operator ≠ .isNull → operator ≠ .isNotNull → Field.WellFormed field → arguments ≠ [] →
        (∀ v ∈ arguments, Argument v) →
          Encodable ⟨some field, connective, operator.name, arguments, []⟩

end GetParams

/-- The front-end options that can be encoded. -/
structure FrontEndOptions.Encodable (o : FrontEndOptions) : Prop where
  conditions : ∀ c ∈ o.query.conditions, GetParams.Encodable c
  having : ∀ c ∈ o.query.having, GetParams.Encodable c
  orders : ∀ field ∈ o.query.orderBy.keys, Field.WellFormed field
  groups : ∀ field ∈ o.query.groupBy, Field.WellFormed field
  placeholders : ∀ entry ∈ o.query.placeholders.entries, '_' ∉ entry.1.toList ∧
    ¬ ['[', ']'] <:+ (GetParams.placeholderPair entry).1.toList ∧ GetParams.Argument entry.2.value
  limit : ∀ n ∈ o.options.limit, Number.FitsWord n
  offset : ∀ n ∈ o.options.offset, Number.FitsWord n

namespace GetParams

/-! ## Values -/

lemma scalar_of_read? {v : Json} (hread : Json.read? v.textOrCompact = some v)
    (hv : (∃ n, v = .num n) ∨ ∃ b, v = .bool b) : scalar v.textOrCompact = v := by
  rw [scalar, hread]
  rcases hv with ⟨n, rfl⟩ | ⟨b, rfl⟩ <;> rfl

/-- A value that is an argument is decoded as itself. -/
lemma Argument.scalar {v : Json} (h : Argument v) : scalar v.textOrCompact = v := by
  cases h with
  | bool b => cases b <;> rfl
  | int hword =>
    refine scalar_of_read? ?_ (.inl ⟨_, rfl⟩)
    exact Json.read?_compact (decide_eq_true hword)
  | text hnum hbool =>
    rename_i s
    show GetParams.scalar s = .str s
    unfold GetParams.scalar
    split
    · rename_i hread
      exact absurd hread (hnum _)
    · rename_i hread
      exact absurd hread (hbool _)
    · rfl

/-! ## Fields and labels -/

lemma ne_of_isWord {c d : Char} (hc : Text.isWord c = true) (hd : Text.isWord d = false) :
    c ≠ d := by
  rintro rfl
  rw [hc] at hd
  cases hd

lemma isWord_of_mem {field : String} (h : Field.WellFormed field) {c : Char}
    (hc : c ∈ field.toList) : c = '.' ∨ Text.isWord c = true := by
  obtain ⟨scope, column, hscope, hcolumn, hfield⟩ := h
  rw [hfield, List.mem_append, List.mem_cons] at hc
  rcases hc with hc | rfl | hc
  · exact .inr (hscope.2 c hc)
  · exact .inl rfl
  · exact .inr (hcolumn.2 c hc)

/-- Dashes are turned back into the dots that they stand for, since fields have none themselves. -/
lemma fieldOf_dashed {field : String} (h : Field.WellFormed field) :
    fieldOf (dashed field) = field := by
  have hback : (dashed field).map (fun c => if c = '-' then '.' else c) = field.toList := by
    rw [dashed, List.map_map]
    refine (List.map_congr_left fun c hc => ?_).trans (List.map_id _)
    rcases isWord_of_mem h hc with rfl | hword
    · rfl
    · have hdot : c ≠ '.' := ne_of_isWord hword (by decide)
      have hdash : c ≠ '-' := ne_of_isWord hword (by decide)
      simp [hdot, hdash]
  rw [fieldOf, hback, String.ofList_toList]

lemma fieldOf_toList {field : String} (h : Field.WellFormed field) :
    fieldOf field.toList = field := by
  have hsame : field.toList.map (fun c => if c = '-' then '.' else c) = field.toList := by
    refine (List.map_congr_left fun c hc => ?_).trans (List.map_id _)
    have hdash : c ≠ '-' := by
      rcases isWord_of_mem h hc with rfl | hword
      · decide
      · exact ne_of_isWord hword (by decide)
    simp [hdash]
  rw [fieldOf, hsame, String.ofList_toList]

/-- A field in a key is not empty, and made of word characters and dashes. -/
lemma dashed_chars {field : String} (h : Field.WellFormed field) : dashed field ≠ [] ∧
    ∀ c ∈ dashed field, c = '-' ∨ Text.isWord c = true := by
  constructor
  · obtain ⟨scope, column, -, -, hfield⟩ := h
    simp [dashed, hfield]
  · intro c hc
    obtain ⟨d, hd, rfl⟩ := List.mem_map.mp hc
    rcases isWord_of_mem h hd with rfl | hword
    · exact .inl rfl
    · rw [if_neg (ne_of_isWord hword (by decide))]
      exact .inr hword

/-- What stands for the field is not empty, and made of word characters and dashes. -/
lemma subject_chars (scheme : Scheme) (i : Nat) {c : Condition}
    (h : ∀ field, c.field = some field → Field.WellFormed field) : subject scheme i c ≠ [] ∧
      ∀ d ∈ subject scheme i c, d = '-' ∨ Text.isWord d = true := by
  unfold subject
  split
  · rename_i field hfield
    exact dashed_chars (h field hfield)
  · exact ⟨(scheme.words i).1, fun d hd => .inr ((scheme.words i).2 d hd)⟩

/-! ## Keys of conditions -/

lemma isDecimalDigit_of_isDigit {c : Char} (h : c.isDigit = true) :
    Text.isDecimalDigit c = true := by
  have hascii : c.toNat < 128 := by
    simp only [Char.isDigit, Bool.and_eq_true, decide_eq_true_eq] at h
    have hle : c.val ≤ 57 := h.2
    have hnat := UInt32.le_iff_toNat_le.mp hle
    show c.val.toNat < 128
    exact Nat.lt_of_le_of_lt hnat (by decide)
  rw [Text.isDecimalDigit, if_pos hascii, h]

/-- The digits at the end of a text, behind a character that is none. -/
lemma takeWhile_reverse (front : List Char) {p : Char → Bool} {digits : List Char} {mark : Char}
    (hdigits : ∀ c ∈ digits, p c = true) (hmark : p mark = false) :
    (front ++ mark :: digits).reverse.takeWhile p = digits.reverse ∧
      (front ++ mark :: digits).reverse.dropWhile p = mark :: front.reverse := by
  have hall : ∀ c ∈ digits.reverse, p c = true := fun c hc => hdigits c (List.mem_reverse.mp hc)
  rw [List.reverse_append, List.reverse_cons, List.append_assoc, List.singleton_append,
    List.takeWhile_append_of_pos hall, List.dropWhile_append_of_pos hall,
    List.takeWhile_cons_of_neg (by simp [hmark]), List.dropWhile_cons_of_neg (by simp [hmark]),
    List.append_nil]
  exact ⟨rfl, rfl⟩

/-- A number at the end is dropped, and what it numbers is left as it is, also where it ends in a
number itself. -/
lemma dropNumber_append {front digits : List Char} (hfront : front ≠ []) (hne : digits ≠ [])
    (hdigits : ∀ c ∈ digits, c.isDigit = true) : dropNumber (front ++ '_' :: digits) = front := by
  -- the digits are cut off as a whole: the underscore in front of them is none
  have hdecimal : ∀ c ∈ digits, Text.isDecimalDigit c = true := fun c hc =>
    isDecimalDigit_of_isDigit (hdigits c hc)
  have hmark : Text.isDecimalDigit '_' = false := by decide
  obtain ⟨htake, hdrop⟩ := takeWhile_reverse front hdecimal hmark
  have hreversed : digits.reverse ≠ [] := fun hnil => hne (List.reverse_eq_nil_iff.mp hnil)
  obtain ⟨d, ds, hds⟩ := List.exists_cons_of_ne_nil hreversed
  obtain ⟨c, rest, hrest⟩ :=
    List.exists_cons_of_ne_nil fun hnil => hfront (List.reverse_eq_nil_iff.mp hnil)
  rw [dropNumber]
  simp only [htake, hdrop, hds, hrest]
  rw [← hrest, List.reverse_reverse]

lemma after?_append (word : String) (cs : List Char) :
    after? word (word.toList ++ cs) = some cs := by
  have hstart : word.toList.isPrefixOf (word.toList ++ cs) = true := by simp
  rw [after?, if_pos hstart, ← String.length_toList, List.drop_left]

/-- The first word of a key is read as the connective. -/
lemma connective_read {connective : Connective} (h : connective ≠ .none) (cs : List Char) :
    (((after? "and_" ((connective.name ++ "_").toList ++ cs)).map
        fun cs => (Connective.and, cs)) <|>
      ((after? "or_" ((connective.name ++ "_").toList ++ cs)).map
        fun cs => (Connective.or, cs))) = some (connective, cs) := by
  cases connective with
  | none => exact absurd rfl h
  | and =>
    have hand : after? "and_" ((Connective.and.name ++ "_").toList ++ cs) = some cs :=
      after?_append "and_" cs
    rw [hand]
    rfl
  | or =>
    have hnot : after? "and_" ((Connective.or.name ++ "_").toList ++ cs) = none := rfl
    have hor : after? "or_" ((Connective.or.name ++ "_").toList ++ cs) = some cs :=
      after?_append "or_" cs
    rw [hnot, hor]
    rfl

/-- The second one is read as the clause. -/
lemma clause_read (having : Bool) (cs : List Char) :
    (((after? "where_" ((if having then "having_" else "where_").toList ++ cs)).map
        fun cs => (false, cs)) <|>
      ((after? "having_" ((if having then "having_" else "where_").toList ++ cs)).map
        fun cs => (true, cs))) = some (having, cs) := by
  cases having with
  | false =>
    have hwhere : after? "where_" ((if false then "having_" else "where_").toList ++ cs) =
        some cs := after?_append "where_" cs
    rw [hwhere]
    rfl
  | true =>
    have hnot : after? "where_" ((if true then "having_" else "where_").toList ++ cs) = none := rfl
    have hhaving : after? "having_" ((if true then "having_" else "where_").toList ++ cs) =
        some cs := after?_append "having_" cs
    rw [hnot, hhaving]
    rfl

/-- What is asked of a condition is read off its key, up to the number at the end. -/
lemma conditionKey?_start {connective : Connective} (hconnective : connective ≠ .none)
    (having : Bool) {operator : List Char} (encoded : List Char) (hne : operator ≠ [])
    (halpha : ∀ c ∈ operator, c.isAlpha = true) (hfield : dropNumber encoded ≠ [])
    (hline : '\n' ∉ dropNumber encoded) :
    conditionKey? ((connective.name ++ "_").toList ++
      (if having then "having_" else "where_").toList ++ operator ++ '_' :: encoded) =
        some ⟨connective, having, String.ofList operator, fieldOf (dropNumber encoded)⟩ := by
  have htake : (operator ++ '_' :: encoded).takeWhile Char.isAlpha = operator := by
    rw [List.takeWhile_append_of_pos halpha, List.takeWhile_cons_of_neg (by decide),
      List.append_nil]
  have hdrop : (operator ++ '_' :: encoded).dropWhile Char.isAlpha = '_' :: encoded := by
    rw [List.dropWhile_append_of_pos halpha, List.dropWhile_cons_of_neg (by decide)]
  have hcheck : (operator.isEmpty || (dropNumber encoded).isEmpty ||
      (dropNumber encoded).contains '\n') = false := by
    simp [hne, hfield, hline]
  rw [List.append_assoc, List.append_assoc, conditionKey?]
  simp only [connective_read hconnective, clause_read, Option.bind_eq_bind, Option.bind_some, htake,
    hdrop, hcheck]
  rfl

lemma isAlpha_name (operator : Operator) : operator.name.toList ≠ [] ∧
    ∀ c ∈ operator.name.toList, c.isAlpha = true := by
  have hall : operator.name.toList.all Char.isAlpha = true := by cases operator <;> decide
  exact ⟨by cases operator <;> decide, List.all_eq_true.mp hall⟩

section

variable {scheme : Scheme} {c : Condition}

lemma Encodable.connective (h : Encodable c) : c.connective ≠ .none := by
  cases h <;> assumption

lemma Encodable.operator (h : Encodable c) : ∃ operator : Operator, c.operator = operator.name := by
  cases h <;> exact ⟨_, rfl⟩

lemma Encodable.field (h : Encodable c) : ∀ field, c.field = some field →
    Field.WellFormed field := by
  cases h with
  | group => exact fun _ hfield => nomatch hfield
  | null _ _ hfield =>
    rintro _ ⟨⟩
    exact hfield
  | test _ _ _ _ hfield =>
    rintro _ ⟨⟩
    exact hfield

/-- The key of a condition is read as what it says. -/
lemma conditionKey?_keyOf (h : Encodable c) (i : Nat) (having : Bool) :
    conditionKey? (keyOf scheme i having c) =
      some ⟨c.connective, having, c.operator, fieldOf (subject scheme i c)⟩ := by
  obtain ⟨operator, hoperator⟩ := h.operator
  obtain ⟨hne, hchars⟩ := subject_chars scheme i h.field
  obtain ⟨hdigitsNe, hdigits⟩ := scheme.digits i
  have hdrop : dropNumber (subject scheme i c ++ '_' :: scheme.suffix i) = subject scheme i c :=
    dropNumber_append hne hdigitsNe hdigits
  have hline : '\n' ∉ subject scheme i c := by
    intro hmem
    rcases hchars _ hmem with hdash | hword
    · exact absurd hdash (by decide)
    · exact absurd hword (by decide)
  have hkey := conditionKey?_start h.connective having
    (subject scheme i c ++ '_' :: scheme.suffix i) (isAlpha_name operator).1
    (isAlpha_name operator).2 (by rwa [hdrop]) (by rwa [hdrop])
  rw [hdrop, String.ofList_toList] at hkey
  rw [keyOf, hoperator]
  exact hkey

/-- Conditions with one key have one number. -/
lemma keyOf_inj {i j : Nat} {having having' : Bool} {c' : Condition}
    (h : keyOf scheme i having c = keyOf scheme j having' c') : i = j := by
  have hdigits : ∀ (i : Nat) (having : Bool) (c : Condition),
      (keyOf scheme i having c).reverse.takeWhile Char.isDigit = (scheme.suffix i).reverse := by
    intro i having c
    rw [keyOf, ← List.cons_append, ← List.append_assoc]
    exact (takeWhile_reverse _ (scheme.digits i).2 (by decide)).1
  have hsuffix := hdigits i having c
  rw [h, hdigits j having' c'] at hsuffix
  exact scheme.distinct (List.reverse_injective hsuffix.symm)

lemma plainKey_eq_self {s : String} (h : ¬ ['[', ']'] <:+ s.toList) : plainKey s = s.toList := by
  unfold plainKey
  split
  · rename_i rest hreversed
    refine absurd ⟨rest.reverse, ?_⟩ h
    rw [← List.reverse_reverse s.toList, hreversed]
    simp
  · rfl

lemma plainKey_brackets (key : List Char) : plainKey (String.ofList key ++ "[]") = key := by
  simp [plainKey]

lemma not_brackets_of_getLast? {cs : List Char} (h : cs.getLast? ≠ some ']') :
    ¬ ['[', ']'] <:+ cs := by
  rintro ⟨front, rfl⟩
  exact h (by simp)

lemma plainKey_keyOf (i : Nat) (having : Bool) :
    plainKey (String.ofList (keyOf scheme i having c)) = keyOf scheme i having c := by
  obtain ⟨hne, hdigits⟩ := scheme.digits i
  have hlast : (keyOf scheme i having c).getLast? ≠ some ']' := by
    obtain ⟨front, d, hsuffix⟩ := (List.eq_nil_or_concat' (scheme.suffix i)).resolve_left hne
    have hd : d ≠ ']' := by
      rintro rfl
      exact absurd (hdigits ']' (by simp [hsuffix])) (by decide)
    rw [keyOf, hsuffix, ← List.cons_append, ← List.append_assoc, ← List.cons_append,
      ← List.append_assoc, List.getLast?_concat]
    exact fun heq => hd (Option.some.inj heq)
  rw [plainKey_eq_self, String.toList_ofList]
  rw [String.toList_ofList]
  exact not_brackets_of_getLast? hlast

lemma mem_pairsOf {i : Nat} {having : Bool} {pair : String × String}
    (h : pair ∈ pairsOf scheme i having c) : plainKey pair.1 = keyOf scheme i having c := by
  unfold pairsOf at h
  dsimp only at h
  split at h
  · rw [List.mem_singleton.mp h]
    exact plainKey_keyOf i having
  · obtain ⟨text, -, rfl⟩ := List.mem_map.mp h
    exact plainKey_brackets _

lemma map_snd_pairsOf (i : Nat) (having : Bool) :
    (pairsOf scheme i having c).map Prod.snd = textsOf c := by
  unfold pairsOf
  dsimp only
  split
  · rename_i text htexts
    exact htexts.symm
  · rw [List.map_map]
    exact List.map_id _

end

end GetParams

end EntityGate
