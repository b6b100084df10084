/-
# What was written is read back

The compact text of a value is read as that value again, as long as its numbers are integers: a
float is written such that the nearest float is itself, but plain JSON is read less exactly than
that.  Lists and objects may be nested as deep as the reader allows, and what is nested more deeply
is not read at all.

The reader takes a value off the front of a text, so what is said of a value is said with any text
behind it that cannot be taken for a part of it: nothing, a comma or a closing bracket.  Each call
of the reader spends fuel, so the proof goes by induction on it, values, items and entries at once.

Conditions and options of a request are written as records, and these are read back as well.
-/
import EntityGate.Json.Compact
import EntityGate.Json.Reader
import EntityGate.Proofs.Depth
import EntityGate.Query.FrontEnd

namespace EntityGate

/-! ## Digits -/

namespace Number

variable {ds rest : List Char} {m : Nat}

lemma le_ofDigitChars (ds : List Char) (n : Nat) : n ≤ Nat.ofDigitChars 10 ds n := by
  induction ds generalizing n with
  | nil => exact Nat.le_refl n
  | cons d ds ih =>
    rw [Nat.ofDigitChars_cons]
    exact Nat.le_trans (by omega) (ih _)

/-- Digits whose value fits into a word are all taken. -/
lemma appendFitting_eq {n : Nat} (h : Nat.ofDigitChars 10 ds n < Nat.pow 2 64) :
    appendFitting n ds = (Nat.ofDigitChars 10 ds n, []) := by
  induction ds generalizing n with
  | nil => rfl
  | cons d ds ih =>
    rw [Nat.ofDigitChars_cons] at h ⊢
    rw [appendFitting, if_pos (Nat.lt_of_le_of_lt (le_ofDigitChars ds _) h), ih h]

lemma appendFitting_toDigits (h : m < Nat.pow 2 64) :
    appendFitting 0 (Nat.toDigits 10 m) = (m, []) := by
  have hvalue : Nat.ofDigitChars 10 (Nat.toDigits 10 m) 0 = m := Nat.ofDigitChars_ten_toDigits
  rw [appendFitting_eq (by rwa [hvalue]), hvalue]

/-- Digits are read up to the first character that is none. -/
lemma digits?_append (hne : ds ≠ []) (hds : ∀ c ∈ ds, c.isDigit = true)
    (hrest : ∀ c ∈ rest.head?, c.isDigit = false) : digits? (ds ++ rest) = some (ds, rest) := by
  have hstop : rest.takeWhile Char.isDigit = [] ∧ rest.dropWhile Char.isDigit = rest := by
    cases rest with
    | nil => exact ⟨rfl, rfl⟩
    | cons c rest =>
      have hc := hrest c rfl
      simp [hc]
  obtain ⟨d, more, rfl⟩ := List.exists_cons_of_ne_nil hne
  rw [digits?, List.takeWhile_append_of_pos hds, List.dropWhile_append_of_pos hds, hstop.1,
    hstop.2, List.append_nil]

/-- A number is written without zeros in front. -/
lemma head?_toDigits (h : 0 < m) : (Nat.toDigits 10 m).head? ≠ some '0' := by
  induction m using Nat.strongRecOn with
  | ind m ih =>
    rw [Nat.toDigits_eq_if (by decide)]
    split
    · have hdigit : ∀ d < 10, 0 < d → d.digitChar ≠ '0' := by decide
      simpa using hdigit m ‹_› h
    · rw [List.head?_append_of_ne_nil _ Nat.toDigits_ne_nil]
      exact ih (m / 10) (by omega) (by omega)

lemma whole?_toDigits (m : Nat) (hrest : ∀ c ∈ rest.head?, c.isDigit = false) :
    Literal.whole? (Nat.toDigits 10 m ++ rest) = some (Nat.toDigits 10 m, rest) := by
  have hdigits : ∀ c ∈ Nat.toDigits 10 m, c.isDigit = true := fun c hc =>
    Nat.isDigit_of_mem_toDigits (by decide) (by decide) hc
  rw [Literal.whole?, digits?_append Nat.toDigits_ne_nil hdigits hrest]
  refine Option.filter_some_pos ?_
  cases m with
  | zero => rfl
  | succ m => simp [head?_toDigits (Nat.succ_pos m)]

/-- The digits of a natural number, with a sign in front or none, are read as a literal of them. -/
lemma read?_toDigits (negative : Bool) (m : Nat)
    (hrest : ∀ c ∈ rest.head?, c.isDigit = false ∧ c ∉ ['.', 'e', 'E']) :
    Literal.read? ((if negative then ['-'] else []) ++ Nat.toDigits 10 m ++ rest) =
      some (⟨negative, Nat.toDigits 10 m, none, none⟩, rest) := by
  have hwhole := whole?_toDigits m fun c hc => (hrest c hc).1
  have hfraction : Literal.fraction? rest = some (none, rest) := by
    cases rest with
    | nil => rfl
    | cons c rest =>
      have hc := (hrest c rfl).2
      unfold Literal.fraction?
      split
      · simp_all
      · rfl
  have hexponent : Literal.exponent? rest = some (none, rest) := by
    cases rest with
    | nil => rfl
    | cons c rest =>
      have hc := (hrest c rfl).2
      have hletter : ¬ (c = 'e' ∨ c = 'E') := by simp_all
      rw [Literal.exponent?.eq_def]
      exact if_neg hletter
  have hunsigned : ∀ cs, Nat.toDigits 10 m ++ rest ≠ '-' :: cs := by
    intro cs heq
    obtain ⟨d, more, hdigits⟩ :=
      List.exists_cons_of_ne_nil (Nat.toDigits_ne_nil (n := m) (b := 10))
    have hd : d.isDigit = true :=
      Nat.isDigit_of_mem_toDigits (b := 10) (n := m) (by decide) (by decide)
        (hdigits ▸ List.mem_cons_self)
    rw [hdigits] at heq
    cases heq
    exact absurd hd (by decide)
  cases negative with
  | true =>
    show Literal.read? ('-' :: (Nat.toDigits 10 m ++ rest)) = _
    simp [Literal.read?, hwhole, hfraction, hexponent]
  | false =>
    show Literal.read? (Nat.toDigits 10 m ++ rest) = _
    rw [Literal.read?.eq_def]
    simp [hwhole, hfraction, hexponent]

/-- The integers of 64 bits, with a sign or without one. -/
def FitsWord (n : Int) : Prop := -Int.pow 2 63 ≤ n ∧ n < Int.pow 2 64

instance (n : Int) : Decidable (FitsWord n) :=
  inferInstanceAs (Decidable (-Int.pow 2 63 ≤ n ∧ n < Int.pow 2 64))

lemma fitsWord_iff {n : Int} :
    FitsWord n ↔ -9223372036854775808 ≤ n ∧ n < 18446744073709551616 := Iff.rfl

/-- An integer of 64 bits is the value of its digits with its sign. -/
lemma value?_toDigits {n : Int} (h : FitsWord n) :
    Literal.value? ⟨decide (n < 0), Nat.toDigits 10 n.natAbs, none, none⟩ = some (.int n) := by
  obtain ⟨hlow, hhigh⟩ := fitsWord_iff.mp h
  have hfits : n.natAbs < Nat.pow 2 64 := by
    show n.natAbs < 18446744073709551616
    omega
  rw [Literal.value?, appendFitting_toDigits hfits]
  by_cases hnegative : n < 0
  · have hrange : 0 < n.natAbs ∧ n.natAbs ≤ Nat.pow 2 63 := by
      constructor
      · omega
      · show n.natAbs ≤ 9223372036854775808
        omega
    have hvalue : -(n.natAbs : Int) = n := by omega
    rw [decide_eq_true hnegative]
    dsimp only
    rw [if_pos, if_pos rfl, hvalue]
    exact ⟨rfl, rfl, rfl, .inr hrange⟩
  · have hvalue : (n.natAbs : Int) = n := by omega
    rw [decide_eq_false hnegative]
    dsimp only
    rw [if_pos, if_neg Bool.false_ne_true, hvalue]
    exact ⟨rfl, rfl, rfl, .inl rfl⟩

lemma toList_text (n : Int) : (Number.int n).text.toList =
    (if decide (n < 0) then ['-'] else []) ++ Nat.toDigits 10 n.natAbs := by
  rw [text, Int.toString_eq_repr]
  cases n with
  | ofNat m =>
    show m.repr.toList = _
    rw [Nat.repr_eq_ofList_toDigits, String.toList_ofList, if_neg (by simp)]
    rfl
  | negSucc m =>
    show ("-" ++ m.succ.repr).toList = _
    simp [Nat.repr_eq_ofList_toDigits, Int.negSucc_lt_zero]

end Number

namespace Json

/-! ## Texts in quotes -/

lemma hexDigit?_digitChar : ∀ d < 16, hexDigit? (Nat.digitChar d) = some d := by decide

/-- The rest of a text after one more character. -/
def onto (c : Char) (read : Option (List Char × List Char)) : Option (List Char × List Char) :=
  read.map fun (cs, rest) => (c :: cs, rest)

lemma stringBody_escaped (surrogates : Bool) {letter c : Char} (h : escaped? letter = some c)
    (rest : List Char) :
    stringBody surrogates ('\\' :: letter :: rest) = onto c (stringBody surrogates rest) := by
  have hletter : letter ≠ 'u' := by
    rintro rfl
    cases h
  rw [stringBody.eq_4 _ _ _ fun _ _ _ _ _ hu => absurd hu hletter, h]
  cases stringBody surrogates rest <;> rfl

lemma stringBody_control (surrogates : Bool) {c : Char} (h : c.toNat < 0x20) (rest : List Char) :
    stringBody surrogates ('\\' :: 'u' :: '0' :: '0' :: Nat.digitChar (c.toNat / 16) ::
      Nat.digitChar (c.toNat % 16) :: rest) = onto c (stringBody surrogates rest) := by
  have hword : hexWord? '0' '0' (Nat.digitChar (c.toNat / 16)) (Nat.digitChar (c.toNat % 16)) =
      some c.toNat := by
    have hzero : hexDigit? '0' = some 0 := by decide
    rw [hexWord?, hzero, hexDigit?_digitChar _ (by omega), hexDigit?_digitChar _ (by omega)]
    show some (4096 * 0 + 256 * 0 + 16 * (c.toNat / 16) + c.toNat % 16) = some c.toNat
    congr 1
    omega
  rw [stringBody, hword]
  show (if 0xD800 ≤ c.toNat ∧ c.toNat < 0xDC00 then _ else
    if 0xDC00 ≤ c.toNat ∧ c.toNat < 0xE000 then _ else _) = _
  rw [if_neg (by omega), if_neg (by omega), Char.ofNat_toNat]
  cases stringBody surrogates rest <;> rfl

lemma stringBody_plain (surrogates : Bool) {c : Char} (hquote : c ≠ '"') (hslash : c ≠ '\\')
    (h : ¬ c.toNat < 0x20) (rest : List Char) :
    stringBody surrogates (c :: rest) = onto c (stringBody surrogates rest) := by
  rw [stringBody.eq_5 _ _ _ hquote (fun _ _ _ _ _ hc => absurd hc hslash)
    fun _ _ hc => absurd hc hslash, if_neg h]
  cases stringBody surrogates rest <;> rfl

/-- A character is read as it was escaped. -/
lemma stringBody_escapeChar (surrogates : Bool) (c : Char) (rest : List Char) :
    stringBody surrogates (escapeChar c ++ rest) = onto c (stringBody surrogates rest) := by
  unfold escapeChar
  iterate 7
    split
    · subst c
      exact stringBody_escaped surrogates rfl rest
  split
  · rename_i hcontrol
    exact stringBody_control surrogates hcontrol rest
  · rename_i hquote hslash _ _ _ _ _ hcontrol
    exact stringBody_plain surrogates hquote hslash hcontrol rest

lemma stringBody_flatMap_escapeChar (surrogates : Bool) (cs rest : List Char) :
    stringBody surrogates (cs.flatMap escapeChar ++ '"' :: rest) = some (cs, rest) := by
  induction cs with
  | nil => rfl
  | cons c cs ih =>
    rw [List.flatMap_cons, List.append_assoc, stringBody_escapeChar, ih]
    rfl

/-! ## Values -/

mutual
/-- Whether the numbers in a value are integers of 64 bits. -/
def isWhole : Json → Bool
  | num (.int n) => Number.FitsWord n
  | num (.float _) => false
  | arr items => isWholeItems items
  | obj fields => isWholeFields fields
  | null | bool _ | str _ => true

/-- `isWhole` on every item. -/
def isWholeItems : List Json → Bool
  | [] => true
  | v :: rest => isWhole v && isWholeItems rest

/-- `isWhole` on every entry. -/
def isWholeFields : List (String × Json) → Bool
  | [] => true
  | (_, v) :: rest => isWhole v && isWholeFields rest
end

/-- What may follow a value: nothing, or a character that separates or closes. -/
def Ends (rest : List Char) : Prop := ∀ c ∈ rest.head?, c ∈ [',', ']', '\x7d']

lemma ends_cons {c : Char} (h : c ∈ [',', ']', '\x7d']) (rest : List Char) : Ends (c :: rest) := by
  rintro d ⟨⟩
  exact h

lemma skipSpace_cons {c : Char} (h : isSpace c = false) (cs : List Char) :
    skipSpace (c :: cs) = c :: cs := by
  rw [skipSpace, List.dropWhile_cons_of_neg (by simp [h])]

/-! ### The characters of a compact text -/

lemma toList_compact_str (s : String) :
    (str s).compact.toList = '"' :: (s.toList.flatMap escapeChar ++ ['"']) := by
  rw [compact, quote, String.toList_ofList]
  rfl

lemma toList_compact_arr (items : List Json) :
    (arr items).compact.toList = '[' :: ((compactItems items).toList ++ [']']) := by
  simp [compact]

lemma toList_compact_obj (fields : List (String × Json)) :
    (obj fields).compact.toList = '\x7b' :: ((compactFields fields).toList ++ ['\x7d']) := by
  simp [compact]

lemma toList_compactItems_cons (v w : Json) (rest : List Json) :
    (compactItems (v :: w :: rest)).toList =
      v.compact.toList ++ ',' :: (compactItems (w :: rest)).toList := by
  simp [compactItems]

/-- The characters of an entry. -/
def entryChars (k : String) (v : Json) : List Char :=
  '"' :: (k.toList.flatMap escapeChar ++ '"' :: ':' :: v.compact.toList)

lemma length_lt_entryChars (k : String) (v : Json) :
    v.compact.toList.length < (entryChars k v).length := by
  simp only [entryChars, List.length_cons, List.length_append]
  omega

lemma toList_compactFields_singleton (k : String) (v : Json) :
    (compactFields [(k, v)]).toList = entryChars k v := by
  simp [compactFields, quote, entryChars]

lemma toList_compactFields_cons (k : String) (v : Json) (entry : String × Json)
    (rest : List (String × Json)) : (compactFields ((k, v) :: entry :: rest)).toList =
      entryChars k v ++ ',' :: (compactFields (entry :: rest)).toList := by
  simp [compactFields, quote, entryChars]

/-- Numbers begin with a digit or a sign. -/
lemma exists_text_cons (n : Int) : ∃ c cs, (Number.int n).text.toList = c :: cs ∧
    (c.isDigit = true ∨ c = '-') := by
  rw [Number.toList_text]
  split
  · exact ⟨'-', _, rfl, .inr rfl⟩
  · obtain ⟨d, more, hdigits⟩ :=
      List.exists_cons_of_ne_nil (Nat.toDigits_ne_nil (n := n.natAbs) (b := 10))
    have hd : d ∈ Nat.toDigits 10 n.natAbs := hdigits ▸ List.mem_cons_self
    exact ⟨d, more, hdigits, .inl (Nat.isDigit_of_mem_toDigits (by decide) (by decide) hd)⟩

lemma of_isDigit {c : Char} (h : c.isDigit = true ∨ c = '-') : isSpace c = false ∧
    c ∉ ['"', '[', ']', '\x7b', 'n', 't', 'f'] := by
  have hnone : [' ', '\n', '\t', '\r', '"', '[', ']', '\x7b', 'n', 't', 'f'].all
      (fun d => !(d.isDigit || d == '-')) = true := by decide
  have hne : ∀ d ∈ [' ', '\n', '\t', '\r', '"', '[', ']', '\x7b', 'n', 't', 'f'], c ≠ d := by
    rintro d hd rfl
    have hdigit := List.all_eq_true.mp hnone c hd
    rcases h with hc | rfl
    · simp [hc] at hdigit
    · cases hdigit
  exact ⟨by simp [isSpace, hne], fun hmem => hne c (by simp_all) rfl⟩

/-- A text of a value begins with a character that neither is a blank nor closes a list. -/
lemma exists_compact_cons {v : Json} (h : v.isWhole = true) : ∃ c cs,
    v.compact.toList = c :: cs ∧ isSpace c = false ∧ c ≠ ']' := by
  cases v with
  | null => exact ⟨'n', _, rfl, by decide, by decide⟩
  | bool b =>
    cases b
    · exact ⟨'f', _, rfl, by decide, by decide⟩
    · exact ⟨'t', _, rfl, by decide, by decide⟩
  | num n =>
    cases n with
    | int n =>
      obtain ⟨c, cs, hcs, hc⟩ := exists_text_cons n
      obtain ⟨hspace, hnot⟩ := of_isDigit hc
      exact ⟨c, cs, hcs, hspace, fun heq => hnot (by simp [heq])⟩
    | float x => cases h
  | str s => exact ⟨'"', _, toList_compact_str s, by decide, by decide⟩
  | arr items => exact ⟨'[', _, toList_compact_arr items, by decide, by decide⟩
  | obj fields => exact ⟨'\x7b', _, toList_compact_obj fields, by decide, by decide⟩

/-! ### Reading them -/

/-- An integer is read off the front of a text. -/
lemma readValue_int {n : Int} (h : Number.FitsWord n) (fuel depth : Nat) {rest : List Char}
    (hrest : Ends rest) :
    readValue .plain (fuel + 1) depth ((num (.int n)).compact.toList ++ rest) =
      some (num (.int n), rest) := by
  have hends : ∀ c ∈ rest.head?, c.isDigit = false ∧ c ∉ ['.', 'e', 'E'] := by
    intro c hc
    have hmem := hrest c hc
    simp only [List.mem_cons, List.not_mem_nil, or_false] at hmem
    rcases hmem with rfl | rfl | rfl <;> decide
  obtain ⟨c, cs, hcs, hc⟩ := exists_text_cons n
  obtain ⟨hspace, hnot⟩ := of_isDigit hc
  have hliteral := Number.read?_toDigits (decide (n < 0)) n.natAbs hends
  rw [← Number.toList_text, hcs, List.cons_append] at hliteral
  have hcompact : (num (.int n)).compact = (Number.int n).text := rfl
  rw [hcompact, hcs, List.cons_append, readValue.eq_2, skipSpace_cons hspace]
  split
  case h_7 =>
    rw [hliteral]
    show (Number.Literal.value? _).bind _ = _
    rw [Number.value?_toDigits h]
    rfl
  all_goals
    rename_i heq
    cases heq
    exact absurd (by simp) hnot

lemma readValue_str (s : String) (fuel depth : Nat) (rest : List Char) :
    readValue .plain (fuel + 1) depth ((str s).compact.toList ++ rest) = some (str s, rest) := by
  have hbody := stringBody_flatMap_escapeChar true s.toList rest
  rw [toList_compact_str, List.cons_append, List.append_assoc, readValue.eq_2,
    skipSpace_cons (by decide)]
  show (stringBody true _).map _ = _
  rw [List.singleton_append, hbody]
  show some (str (String.ofList s.toList), rest) = _
  rw [String.ofList_toList]

/-- With some fuel, a value whose text is short enough is read off the front of a text if it is
not nested too deeply, and nothing is otherwise; and so are the items and entries that come before
a closing bracket. -/
structure Reads (fuel : Nat) : Prop where
  value : ∀ (v : Json) (depth : Nat) (rest : List Char), v.isWhole = true →
    2 * v.compact.toList.length ≤ fuel → Ends rest →
      readValue .plain fuel depth (v.compact.toList ++ rest) =
        if v.depth ≤ depth then some (v, rest) else none
  items : ∀ (items : List Json) (depth : Nat) (rest : List Char), items ≠ [] →
    isWholeItems items = true → 2 * (compactItems items).toList.length < fuel →
      readItems .plain fuel depth ((compactItems items).toList ++ ']' :: rest) =
        if depthItems items ≤ depth then some (items, rest) else none
  fields : ∀ (fields : List (String × Json)) (depth : Nat) (rest : List Char), fields ≠ [] →
    isWholeFields fields = true → 2 * (compactFields fields).toList.length < fuel →
      readFields .plain fuel depth ((compactFields fields).toList ++ '\x7d' :: rest) =
        if depthFields fields ≤ depth then some (fields, rest) else none

section

variable {fuel : Nat} (h : Reads fuel)

lemma exists_compactItems_cons {items : List Json} (hne : items ≠ [])
    (h : isWholeItems items = true) : ∃ c cs, (compactItems items).toList = c :: cs ∧
      isSpace c = false ∧ c ≠ ']' := by
  match items with
  | [v] =>
    rw [isWholeItems, Bool.and_eq_true] at h
    exact exists_compact_cons h.1
  | v :: w :: rest =>
    rw [isWholeItems, Bool.and_eq_true] at h
    obtain ⟨c, cs, hcs, hspace, hclose⟩ := exists_compact_cons h.1
    exact ⟨c, _, by rw [toList_compactItems_cons, hcs]; rfl, hspace, hclose⟩

lemma exists_compactFields_cons {fields : List (String × Json)} (hne : fields ≠ []) :
    ∃ cs, (compactFields fields).toList = '"' :: cs := by
  match fields with
  | [(k, v)] => exact ⟨_, toList_compactFields_singleton k v⟩
  | (k, v) :: entry :: rest => exact ⟨_, toList_compactFields_cons k v entry rest⟩

/-- A list is empty if it is closed at once. -/
lemma readValue_bracket (fuel depth : Nat) (cs : List Char) :
    readValue .plain (fuel + 1) (depth + 1) ('[' :: cs) =
      match skipSpace cs with
      | ']' :: rest => some (arr [], rest)
      | rest => (readItems .plain fuel depth rest).map fun (vs, rest) => (arr vs, rest) := rfl

lemma readValue_items {c : Char} (hspace : isSpace c = false) (hclose : c ≠ ']')
    (fuel depth : Nat) (cs : List Char) : readValue .plain (fuel + 1) (depth + 1) ('[' :: c :: cs) =
      (readItems .plain fuel depth (c :: cs)).map fun (vs, rest) => (arr vs, rest) := by
  rw [readValue_bracket, skipSpace_cons hspace]
  split
  · rename_i heq
    cases heq
    exact absurd rfl hclose
  · rfl

lemma readValue_fields (fuel depth : Nat) (cs : List Char) :
    readValue .plain (fuel + 1) (depth + 1) ('\x7b' :: '"' :: cs) =
      (readFields .plain fuel depth ('"' :: cs)).map fun (fs, rest) => (obj fs, rest) := rfl

include h in
lemma readValue_arr {items : List Json} (hwhole : isWholeItems items = true)
    (hfuel : 2 * (arr items).compact.toList.length ≤ fuel + 1) (depth : Nat) (rest : List Char) :
    readValue .plain (fuel + 1) depth ((arr items).compact.toList ++ rest) =
      if (arr items).depth ≤ depth then some (arr items, rest) else none := by
  rw [toList_compact_arr, List.length_cons, List.length_append] at hfuel
  rw [toList_compact_arr, List.cons_append, List.append_assoc, List.singleton_append, Json.depth]
  cases depth with
  | zero => rfl
  | succ depth =>
    by_cases hne : items = []
    · subst hne
      rfl
    · obtain ⟨c, cs, hcs, hspace, hclose⟩ := exists_compactItems_cons hne hwhole
      have hitems := h.items items depth rest hne hwhole (by omega)
      rw [hcs, List.cons_append] at hitems ⊢
      rw [readValue_items hspace hclose, hitems, if_congr Nat.succ_le_succ_iff rfl rfl]
      split <;> rfl

include h in
lemma readValue_obj {fields : List (String × Json)} (hwhole : isWholeFields fields = true)
    (hfuel : 2 * (obj fields).compact.toList.length ≤ fuel + 1) (depth : Nat)
    (rest : List Char) :
    readValue .plain (fuel + 1) depth ((obj fields).compact.toList ++ rest) =
      if (obj fields).depth ≤ depth then some (obj fields, rest) else none := by
  rw [toList_compact_obj, List.length_cons, List.length_append] at hfuel
  rw [toList_compact_obj, List.cons_append, List.append_assoc, List.singleton_append, Json.depth]
  cases depth with
  | zero => rfl
  | succ depth =>
    by_cases hne : fields = []
    · subst hne
      rfl
    · obtain ⟨cs, hcs⟩ := exists_compactFields_cons hne
      have hfields := h.fields fields depth rest hne hwhole (by omega)
      rw [hcs, List.cons_append] at hfields ⊢
      rw [readValue_fields, hfields, if_congr Nat.succ_le_succ_iff rfl rfl]
      split <;> rfl

include h in
lemma readItems_succ {items : List Json} (hne : items ≠ []) (hwhole : isWholeItems items = true)
    (hfuel : 2 * (compactItems items).toList.length < fuel + 1) (depth : Nat)
    (rest : List Char) :
    readItems .plain (fuel + 1) depth ((compactItems items).toList ++ ']' :: rest) =
      if depthItems items ≤ depth then some (items, rest) else none := by
  match items with
  | [v] =>
    rw [isWholeItems, Bool.and_eq_true] at hwhole
    have hvalue := h.value v depth (']' :: rest) hwhole.1 (Nat.lt_succ_iff.mp hfuel)
      (ends_cons (by decide) rest)
    have hcompact : compactItems [v] = v.compact := rfl
    have hdepth : depthItems [v] = v.depth := Nat.max_zero _
    rw [hcompact, readItems.eq_2, hvalue, hdepth]
    split <;> rfl
  | v :: w :: items =>
    rw [isWholeItems, Bool.and_eq_true] at hwhole
    rw [toList_compactItems_cons, List.length_append, List.length_cons] at hfuel
    have hvalue := h.value v depth (',' :: ((compactItems (w :: items)).toList ++ ']' :: rest))
      hwhole.1 (by omega) (ends_cons (by decide) _)
    have hitems := h.items (w :: items) depth rest (List.cons_ne_nil _ _) hwhole.2 (by omega)
    rw [toList_compactItems_cons, List.append_assoc, List.cons_append, readItems.eq_2, hvalue,
      depthItems, if_congr Nat.max_le rfl rfl]
    -- what comes behind an item is read only if that one could be
    by_cases hv : v.depth ≤ depth
    · rw [if_pos hv, if_congr (and_iff_right hv) rfl rfl]
      show (readItems .plain fuel depth _ >>= _) = _
      rw [hitems]
      split <;> rfl
    · rw [if_neg hv, if_neg fun hboth => hv hboth.1]
      rfl

/-- An entry is read by its key, then by its value. -/
lemma readFields_entry (fuel depth : Nat) (k : String) (v : Json) (rest : List Char) :
    readFields .plain (fuel + 1) depth (entryChars k v ++ rest) =
      (readValue .plain fuel depth (v.compact.toList ++ rest)).bind fun (w, rest) =>
        match skipSpace rest with
        | '\x7d' :: rest => some ([(k, w)], rest)
        | ',' :: rest =>
          (readFields .plain fuel depth rest).bind fun (fs, rest) => some ((k, w) :: fs, rest)
        | _ => none := by
  have hquote : isSpace '"' = false := by decide
  have hcolon : isSpace ':' = false := by decide
  have hkey := stringBody_flatMap_escapeChar true k.toList (':' :: (v.compact.toList ++ rest))
  rw [entryChars, List.cons_append, List.append_assoc, List.cons_append, List.cons_append,
    readFields.eq_2, skipSpace_cons hquote]
  show (stringBody true _ >>= _) = _
  rw [hkey]
  simp only [Option.bind_eq_bind, Option.bind_some, skipSpace_cons hcolon, String.ofList_toList]
  rfl

include h in
lemma readFields_succ {fields : List (String × Json)} (hne : fields ≠ [])
    (hwhole : isWholeFields fields = true)
    (hfuel : 2 * (compactFields fields).toList.length < fuel + 1) (depth : Nat)
    (rest : List Char) :
    readFields .plain (fuel + 1) depth ((compactFields fields).toList ++ '\x7d' :: rest) =
      if depthFields fields ≤ depth then some (fields, rest) else none := by
  obtain ⟨⟨k, v⟩, rest', rfl⟩ := List.exists_cons_of_ne_nil hne
  rw [isWholeFields, Bool.and_eq_true] at hwhole
  cases rest' with
  | nil =>
    rw [toList_compactFields_singleton] at hfuel ⊢
    have hshort := length_lt_entryChars k v
    have hvalue := h.value v depth ('\x7d' :: rest) hwhole.1 (by omega)
      (ends_cons (by decide) rest)
    have hdepth : depthFields [(k, v)] = v.depth := Nat.max_zero _
    rw [readFields_entry, hvalue, hdepth]
    split <;> rfl
  | cons entry fields =>
    rw [toList_compactFields_cons, List.length_append, List.length_cons] at hfuel
    have hshort := length_lt_entryChars k v
    have hvalue := h.value v depth
      (',' :: ((compactFields (entry :: fields)).toList ++ '\x7d' :: rest))
      hwhole.1 (by omega) (ends_cons (by decide) _)
    have hfields := h.fields (entry :: fields) depth rest (List.cons_ne_nil _ _) hwhole.2
      (by omega)
    rw [toList_compactFields_cons, List.append_assoc, List.cons_append, readFields_entry, hvalue,
      depthFields, if_congr Nat.max_le rfl rfl]
    by_cases hv : v.depth ≤ depth
    · rw [if_pos hv, if_congr (and_iff_right hv) rfl rfl]
      show Option.bind (readFields .plain fuel depth _) _ = _
      rw [hfields]
      split <;> rfl
    · rw [if_neg hv, if_neg fun hboth => hv hboth.1]
      rfl

include h in
lemma readValue_succ {v : Json} (hwhole : v.isWhole = true)
    (hfuel : 2 * v.compact.toList.length ≤ fuel + 1) (depth : Nat) {rest : List Char}
    (hrest : Ends rest) : readValue .plain (fuel + 1) depth (v.compact.toList ++ rest) =
      if v.depth ≤ depth then some (v, rest) else none := by
  cases v with
  | null => rfl
  | bool b => cases b <;> rfl
  | num n =>
    cases n with
    | int n => exact readValue_int (of_decide_eq_true hwhole) fuel depth hrest
    | float x => cases hwhole
  | str s => exact readValue_str s fuel depth rest
  | arr items => exact readValue_arr h hwhole hfuel depth rest
  | obj fields => exact readValue_obj h hwhole hfuel depth rest

end

theorem reads (fuel : Nat) : Reads fuel := by
  induction fuel with
  | zero =>
    -- no text of a value is empty
    refine ⟨fun v depth rest hwhole hfuel _ => ?_,
      fun _ _ _ _ _ hfuel => absurd hfuel (Nat.not_lt_zero _),
      fun _ _ _ _ _ hfuel => absurd hfuel (Nat.not_lt_zero _)⟩
    obtain ⟨c, cs, hcs, -, -⟩ := exists_compact_cons hwhole
    rw [hcs, List.length_cons] at hfuel
    omega
  | succ fuel ih =>
    exact {
      value := fun _ depth _ hwhole hfuel hrest => readValue_succ ih hwhole hfuel depth hrest
      items := fun _ depth rest hne hwhole hfuel => readItems_succ ih hne hwhole hfuel depth rest
      fields := fun _ depth rest hne hwhole hfuel =>
        readFields_succ ih hne hwhole hfuel depth rest }

/-- The compact text of a value without floats is read as the value if it is nested no deeper than
the reader goes, and else it is not read. -/
theorem read?_compact {v : Json} (hwhole : v.isWhole = true) :
    read? v.compact = if v.depth ≤ 127 then some v else none := by
  have hvalue := (reads (2 * v.compact.toList.length + 2)).value v 127 [] hwhole (by omega)
    fun _ hc => nomatch hc
  rw [List.append_nil] at hvalue
  rw [read?, readIn?, hvalue]
  by_cases hdepth : v.depth ≤ 127
  · rw [if_pos hdepth, if_pos hdepth]
    rfl
  · rw [if_neg hdepth, if_neg hdepth]

end Json

/-! ## Records that were written -/

lemma Json.Canonical.of_get? {v w : Json} {name : String} (h : v.Canonical)
    (hget : v.get? name = some w) : w.Canonical := by
  cases v with
  | obj fields =>
    have hmem : (name, w) ∈ fields := Table.mem_of_lookup hget
    exact h.of_obj.2 (name, w) hmem
  | null => cases hget
  | bool b => cases hget
  | num n => cases hget
  | str s => cases hget
  | arr items => cases hget

/-- A part that may be absent is read as it was written. -/
lemma Record.optional_written {α : Type} {shape : Shape α} {write : α → Json} {r : Record}
    {name : String} {o : Option α} (hpart : r.part? name = o.map write)
    (hread : ∀ a ∈ o, shape (write a) = some a) (hnull : ∀ a, write a ≠ .null) :
    r.optional name shape = some o := by
  rw [optional, withDefault, hpart]
  cases o with
  | none => rfl
  | some a =>
    show Shape.optional shape (write a) = some (some a)
    unfold Shape.optional
    split
    · rename_i hwritten
      exact absurd hwritten (hnull a)
    · rw [hread a rfl]
      rfl

namespace Condition

lemma nestedIn?_eq (fields : List (String × Json)) : nestedIn? fields =
    match Json.lookup "conditions" fields with
    | none => some []
    | some (.arr items) => ofItems? items
    | some _ => none := by
  induction fields with
  | nil => rfl
  | cons entry rest ih =>
    obtain ⟨k, v⟩ := entry
    rw [nestedIn?.eq_def, Json.lookup_cons]
    dsimp only
    by_cases hk : k = "conditions"
    · rw [if_pos hk, if_pos hk.symm]
      cases v <;> rfl
    · rw [if_neg hk, if_neg (Ne.symm hk), ih]

mutual
/-- A condition is read as it was written. -/
theorem ofJson?_toJson : (c : Condition) → (toJson c).Canonical → ofJson? (toJson c) = some c
  | ⟨field, connective, operator, arguments, conditions⟩, h => by
    obtain ⟨r, hr, hparts⟩ := Record.exists_ofFields partNames
      (v := toJson ⟨field, connective, operator, arguments, conditions⟩) rfl
    have hfield : r.optional "field" Shape.text = some field := by
      have hpart : r.part? "field" = field.map .str := by
        rw [hparts "field" (by decide)]
        simp [toJson]
      exact Record.optional_written hpart (fun _ _ => rfl) fun _ => Json.noConfusion
    have hconnective : r.withDefault "type" (Shape.choice Connective.ofName?) .and =
        some connective := by
      have hpart : r.part? "type" = some (.str connective.name) := by
        rw [hparts "type" (by decide)]
        simp [toJson]
      rw [Record.withDefault, hpart]
      cases connective <;> rfl
    have hoperator : r.required "operator" Shape.text = some operator := by
      rw [Record.required, hparts "operator" (by decide)]
      simp [toJson, Shape.text, Json.str?]
    have harguments : r.withDefault "arguments" (Shape.list Shape.any) [] = some arguments := by
      have hget : (toJson ⟨field, connective, operator, arguments, conditions⟩).get? "arguments" =
          if arguments.isEmpty then none else some (.arr arguments) := by
        simp [toJson]
      rw [Record.withDefault, hparts "arguments" (by decide)]
      cases arguments with
      | nil => rw [hget]; rfl
      | cons v rest =>
        have hcanonical := (h.of_get? hget).of_arr
        rw [hget]
        exact (mapM_eq_some (g := id) fun w hw => congrArg some (hcanonical w hw)).trans
          (congrArg some (List.map_id _))
    have hget : (toJson ⟨field, connective, operator, arguments, conditions⟩).get? "conditions" =
        if (toJsonItems conditions).isEmpty then none
        else some (.arr (toJsonItems conditions)) := by
      simp [toJson]
    have hnested : ofItems? (toJsonItems conditions) = some conditions := by
      refine ofItems?_toJsonItems conditions fun v hv => ?_
      rw [if_neg (by simp [List.ne_nil_of_mem hv])] at hget
      exact (h.of_get? hget).of_arr v hv
    have hconditions : ∀ fields, toJson ⟨field, connective, operator, arguments, conditions⟩ =
        .obj fields → nestedIn? fields = some conditions := by
      intro fields hfields
      rw [hfields, Json.get?] at hget
      rw [nestedIn?_eq, hget]
      cases hitems : toJsonItems conditions with
      | nil =>
        rw [hitems] at hnested
        exact hnested
      | cons v rest =>
        rw [hitems] at hnested
        exact hnested
    obtain ⟨fields, hfields⟩ : ∃ fields,
        toJson ⟨field, connective, operator, arguments, conditions⟩ = .obj fields := ⟨_, rfl⟩
    rw [hfields] at hr ⊢
    rw [ofJson?, hconditions fields hfields, hr]
    show ofRecord? r conditions = _
    rw [ofRecord?, hfield, hconnective, hoperator, harguments]
    rfl

theorem ofItems?_toJsonItems : (cs : List Condition) → (∀ v ∈ toJsonItems cs, v.Canonical) →
    ofItems? (toJsonItems cs) = some cs
  | [], _ => rfl
  | c :: rest, h => by
    obtain ⟨hc, hrest⟩ := List.forall_mem_cons.mp h
    rw [toJsonItems, ofItems?, ofJson?_toJson c hc, ofItems?_toJsonItems rest hrest]
    rfl
end

end Condition

/-- The options of a request are read as they were written. -/
theorem RequestOptions.ofJson?_toJson (o : RequestOptions) : ofJson? o.toJson = some o := by
  obtain ⟨returnCount, limit, offset, useGetParams, simplifiedParams⟩ := o
  let o : RequestOptions := ⟨returnCount, limit, offset, useGetParams, simplifiedParams⟩
  obtain ⟨r, hr, hparts⟩ := Record.exists_ofFields partNames (v := o.toJson) rfl
  have hbool : ∀ name ∈ partNames, ∀ b : Option Bool, o.toJson.get? name = b.map .bool →
      r.optional name Shape.bool = some b := fun name hname b hget =>
    Record.optional_written ((hparts name hname).trans hget) (fun _ _ => rfl)
      fun _ => Json.noConfusion
  have hnat : ∀ name ∈ partNames, ∀ n : Option Nat, o.toJson.get? name = n.map .nat →
      r.optional name Shape.nat = some n := fun name hname n hget =>
    Record.optional_written ((hparts name hname).trans hget)
      (fun m _ => by simp [Json.nat, Shape.nat, Number.toNat?]) fun _ => Json.noConfusion
  rw [ofJson?, hr]
  show (do
    return ⟨← r.optional "returnCount" Shape.bool, ← r.optional "limit" Shape.nat,
      ← r.optional "offset" Shape.nat, ← r.optional "useGetParams" Shape.bool,
      ← r.optional "simplifiedParams" Shape.bool⟩ : Option RequestOptions) = _
  rw [hbool "returnCount" (by decide) returnCount (by simp [o, toJson]),
    hnat "limit" (by decide) limit (by simp [o, toJson]),
    hnat "offset" (by decide) offset (by simp [o, toJson]),
    hbool "useGetParams" (by decide) useGetParams (by simp [o, toJson]),
    hbool "simplifiedParams" (by decide) simplifiedParams (by simp [o, toJson])]
  rfl

end EntityGate
