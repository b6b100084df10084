/-
# Wildcards

A text matches a pattern if it can be cut into pieces, one for each character of the pattern: any
piece for a percent sign, one character for an underscore, and for any other character one that
is equal to it up to case.  There may be many ways to cut a text.  The matcher looks for none of
them: it notes for all ends of the text at once whether they match what is left of the pattern,
and so goes once over the text for each character of the pattern.

Backends that know regular expressions write a pattern as one.  What such an expression says is
told here by reading it: every character of the pattern that has a meaning of its own among
regular expressions has to come out as itself, and the expression has to hold the whole text.
Then the expression is found in a text exactly if the text can be cut into pieces.
-/
import EntityGate.Store.Predicate
import Mathlib

namespace EntityGate

/-! ## Folding and wildcards -/

namespace Text

/-- The wildcards of patterns. -/
def wildcards : List Char := ['%', '_']

lemma mem_wildcards {w : Char} : w ∈ wildcards ↔ w = '%' ∨ w = '_' := by
  simp [wildcards]

/-- No run of characters folds to a wildcard. -/
lemma foldRuns_avoid {w : Char} (hw : w ∈ wildcards) : ∀ run ∈ foldRuns,
    w.toNat < run.low ∨ run.high < w.toNat := by
  obtain rfl | rfl := mem_wildcards.mp hw <;> decide +kernel

lemma toNat_wildcard {w : Char} (hw : w ∈ wildcards) : w.toNat < 128 := by
  obtain rfl | rfl := mem_wildcards.mp hw <;> decide

lemma mapByRuns_ne {n : Nat} {w : Char} (hn : ¬ n < 128) (hw : w ∈ wildcards) :
    mapByRuns foldRuns n ≠ w.toNat := by
  obtain h | ⟨run, hrun, htarget⟩ := mapByRuns_cases foldRuns n
  · have hsmall := toNat_wildcard hw
    omega
  · have hbounds := CaseRun.target?_bounds htarget
    have havoid := foldRuns_avoid hw run hrun
    omega

/-- Inside ASCII, letters fold to letters. -/
lemma toLower_ne_wildcard {w : Char} (hw : w ∈ wildcards) : ∀ n < 128,
    (Char.ofNat n).toLower = w → Char.ofNat n = w := by
  obtain rfl | rfl := mem_wildcards.mp hw <;> decide +kernel

/-- Only a wildcard folds to a wildcard. -/
lemma foldChar_eq_wildcard {c w : Char} (hw : w ∈ wildcards) : foldChar c = w ↔ c = w := by
  have hself : foldChar w = w := by
    obtain rfl | rfl := mem_wildcards.mp hw <;> decide
  refine ⟨fun h => ?_, fun h => h ▸ hself⟩
  by_cases hc : c.toNat < 128
  · rw [foldChar, if_pos hc] at h
    exact forall_ascii (P := fun c => c.toLower = w → c = w) (toLower_ne_wildcard hw) hc h
  · have hne := mapByRuns_ne hc hw
    rw [← toNat_foldChar hc, h] at hne
    exact absurd rfl hne

end Text

/-! ## Pieces -/

namespace Pattern

/-- The pieces of a text that may stand for a character of a pattern. -/
inductive Piece : Char → List Char → Prop where
  /-- A percent sign stands for any piece. -/
  | any (piece : List Char) : Piece '%' piece
  /-- An underscore stands for one character. -/
  | one (d : Char) : Piece '_' [d]
  /-- Any other character stands for those that are equal to it up to case. -/
  | same {c d : Char} (hc : c ∉ Text.wildcards) (hd : Text.foldChar d = Text.foldChar c) :
      Piece c [d]

/-- A text is cut into pieces, one for each character of a pattern. -/
def Cuts (pattern s : List Char) : Prop :=
  ∃ pieces : List (List Char), List.Forall₂ Piece pattern pieces ∧ pieces.flatten = s

variable {c d : Char} {pattern s : List Char}

lemma cuts_nil : Cuts [] s ↔ s = [] := by
  constructor
  · rintro ⟨_, ⟨⟩, rfl⟩
    rfl
  · rintro rfl
    exact ⟨[], .nil, rfl⟩

lemma cuts_cons : Cuts (c :: pattern) s ↔
    ∃ piece rest, Piece c piece ∧ Cuts pattern rest ∧ s = piece ++ rest := by
  constructor
  · rintro ⟨_, hpieces, rfl⟩
    obtain ⟨piece, pieces, hpiece, hrest, rfl⟩ := List.forall₂_cons_left_iff.mp hpieces
    exact ⟨piece, pieces.flatten, hpiece, ⟨pieces, hrest, rfl⟩, rfl⟩
  · rintro ⟨piece, _, hpiece, ⟨pieces, hrest, rfl⟩, rfl⟩
    exact ⟨piece :: pieces, .cons hpiece hrest, rfl⟩

lemma piece_percent (piece : List Char) : Piece '%' piece ↔ True :=
  iff_of_true (.any piece) trivial

lemma piece_underscore {piece : List Char} : Piece '_' piece ↔ ∃ d, piece = [d] := by
  constructor
  · intro h
    cases h with
    | one d => exact ⟨d, rfl⟩
    | same hc => exact absurd (by decide) hc
  · rintro ⟨d, rfl⟩
    exact .one d

lemma piece_of_notMem (hc : c ∉ Text.wildcards) {piece : List Char} :
    Piece c piece ↔ ∃ d, piece = [d] ∧ Text.foldChar d = Text.foldChar c := by
  constructor
  · intro h
    cases h with
    | any => exact absurd (by decide) hc
    | one => exact absurd (by decide) hc
    | same _ hd => exact ⟨_, rfl, hd⟩
  · rintro ⟨d, rfl, hd⟩
    exact .same hc hd

lemma cuts_percent : Cuts ('%' :: pattern) s ↔ ∃ rest, rest <:+ s ∧ Cuts pattern rest := by
  rw [cuts_cons]
  constructor
  · rintro ⟨piece, rest, -, hrest, rfl⟩
    exact ⟨rest, List.suffix_append piece rest, hrest⟩
  · rintro ⟨rest, ⟨piece, rfl⟩, hrest⟩
    exact ⟨piece, rest, .any piece, hrest, rfl⟩

lemma cuts_percent_cons : Cuts ('%' :: pattern) (d :: s) ↔
    Cuts pattern (d :: s) ∨ Cuts ('%' :: pattern) s := by
  simp only [cuts_percent, List.suffix_cons_iff, or_and_right, exists_or, exists_eq_left]

/-- A character that stands for one character takes the first one. -/
lemma cuts_cons_of_one {P : Char → Prop} (hc : ∀ piece, Piece c piece ↔ ∃ d, piece = [d] ∧ P d) :
    Cuts (c :: pattern) s ↔ ∃ d rest, s = d :: rest ∧ P d ∧ Cuts pattern rest := by
  rw [cuts_cons]
  constructor
  · rintro ⟨piece, rest, hpiece, hrest, rfl⟩
    obtain ⟨d, rfl, hd⟩ := (hc piece).mp hpiece
    exact ⟨d, rest, rfl, hd, hrest⟩
  · rintro ⟨d, rest, rfl, hd, hrest⟩
    exact ⟨[d], rest, (hc [d]).mpr ⟨d, rfl, hd⟩, hrest, rfl⟩

lemma cuts_underscore :
    Cuts ('_' :: pattern) s ↔ ∃ d rest, s = d :: rest ∧ Cuts pattern rest := by
  have hone : ∀ piece, Piece '_' piece ↔ ∃ d, piece = [d] ∧ True := fun piece => by
    simpa using piece_underscore
  simpa using (cuts_cons_of_one hone : Cuts ('_' :: pattern) s ↔ _)

lemma cuts_of_notMem (hc : c ∉ Text.wildcards) : Cuts (c :: pattern) s ↔
    ∃ d rest, s = d :: rest ∧ Text.foldChar d = Text.foldChar c ∧ Cuts pattern rest :=
  cuts_cons_of_one fun _ => piece_of_notMem hc

end Pattern

/-! ## The matcher -/

namespace Column

open Pattern Text

/-- Which ends of a text satisfy something, from the whole text down to the empty one. -/
def endsWhere (P : List Char → Prop) [DecidablePred P] (s : List Char) : List Bool :=
  s.tails.map fun rest => decide (P rest)

section

variable {P Q : List Char → Prop} [DecidablePred P] [DecidablePred Q]

lemma endsWhere_cons (d : Char) (s : List Char) :
    endsWhere P (d :: s) = decide (P (d :: s)) :: endsWhere P s := rfl

lemma headD_endsWhere (s : List Char) : (endsWhere P s).headD false = decide (P s) := by
  cases s <;> rfl

lemma endsWhere_eq_cons (s : List Char) :
    endsWhere P s = decide (P s) :: (endsWhere P s).drop 1 := by
  cases s <;> rfl

lemma somewhere_endsWhere (hnil : Q [] ↔ P []) (hcons : ∀ d s, Q (d :: s) ↔ P (d :: s) ∨ Q s)
    (s : List Char) : somewhere (endsWhere P s) = endsWhere Q s := by
  induction s with
  | nil => simp [endsWhere, somewhere, hnil]
  | cons d s ih =>
    have hfold : somewhere (endsWhere P (d :: s)) =
        (decide (P (d :: s)) || (somewhere (endsWhere P s)).headD false) ::
          somewhere (endsWhere P s) := rfl
    rw [hfold, ih, headD_endsWhere, endsWhere_cons, ← Bool.decide_or]
    congr 1
    exact decide_eq_decide.mpr (hcons d s).symm

/-- An end that begins with a character is looked at next to the end after it. -/
lemma zipWith_endsWhere {test : Char → Bool → Bool} (hnil : ¬ Q [])
    (hcons : ∀ d s, decide (Q (d :: s)) = test d (decide (P s))) (s : List Char) :
    List.zipWith test s ((endsWhere P s).drop 1) ++ [false] = endsWhere Q s := by
  induction s with
  | nil => simp [endsWhere, hnil]
  | cons d s ih =>
    rw [endsWhere_cons, endsWhere_cons, hcons, ← ih, List.drop_one, List.tail_cons,
      endsWhere_eq_cons]
    rfl

/-- The same, where any character will do. -/
lemma drop_endsWhere (hnil : ¬ Q []) (hcons : ∀ d s, Q (d :: s) ↔ P s) (s : List Char) :
    (endsWhere P s).drop 1 ++ [false] = endsWhere Q s := by
  induction s with
  | nil => simp [endsWhere, hnil]
  | cons d s ih =>
    rw [endsWhere_cons, endsWhere_cons, decide_eq_decide.mpr (hcons d s), ← ih, List.drop_one,
      List.tail_cons, endsWhere_eq_cons]
    rfl

end

open Classical in
/-- One step of the matcher takes in one more character of the pattern. -/
lemma matchStep_endsWhere (c : Char) (pattern s : List Char) :
    matchStep (foldChar c) (s.map foldChar) (endsWhere (Cuts pattern) s) =
      endsWhere (Cuts (c :: pattern)) s := by
  have hpercent : foldChar c = '%' ↔ c = '%' := foldChar_eq_wildcard (by decide)
  have hunderscore : foldChar c = '_' ↔ c = '_' := foldChar_eq_wildcard (by decide)
  simp only [matchStep, hpercent, hunderscore]
  split
  · rename_i hc
    subst hc
    refine somewhere_endsWhere ?_ (fun d s => cuts_percent_cons) s
    rw [cuts_percent]
    simp
  · split
    · rename_i hc
      subst hc
      refine drop_endsWhere ?_ (fun d s => ?_) s <;> rw [cuts_underscore] <;> simp
    · rename_i hany hone
      have hc : c ∉ wildcards := by simp [mem_wildcards, hany, hone]
      rw [List.zipWith_map_left]
      refine zipWith_endsWhere ?_ (fun d s => ?_) s
      · rw [cuts_of_notMem hc]
        simp
      · rw [← Bool.decide_and]
        refine decide_eq_decide.mpr ?_
        rw [cuts_of_notMem hc]
        simp

open Classical in
/-- The matcher tells of each end of a text whether it can be cut. -/
lemma matchEnds_eq (pattern s : List Char) :
    matchEnds (s.map foldChar) (pattern.map foldChar) = endsWhere (Cuts pattern) s := by
  induction pattern with
  | nil =>
    induction s with
    | nil => simp [endsWhere, matchEnds, cuts_nil]
    | cons d s ih =>
      rw [endsWhere_cons, ← ih]
      simp [matchEnds, cuts_nil]
  | cons c pattern ih => rw [List.map_cons, matchEnds, ih, matchStep_endsWhere]

theorem patternMatches_iff (pattern s : List Char) :
    patternMatches pattern s = true ↔ Cuts pattern s := by
  classical
  rw [patternMatches, matchEnds_eq, headD_endsWhere, decide_eq_true_iff]

/-- What folding takes away makes no difference, neither in patterns nor in texts. -/
theorem patternMatches_map {f g : Char → Char} (hf : ∀ c, foldChar (f c) = foldChar c)
    (hg : ∀ c, foldChar (g c) = foldChar c) (pattern s : List Char) :
    patternMatches (pattern.map f) (s.map g) = patternMatches pattern s := by
  simp only [patternMatches, List.map_map, Function.comp_def, hf, hg]

/-- Patterns and texts may be folded in advance. -/
theorem patternMatches_fold (pattern s : List Char) :
    patternMatches (pattern.map foldChar) (s.map foldChar) = patternMatches pattern s :=
  patternMatches_map foldChar_foldChar foldChar_foldChar pattern s

/-- Capital letters of ASCII in a pattern match small ones. -/
theorem patternMatches_toUpper_toLower (pattern s : List Char) :
    patternMatches (pattern.map Char.toUpper) (s.map Char.toLower) = patternMatches pattern s :=
  patternMatches_map foldChar_toUpper foldChar_toLower pattern s

end Column

/-! ## Regular expressions -/

/-- What a regular expression is made of, as far as patterns need it. -/
inductive RegexItem where
  /-- The beginning of the text, `^`. -/
  | start
  /-- The end of the text, `$`. -/
  | finish
  /-- Any character, `.`. -/
  | any
  /-- Any characters, `.*`. -/
  | anyMany
  /-- A certain character. -/
  | char (c : Char)

/-- A regular expression. -/
structure Regex where
  /-- Whether characters are compared up to case. -/
  ignoreCase : Bool
  /-- Whether a dot takes line breaks too. -/
  dotAll : Bool
  items : List RegexItem

namespace Regex

/-- The characters that do not stand for themselves, or not everywhere. -/
def metaChars : List Char :=
  ['\\', '.', '+', '*', '?', '(', ')', '|', '[', ']', '\x7b', '\x7d', '^', '$', '#', '&', '-', '~']

/-- The items that a regular expression spells out, one after the other.  A character with a
meaning of its own stands for itself after a backslash; without one it is refused, unless it is
one of those above. -/
def readItems : List Char → Option (List RegexItem)
  | [] => some []
  | '^' :: rest => (readItems rest).map (.start :: ·)
  | '$' :: rest => (readItems rest).map (.finish :: ·)
  | '.' :: '*' :: rest => (readItems rest).map (.anyMany :: ·)
  | '.' :: rest => (readItems rest).map (.any :: ·)
  | '\\' :: c :: rest =>
    if c ∈ metaChars then (readItems rest).map (.char c :: ·) else none
  | c :: rest => if c ∈ metaChars then none else (readItems rest).map (.char c :: ·)

/-- A regular expression as it is written: the letters of its flags in `(?` and `)`, if it has
any, and its items. -/
def read? : List Char → Option Regex
  | '(' :: '?' :: rest =>
    let flags := rest.takeWhile (· ≠ ')')
    if flags.all (· ∈ ['i', 's']) then
      (readItems (rest.drop (flags.length + 1))).map (⟨'i' ∈ flags, 's' ∈ flags, ·⟩)
    else none
  | cs => (readItems cs).map (⟨false, false, ·⟩)

variable (r : Regex)

/-- Whether a dot takes a character. -/
def Takes (c : Char) : Prop := r.dotAll = true ∨ c ≠ '\n'

/-- Whether a character of the text is the one that an item asks for. -/
def Agrees (d c : Char) : Prop :=
  if r.ignoreCase then Text.foldChar d = Text.foldChar c else d = c

/-- Whether some items match what comes after a part of a text, up to any place in it. -/
def MatchesAfter : List RegexItem → List Char → List Char → Prop
  | [], _, _ => True
  | .start :: items, before, rest => before = [] ∧ MatchesAfter items before rest
  | .finish :: items, before, rest => rest = [] ∧ MatchesAfter items before rest
  | .any :: items, before, rest =>
    ∃ c after, rest = c :: after ∧ r.Takes c ∧ MatchesAfter items (before ++ [c]) after
  | .anyMany :: items, before, rest =>
    ∃ piece after, rest = piece ++ after ∧ (∀ c ∈ piece, r.Takes c) ∧
      MatchesAfter items (before ++ piece) after
  | .char c :: items, before, rest =>
    ∃ d after, rest = d :: after ∧ r.Agrees d c ∧ MatchesAfter items (before ++ [d]) after

/-- Whether a regular expression has a match anywhere in a text. -/
def FoundIn (s : List Char) : Prop :=
  ∃ before rest, s = before ++ rest ∧ r.MatchesAfter r.items before rest

end Regex

/-! ## Patterns as regular expressions -/

namespace Pattern

open Regex

/-- What a character of a pattern is written as in a regular expression. -/
def translateChar (c : Char) : List Char :=
  if c = '%' then ['.', '*']
  else if c = '_' then ['.']
  else if c ∈ metaChars then ['\\', c]
  else [c]

/-- A pattern as a regular expression, for the whole text, without regard to case and with line
breaks among the characters that a dot takes. -/
def toRegex (pattern : List Char) : List Char :=
  ['(', '?', 'i', 's', ')', '^'] ++ pattern.flatMap translateChar ++ ['$']

/-- The item that a character of a pattern is read back as. -/
def item (c : Char) : RegexItem :=
  if c = '%' then .anyMany else if c = '_' then .any else .char c

/-- No character is written such that it would repeat the item before it. -/
lemma head?_translate (pattern : List Char) :
    (pattern.flatMap translateChar ++ ['$']).head? ≠ some '*' := by
  cases pattern with
  | nil => decide
  | cons c pattern =>
    have hhead : ((c :: pattern).flatMap translateChar ++ ['$']).head? =
        (translateChar c).head? := by
      rw [List.flatMap_cons, List.append_assoc, List.head?_append]
      unfold translateChar
      split_ifs <;> rfl
    rw [hhead, translateChar]
    split_ifs with _ _ hmeta
    · decide
    · decide
    · rw [List.head?_cons]
      decide
    · rw [List.head?_cons, ne_eq, Option.some.injEq]
      rintro rfl
      exact hmeta (by decide)

/-- A dot takes one character unless it is repeated. -/
lemma readItems_dot {rest : List Char} (hrest : rest.head? ≠ some '*') :
    readItems ('.' :: rest) = (readItems rest).map (.any :: ·) := by
  rw [readItems.eq_def]
  split
  case h_4 heq =>
    cases heq
    exact absurd rfl hrest
  case h_5 heq =>
    cases heq
    rfl
  case h_7 hdot _ heq =>
    cases heq
    exact absurd rfl hdot
  all_goals
    rename_i heq
    cases heq

/-- A character without a meaning of its own stands for itself. -/
lemma readItems_char {c : Char} (hc : c ∉ metaChars) (rest : List Char) :
    readItems (c :: rest) = (readItems rest).map (.char c :: ·) := by
  rw [readItems.eq_def]
  split
  case h_1 heq => cases heq
  case h_7 heq =>
    cases heq
    rw [if_neg hc]
  all_goals
    rename_i heq
    cases heq
    exact absurd (by decide) hc

/-- The items of a pattern are read back one by one. -/
lemma readItems_translate (pattern : List Char) :
    readItems (pattern.flatMap translateChar ++ ['$']) = some (pattern.map item ++ [.finish]) := by
  induction pattern with
  | nil => rfl
  | cons c pattern ih =>
    have hhead := head?_translate pattern
    rw [List.flatMap_cons, List.append_assoc, List.map_cons, translateChar, item]
    generalize pattern.flatMap translateChar ++ ['$'] = rest at ih hhead ⊢
    split_ifs with hpercent hunderscore hmeta
    · show (readItems rest).map _ = _
      rw [ih]
      rfl
    · show readItems ('.' :: rest) = _
      rw [readItems_dot hhead, ih]
      rfl
    · show (if c ∈ metaChars then (readItems rest).map _ else none) = _
      rw [if_pos hmeta, ih]
      rfl
    · show readItems (c :: rest) = _
      rw [readItems_char hmeta, ih]
      rfl

/-- A pattern that is written as a regular expression is read back as one for the whole text,
character by character. -/
lemma read?_toRegex (pattern : List Char) : Regex.read? (toRegex pattern) =
    some ⟨true, true, .start :: (pattern.map item ++ [.finish])⟩ := by
  show (readItems ('^' :: (pattern.flatMap translateChar ++ ['$']))).map _ = _
  show ((readItems _).map _).map _ = _
  rw [readItems_translate]
  rfl

/-- The items of a pattern match what can be cut into pieces. -/
lemma matchesAfter_items (items : List RegexItem) (pattern before s : List Char) :
    (Regex.mk true true items).MatchesAfter (pattern.map item ++ [.finish]) before s ↔
      Cuts pattern s := by
  induction pattern generalizing before s with
  | nil =>
    rw [cuts_nil]
    exact and_iff_left trivial
  | cons c pattern ih =>
    rw [List.map_cons, item]
    split_ifs with hpercent hunderscore
    · subst hpercent
      rw [cuts_cons]
      simp only [List.cons_append, MatchesAfter, ih, Takes, piece_percent, true_or, implies_true,
        true_and, and_comm]
    · subst hunderscore
      rw [cuts_underscore]
      simp only [List.cons_append, MatchesAfter, ih, Takes, true_or, true_and]
    · have hc : c ∉ Text.wildcards := by simp [Text.mem_wildcards, hpercent, hunderscore]
      rw [cuts_of_notMem hc]
      simp only [List.cons_append, MatchesAfter, ih, Agrees, if_true]

/-- A pattern that is written as a regular expression is found in a text exactly if the text can
be cut into pieces for it. -/
lemma foundIn_iff (pattern s : List Char) :
    (Regex.mk true true (.start :: (pattern.map item ++ [.finish]))).FoundIn s ↔
      Cuts pattern s := by
  constructor
  · rintro ⟨before, rest, rfl, rfl, hrest⟩
    exact (matchesAfter_items _ pattern [] rest).mp hrest
  · intro h
    exact ⟨[], s, rfl, rfl, (matchesAfter_items _ pattern [] s).mpr h⟩

end Pattern

namespace Column

open Pattern

/-- A column is like a pattern exactly if both are texts and that of the column can be cut into
pieces for the pattern, and not like it in all other cases.  Regular expressions come to the same:
every pattern is written as one that can be read, and it is found in just these texts. -/
theorem like_cuts_pieces :
    (∀ v w : Json, ∃ b, test .like v [w] = .ok b ∧ test .notLike v [w] = .ok (!b) ∧
      (b = true ↔ ∃ s p : String, v = .str s ∧ w = .str p ∧ Cuts p.toList s.toList)) ∧
    ∀ p : String, ∃ r, Regex.read? (toRegex p.toList) = some r ∧
      ∀ s : String, test .like (.str s) [.str p] = .ok true ↔ r.FoundIn s.toList := by
  refine ⟨fun v w => ⟨like v w, rfl, rfl, ?_⟩, fun p => ⟨_, read?_toRegex p.toList, fun s => ?_⟩⟩
  · constructor
    · intro h
      unfold like at h
      split at h
      · rename_i s p
        exact ⟨s, p, rfl, rfl, (patternMatches_iff _ _).mp h⟩
      · cases h
    · rintro ⟨s, p, rfl, rfl, hcuts⟩
      exact (patternMatches_iff _ _).mpr hcuts
  · rw [foundIn_iff, ← patternMatches_iff]
    exact ⟨fun h => Except.ok.inj h, congrArg _⟩

example : patternMatches "b_u%.\nK".toList "BLUE? YES.\nk".toList = true := by decide

end Column

end EntityGate
