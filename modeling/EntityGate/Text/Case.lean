/-
# Upper case, lower case and folding

Full case mappings of whole texts, where one character may become several and a capital sigma
at the end of a word becomes the final small sigma, and simple folding of single characters,
which is what "equal up to case" means for patterns.
-/
import EntityGate.Text.CharClass
import EntityGate.Text.CasedTable
import EntityGate.Text.CaseTable

namespace EntityGate.Text

/-- Where a run sends a code point, if the point is on it. -/
def CaseRun.target? (run : CaseRun) (n : Nat) : Option Nat :=
  if run.first ≤ n ∧ n ≤ run.last ∧ (n - run.first) % run.step = 0 then
    some ((n : Int) + run.shift).toNat
  else none

/-- The image of a code point under a list of runs: itself where no run holds it. -/
def mapByRuns (runs : List CaseRun) (n : Nat) : Nat :=
  (runs.findSome? fun run => run.target? n).getD n

/-- The image of a character, a sequence taking precedence over the runs. -/
def mapCase (sequences : List (Nat × List Nat)) (runs : List CaseRun) (c : Char) : List Char :=
  match sequences.lookup c.toNat with
  | some codes => codes.map Char.ofNat
  | none => [Char.ofNat (mapByRuns runs c.toNat)]

/-- The upper-case form of a character. -/
def upperChar (c : Char) : List Char :=
  if c.toNat < 128 then [c.toUpper] else mapCase upperSequences upperRuns c

/-- The lower-case form of a character that stands alone. -/
def lowerChar (c : Char) : List Char :=
  if c.toNat < 128 then [c.toLower] else mapCase lowerSequences lowerRuns c

/-- The character that stands for all those equal to this one up to case. -/
def foldChar (c : Char) : Char :=
  if c.toNat < 128 then c.toLower else Char.ofNat (mapByRuns foldRuns c.toNat)

/-- Whether the nearest character that is not case-ignorable has a case. -/
def nextIsCased (cs : List Char) : Bool :=
  match cs.dropWhile fun c => inRanges caseIgnorableRanges c.toNat with
  | [] => false
  | c :: _ => inRanges casedRanges c.toNat

/-- Lower case from left to right; `before` holds the characters already passed, nearest first. -/
def lowerFrom (before : List Char) : List Char → List Char
  | [] => []
  | c :: rest =>
    let mapped :=
      if c = 'Σ' then (if nextIsCased before && !nextIsCased rest then ['ς'] else ['σ'])
      else lowerChar c
    mapped ++ lowerFrom (c :: before) rest

/-- A text in lower case. -/
def lower (s : String) : String := String.ofList (lowerFrom [] s.toList)

/-- A text in upper case. -/
def upper (s : String) : String := String.ofList (s.toList.flatMap upperChar)

/-- A text with its first character in upper case. -/
def capitalize (s : String) : String :=
  match s.toList with
  | [] => ""
  | c :: rest => String.ofList (upperChar c ++ rest)

/-- Whether two texts are equal once the ASCII letters of both are put in lower case. -/
def sameIgnoringAsciiCase (s t : String) : Bool :=
  s.toList.map Char.toLower == t.toList.map Char.toLower

/-! ## Folding -/

section Folding

variable {run other : CaseRun} {n m : Nat}

theorem CaseRun.target?_eq_some : run.target? n = some m ↔
    (run.first ≤ n ∧ n ≤ run.last ∧ (n - run.first) % run.step = 0) ∧
      m = ((n : Int) + run.shift).toNat := by
  rw [target?]
  split <;> simp [*, eq_comm]

/-- A code point stays where it is, or some run holds it. -/
theorem mapByRuns_cases (runs : List CaseRun) (n : Nat) :
    mapByRuns runs n = n ∨ ∃ run ∈ runs, run.target? n = some (mapByRuns runs n) := by
  rw [mapByRuns]
  cases hfind : runs.findSome? fun run => run.target? n with
  | none => exact .inl rfl
  | some m => exact .inr (List.exists_of_findSome?_eq_some hfind)

/-- The first code point that a run leads to. -/
def CaseRun.low (run : CaseRun) : Nat := ((run.first : Int) + run.shift).toNat

/-- The last code point that a run leads to. -/
def CaseRun.high (run : CaseRun) : Nat := ((run.last : Int) + run.shift).toNat

/-- A run leads past another one: to other places, or to those that the other one leaves out. -/
def CaseRun.leadsPast (run other : CaseRun) : Bool :=
  -- truth values throughout, since all pairs of runs are evaluated
  run.high.blt other.first || other.last.blt run.low ||
    (run.step.beq 2 || run.first.beq run.last) && other.step.beq 2 &&
      !(run.low % 2).beq (other.first % 2)

/-- No run of the folding leads to where one begins. -/
theorem foldRuns_leadPast :
    foldRuns.all fun run => foldRuns.all fun other => run.leadsPast other := by
  decide +kernel

/-- Folding leads to characters, and inside ASCII to those that are left as they are. -/
theorem foldRuns_lead : ∀ run ∈ foldRuns, 0 ≤ run.first + run.shift ∧
    (run.last + run.shift < 0xD800 ∨
      0xE000 ≤ run.first + run.shift ∧ run.last + run.shift < 0x110000) ∧
    (run.low < 128 → run.high = run.low ∧ foldChar (.ofNat run.low) = .ofNat run.low) := by
  decide +kernel

theorem CaseRun.target?_bounds (hm : run.target? n = some m) : run.low ≤ m ∧ m ≤ run.high := by
  obtain ⟨⟨hfirst, hlast, -⟩, rfl⟩ := target?_eq_some.mp hm
  rw [low, high]
  omega

/-- A run that leads past another one takes no code point to where the other one holds it. -/
theorem CaseRun.target?_of_leadsPast (h : run.leadsPast other = true)
    (hshift : 0 ≤ run.first + run.shift) (hm : run.target? n = some m) :
    other.target? m = none := by
  obtain ⟨⟨hfirst, hlast, hstep⟩, rfl⟩ := target?_eq_some.mp hm
  refine if_neg fun ⟨hfirst', hlast', hstep'⟩ => ?_
  simp only [leadsPast, low, high, Bool.or_eq_true, Bool.and_eq_true, Bool.not_eq_true',
    Nat.blt_eq, Nat.beq_eq] at h
  rcases h with (h | h) | ⟨⟨hon, htwo⟩, hodd⟩
  · omega
  · omega
  · -- the distance to the other run is odd at the beginning, and so at every step
    have hodd := Nat.ne_of_beq_eq_false hodd
    rw [htwo] at hstep'
    rcases hon with hon | hon
    · rw [hon] at hstep
      omega
    · omega

/-- What a run of the folding leads to stays where it is. -/
theorem mapByRuns_of_target? (hrun : run ∈ foldRuns) (hm : run.target? n = some m) :
    mapByRuns foldRuns m = m := by
  obtain h | ⟨other, hother, htarget⟩ := mapByRuns_cases foldRuns m
  · exact h
  · have hpast := List.all_eq_true.mp (List.all_eq_true.mp foldRuns_leadPast run hrun) other hother
    rw [CaseRun.target?_of_leadsPast hpast (foldRuns_lead run hrun).1 hm] at htarget
    cases htarget

variable {c : Char}

/-- Outside ASCII a character is folded to the character that its run leads to. -/
theorem toNat_foldChar (hc : ¬ c.toNat < 128) :
    (foldChar c).toNat = mapByRuns foldRuns c.toNat := by
  have hvalid : (mapByRuns foldRuns c.toNat).isValidChar := by
    obtain h | ⟨run, hrun, htarget⟩ := mapByRuns_cases foldRuns c.toNat
    · rw [h]
      exact c.valid
    · obtain ⟨hpos, hrange, -⟩ := foldRuns_lead run hrun
      obtain ⟨⟨hfirst, hlast, -⟩, hm⟩ := CaseRun.target?_eq_some.mp htarget
      rw [hm]
      show _ < 0xD800 ∨ 0xDFFF < _ ∧ _ < 0x110000
      omega
  rw [foldChar, if_neg hc, Char.ofNat, dif_pos hvalid]
  rfl

theorem forall_ascii {P : Char → Prop} (h : ∀ n < 128, P (Char.ofNat n)) (hc : c.toNat < 128) :
    P c := by
  have hchar := h c.toNat hc
  rwa [Char.ofNat_toNat] at hchar

/-- A character that was folded stands for itself. -/
theorem foldChar_foldChar (c : Char) : foldChar (foldChar c) = foldChar c := by
  by_cases hc : c.toNat < 128
  · exact forall_ascii (P := fun c => foldChar (foldChar c) = foldChar c) (by decide) hc
  · obtain h | ⟨run, hrun, htarget⟩ := mapByRuns_cases foldRuns c.toNat
    · have hself : foldChar c = c := by rw [foldChar, if_neg hc, h, Char.ofNat_toNat]
      rw [hself, hself]
    · rw [← toNat_foldChar hc] at htarget
      by_cases hsmall : (foldChar c).toNat < 128
      · obtain ⟨-, -, hlead⟩ := foldRuns_lead run hrun
        have hbounds := CaseRun.target?_bounds htarget
        obtain ⟨hone, hself⟩ := hlead (by omega)
        have hlow : foldChar c = Char.ofNat run.low := by
          rw [← Char.ofNat_toNat (foldChar c)]
          congr 1
          omega
        rw [hlow, hself]
      · rw [foldChar, if_neg hsmall, mapByRuns_of_target? hrun htarget, Char.ofNat_toNat]

theorem toNat_lt_of_val_le {bound : UInt32} (h : c.val ≤ bound) (hbound : bound.toNat < 128) :
    c.toNat < 128 :=
  Nat.lt_of_le_of_lt (UInt32.le_iff_toNat_le.mp h) hbound

/-- Folding does not tell capital letters of ASCII from small ones. -/
theorem foldChar_toLower (c : Char) : foldChar c.toLower = foldChar c := by
  by_cases hc : c.toNat < 128
  · exact forall_ascii (P := fun c => foldChar c.toLower = foldChar c) (by decide) hc
  · have hself : c.toLower = c := dif_neg fun h => hc (toNat_lt_of_val_le h.2 (by decide))
    rw [hself]

theorem foldChar_toUpper (c : Char) : foldChar c.toUpper = foldChar c := by
  by_cases hc : c.toNat < 128
  · exact forall_ascii (P := fun c => foldChar c.toUpper = foldChar c) (by decide) hc
  · have hself : c.toUpper = c := dif_neg fun h => hc (toNat_lt_of_val_le h.2 (by decide))
    rw [hself]

example : foldChar 'Σ' = 'σ' ∧ foldChar 'ς' = 'σ' ∧ foldChar '\u212A' = 'k' := by decide +kernel

end Folding

end EntityGate.Text
