/-
# Character classes

Field names are made of word characters, numbered keys end in decimal digits, and blanks are
trimmed from both ends of a text.  Each class is the Unicode one; inside ASCII it is decided
directly, outside by the tables.
-/
import EntityGate.Text.WordTable

namespace EntityGate.Text

/-- Whether a code point lies in one of the ranges. -/
def inRanges (ranges : List (Nat × Nat)) (n : Nat) : Bool :=
  ranges.any fun (low, high) => low ≤ n && n ≤ high

/-- A decimal digit of any script. -/
def isDecimalDigit (c : Char) : Bool :=
  if c.toNat < 128 then c.isDigit else inRanges digitRanges c.toNat

/-- A character that may stand in a name: a letter, mark, digit, connector or joiner. -/
def isWord (c : Char) : Bool :=
  if c.toNat < 128 then c.isAlphanum || c == '_' else inRanges wordRanges c.toNat

/-- The blank characters, as closed ranges of code points. -/
def blankRanges : List (Nat × Nat) :=
  [(0x9, 0xD), (0x20, 0x20), (0x85, 0x85), (0xA0, 0xA0), (0x1680, 0x1680), (0x2000, 0x200A),
   (0x2028, 0x2029), (0x202F, 0x202F), (0x205F, 0x205F), (0x3000, 0x3000)]

/-- A character that trimming removes. -/
def isBlank (c : Char) : Bool := inRanges blankRanges c.toNat

/-- The characters left when blanks are taken off both ends. -/
def trimChars (cs : List Char) : List Char :=
  ((cs.dropWhile isBlank).reverse.dropWhile isBlank).reverse

/-- A text without the blanks at its ends. -/
def trim (s : String) : String := String.ofList (trimChars s.toList)

/-- The pieces of a text between occurrences of a separator; never empty. -/
def splitChars (separator : Char) : List Char → List (List Char)
  | [] => [[]]
  | c :: rest =>
    match splitChars separator rest with
    | [] => [[c]]
    | piece :: pieces =>
      if c = separator then [] :: piece :: pieces else (c :: piece) :: pieces

/-- The pieces of a text between occurrences of a separator. -/
def split (separator : Char) (s : String) : List String :=
  (splitChars separator s.toList).map String.ofList

/-- The text before the first occurrence of a separator and the text after it, if it occurs. -/
def cutFirst? (separator : Char) (s : String) : Option (String × String) :=
  let cs := s.toList
  match cs.dropWhile (· ≠ separator) with
  | [] => none
  | _ :: rest => some (String.ofList (cs.takeWhile (· ≠ separator)), String.ofList rest)

/-- Every occurrence of a nonempty pattern replaced, from left to right without overlap. -/
def replaceChars (pattern replacement : List Char) : List Char → List Char
  | [] => []
  | c :: rest =>
    if _ : pattern ≠ [] ∧ pattern.isPrefixOf (c :: rest) then
      replacement ++ replaceChars pattern replacement ((c :: rest).drop pattern.length)
    else c :: replaceChars pattern replacement rest
termination_by cs => cs.length
decreasing_by
  · rename_i h
    have := List.length_pos_iff.2 h.1
    simp only [List.length_drop, List.length_cons]
    omega
  · simp

/-- Every occurrence of a nonempty pattern in a text replaced. -/
def replace (pattern replacement s : String) : String :=
  String.ofList (replaceChars pattern.toList replacement.toList s.toList)

/-- The value of a nonempty text of ASCII digits. -/
def natOfDigits? (cs : List Char) : Option Nat :=
  if cs ≠ [] ∧ cs.all Char.isDigit then
    some (cs.foldl (fun n c => 10 * n + (c.toNat - '0'.toNat)) 0)
  else none

/-- A natural number written in ASCII digits, with an optional plus sign in front. -/
def signedNat? (s : String) : Option Nat :=
  match s.toList with
  | '+' :: rest => natOfDigits? rest
  | cs => natOfDigits? cs

/-- A `signedNat?` that fits into 64 bits. -/
def word64? (s : String) : Option Nat :=
  (signedNat? s).filter (· < Nat.pow 2 64)

theorem splitChars_ne_nil (separator : Char) (cs : List Char) : splitChars separator cs ≠ [] := by
  cases cs with
  | nil => simp [splitChars]
  | cons c rest =>
    simp only [splitChars]
    split
    · simp
    · split <;> simp

end EntityGate.Text
