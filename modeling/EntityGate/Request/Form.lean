/-
# Form-encoded queries

The query of a URI as pairs of texts: pairs are separated by `&`, a key from its value by the
first `=`, a plus sign is a blank, and a percent sign with two hexadecimal digits is a byte.
Bytes that are no UTF-8 become replacement characters, one for each maximal part of a sequence.
-/
import EntityGate.Json.Reader

namespace EntityGate.Form

/-- The UTF-8 bytes of a text. -/
def bytes (cs : List Char) : List Nat :=
  (String.ofList cs).toUTF8.toList.map UInt8.toNat

/-- The bytes that some characters of a query stand for. -/
def decodeBytes : List Char → List Nat
  | [] => []
  | '+' :: rest => 0x20 :: decodeBytes rest
  | '%' :: a :: b :: rest =>
    match Json.hexDigit? a, Json.hexDigit? b with
    | some high, some low => (16 * high + low) :: decodeBytes rest
    | _, _ => 0x25 :: decodeBytes (a :: b :: rest)
  | c :: rest => bytes [c] ++ decodeBytes rest
termination_by cs => cs.length

/-- The replacement character. -/
def replacement : Char := Char.ofNat 0xFFFD

/-- Whether a byte continues a character. -/
def isContinuation (b : Nat) : Bool := 0x80 ≤ b && b < 0xC0

/-- How many bytes follow a leading byte, and the range of the first of them. -/
def lead? (b : Nat) : Option (Nat × Nat × Nat) :=
  if 0xC2 ≤ b ∧ b ≤ 0xDF then some (1, 0x80, 0xBF)
  else if b = 0xE0 then some (2, 0xA0, 0xBF)
  else if b = 0xED then some (2, 0x80, 0x9F)
  else if 0xE1 ≤ b ∧ b ≤ 0xEF then some (2, 0x80, 0xBF)
  else if b = 0xF0 then some (3, 0x90, 0xBF)
  else if 0xF1 ≤ b ∧ b ≤ 0xF3 then some (3, 0x80, 0xBF)
  else if b = 0xF4 then some (3, 0x80, 0x8F)
  else none

/-- The payload of a leading byte with some bytes to follow. -/
def leadBits (following b : Nat) : Nat := b % Nat.pow 2 (6 - following)

/-- What is known of the character being read: the bits so far, how many bytes are owed and the
range of the next one. -/
structure Unfinished where
  bits : Nat
  owed : Nat
  low : Nat
  high : Nat

/-- The characters of a byte outside of any sequence: one, or the start of a sequence. -/
def startByte (b : Nat) : List Char × Option Unfinished :=
  if b < 0x80 then ([Char.ofNat b], none)
  else match lead? b with
    | some (n, low, high) => ([], some ⟨leadBits n b, n, low, high⟩)
    | none => ([replacement], none)

/-- The text of some bytes, with a replacement character for what is no UTF-8. -/
def decodeUtf8 : Option Unfinished → List Nat → List Char
  | none, [] => []
  | some _, [] => [replacement]
  | none, b :: rest =>
    let (cs, state) := startByte b
    cs ++ decodeUtf8 state rest
  | some p, b :: rest =>
    if p.low ≤ b ∧ b ≤ p.high then
      let bits := 64 * p.bits + b % 64
      if p.owed = 1 then Char.ofNat bits :: decodeUtf8 none rest
      else decodeUtf8 (some ⟨bits, p.owed - 1, 0x80, 0xBF⟩) rest
    else
      let (cs, state) := startByte b
      replacement :: cs ++ decodeUtf8 state rest

/-- The text that some characters of a query stand for. -/
def decodeText (cs : List Char) : String :=
  String.ofList (decodeUtf8 none (decodeBytes cs))

/-- The pair that one part of a query stands for. -/
def decodePair (cs : List Char) : String × String :=
  (decodeText (cs.takeWhile (· ≠ '=')), decodeText ((cs.dropWhile (· ≠ '=')).drop 1))

/-- The pairs of a query, empty parts being skipped. -/
def pairs (query : List Char) : List (String × String) :=
  ((Text.splitChars '&' query).filter fun cs => !cs.isEmpty).map decodePair

/-! ## URIs -/

/-- A character that a path may hold as it is. -/
def isPathChar (c : Char) : Bool :=
  c.toNat ≥ 0x7F || (0x20 < c.toNat && c ≠ '#' && c ≠ '<' && c ≠ '>' && c ≠ '?' && c ≠ '\x60')

/-- A character that a query may hold as it is. -/
def isQueryChar (c : Char) : Bool :=
  c.toNat ≥ 0x7F || (0x20 < c.toNat && c ≠ '"' && c ≠ '#' && c ≠ '<' && c ≠ '>')

/-- A character of a scheme. -/
def isSchemeChar (c : Char) : Bool := c.isAlphanum || c = '+' || c = '-' || c = '.'

/-- A character of an authority. -/
def isAuthorityChar (c : Char) : Bool :=
  c.isAlphanum || "-._~!$&'()*+,;=:@[]%".toList.contains c

/-- What has been seen of an authority, from its start or from the last `@` or `]`. -/
structure Authority where
  colons : Nat
  percent : Bool
  opened : Bool
  closed : Bool

/-- What has been seen after one more character; `none` where it may not stand. -/
def Authority.step? (a : Authority) (c : Char) : Option Authority :=
  if !isAuthorityChar c then none
  else if c = ':' then if 8 ≤ a.colons then none else some { a with colons := a.colons + 1 }
  else if c = '[' then if a.percent || a.opened then none else some { a with opened := true }
  else if c = ']' then
    if !a.opened || a.closed then none
    else some { a with colons := 0, percent := false, closed := true }
  else if c = '@' then some { a with colons := 0, percent := false }
  else if c = '%' then some { a with percent := true }
  else some a

/-- Whether some characters are an authority: a host with at most one port after it, in which
brackets are paired and percent signs stand only before the last `@` or `]`. -/
def isAuthority (cs : List Char) : Bool :=
  match cs.foldlM Authority.step? ⟨0, false, false, false⟩ with
  | none => false
  | some a =>
    a.colons ≤ 1 && !a.percent && a.opened = a.closed && cs.getLast? ≠ some '@'

/-- The query of a path, empty if there is none; a fragment is dropped. -/
def queryOfPath? (cs : List Char) : Option (List Char) :=
  let path := cs.takeWhile fun c => c ≠ '?' && c ≠ '#'
  if !path.all isPathChar then none
  else match cs.dropWhile fun c => c ≠ '?' && c ≠ '#' with
    | '?' :: rest =>
      let query := rest.takeWhile (· ≠ '#')
      if query.all isQueryChar then some query else none
    | _ => some []

/-- The characters after `://`, if a scheme comes before it. -/
def afterScheme? (cs : List Char) : Option (List Char) :=
  let scheme := cs.takeWhile isSchemeChar
  match cs.dropWhile isSchemeChar with
  | ':' :: '/' :: '/' :: rest => if scheme.length ≤ 64 then some rest else none
  | _ => none

/-- The query of a URI: a path, a whole URI with a scheme, or an authority alone. -/
def queryOfUri? (uri : String) : Option (List Char) :=
  match uri.toList with
  | [] => none
  | ['*'] => some []
  | '/' :: rest => queryOfPath? ('/' :: rest)
  | cs =>
    match afterScheme? cs with
    | some rest =>
      let authority := rest.takeWhile fun c => c ≠ '/' && c ≠ '?' && c ≠ '#'
      if authority.isEmpty || !isAuthority authority then none
      else queryOfPath? (rest.drop authority.length)
    | none => if isAuthority cs then some [] else none

end EntityGate.Form
