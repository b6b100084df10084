/-
# The compact text of a value

Values are written without blanks.  Strings are quoted, with the two-character escapes for the
quote, the backslash and the five common control characters, `\u00xx` for the other control
characters, and everything else as it stands.
-/
import EntityGate.Json.Basic
import EntityGate.Number.Layout

namespace EntityGate

/-- The text of a number. -/
def Number.text : Number → String
  | .int n => toString n
  | .float x => valueLayout.write x

namespace Json

/-- How a character is written inside quotes. -/
def escapeChar (c : Char) : List Char :=
  if c = '"' then ['\\', '"']
  else if c = '\\' then ['\\', '\\']
  else if c = '\x08' then ['\\', 'b']
  else if c = '\x0c' then ['\\', 'f']
  else if c = '\n' then ['\\', 'n']
  else if c = '\r' then ['\\', 'r']
  else if c = '\t' then ['\\', 't']
  else if c.toNat < 0x20 then
    ['\\', 'u', '0', '0', Nat.digitChar (c.toNat / 16), Nat.digitChar (c.toNat % 16)]
  else [c]

/-- A text in quotes. -/
def quote (s : String) : String :=
  String.ofList ('"' :: s.toList.flatMap escapeChar ++ ['"'])

mutual
/-- The compact text of a value. -/
def compact : Json → String
  | null => "null"
  | bool true => "true"
  | bool false => "false"
  | num n => n.text
  | str s => quote s
  | arr items => "[" ++ compactItems items ++ "]"
  | obj fields => "\x7b" ++ compactFields fields ++ "\x7d"

/-- The texts of items, separated by commas. -/
def compactItems : List Json → String
  | [] => ""
  | [v] => compact v
  | v :: rest => compact v ++ "," ++ compactItems rest

/-- The texts of entries, separated by commas. -/
def compactFields : List (String × Json) → String
  | [] => ""
  | [(k, v)] => quote k ++ ":" ++ compact v
  | (k, v) :: rest => quote k ++ ":" ++ compact v ++ "," ++ compactFields rest
end

/-- The text of a value inside other text: strings stand unquoted, and null is empty. -/
def display : Json → String
  | str s => s
  | null => ""
  | other => other.compact

/-- The text itself for a string, the compact text for any other value. -/
def textOrCompact : Json → String
  | str s => s
  | other => other.compact

end Json

end EntityGate
