/-
# Settings

A configuration entry is either a value or something to evaluate when a request arrives: an
object with the key `$call` names a callable and its arguments.  A setting is such an entry
with the calls found at every depth; a part without calls is kept as one literal.
-/
import EntityGate.Json.Compact

namespace EntityGate

/-- A configuration entry, with the calls inside it found. -/
inductive Setting where
  /-- A value that holds no call. -/
  | literal (value : Json)
  /-- A call of a named callable. -/
  | call (name : String) (args : List Setting)
  /-- A list that holds a call. -/
  | list (items : List Setting)
  /-- An object that holds a call, with its entries in key order. -/
  | map (entries : List (String × Setting))

namespace Setting

instance : Inhabited Setting := ⟨literal .null⟩

/-- The key that marks an object as a call. -/
def callKey : String := "$call"

/-- The key of the arguments of a call. -/
def argsKey : String := "args"

/-- The value of a literal setting. -/
def literal? : Setting → Option Json
  | literal v => some v
  | _ => none

/-- Whether a setting is the literal `null`, which counts as absent. -/
def isNull : Setting → Bool
  | literal .null => true
  | _ => false

/-- The values of settings that are all literal. -/
def literals? (items : List Setting) : Option (List Json) := items.mapM literal?

/-- The entries of an object whose values are all literal. -/
def literalEntries? (entries : List (String × Setting)) : Option (List (String × Json)) :=
  entries.mapM fun (k, s) => s.literal?.map fun v => (k, v)

/-- A list of settings, collapsed to one literal where all are literal. -/
def ofItems (items : List Setting) : Setting :=
  match literals? items with
  | some values => literal (.arr values)
  | none => list items

/-- Entries of an object, collapsed to one literal where all are literal. -/
def ofEntries (entries : List (String × Setting)) : Setting :=
  match literalEntries? entries with
  | some fields => literal (.obj fields)
  | none => map entries

mutual
/-- The setting that a canonical value describes. -/
def ofJson : Json → Setting
  | .null => literal .null
  | .bool b => literal (.bool b)
  | .num n => literal (.num n)
  | .str s => literal (.str s)
  | .arr items => ofItems (ofJsonItems items)
  | .obj fields =>
    match Json.lookup callKey fields with
    | some name => call name.textOrCompact (argsOf fields)
    | none => ofEntries (ofJsonFields fields)

/-- The settings that some values describe. -/
def ofJsonItems : List Json → List Setting
  | [] => []
  | v :: rest => ofJson v :: ofJsonItems rest

/-- The settings that the values of some entries describe. -/
def ofJsonFields : List (String × Json) → List (String × Setting)
  | [] => []
  | (k, v) :: rest => (k, ofJson v) :: ofJsonFields rest

/-- The arguments among the entries of a call: a list, nothing for `null` or no entry, and any
other value alone. -/
def argsOf : List (String × Json) → List Setting
  | [] => []
  | (k, v) :: rest =>
    if k = argsKey then
      match v with
      | .arr items => ofJsonItems items
      | .null => []
      | v => [ofJson v]
    else argsOf rest
end

mutual
/-- The value that describes a setting, calls written with a list of arguments. -/
def toJson : Setting → Json
  | literal v => v
  | call name args => .obj [(callKey, .str name), (argsKey, .arr (toJsonItems args))]
  | list items => .arr (toJsonItems items)
  | map entries => .obj (toJsonEntries entries)

/-- The values that describe some settings. -/
def toJsonItems : List Setting → List Json
  | [] => []
  | s :: rest => toJson s :: toJsonItems rest

/-- The entries that describe some entries. -/
def toJsonEntries : List (String × Setting) → List (String × Json)
  | [] => []
  | (k, s) :: rest => (k, toJson s) :: toJsonEntries rest
end

/-- The setting that reads a path of the request context. -/
def fromContext (path : String) : Setting := call "ctx" [literal (.str path)]

end Setting

end EntityGate
