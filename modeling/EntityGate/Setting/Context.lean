/-
# The request context

What settings can read while a request is handled: the parameters and options of the call, the
overrides, the front-end options, and extras such as the value under test.  A dotted path picks
a source by its first segment and then walks down object keys and list positions.
-/
import EntityGate.Json.Basic
import EntityGate.Text.CharClass

namespace EntityGate

/-- The sources that settings read from. -/
structure Context where
  params : Json
  options : Json
  optionOverrides : Json
  frontEndOptions : Json
  /-- Named extras, in key order. -/
  extras : List (String × Json)

namespace Context

/-- The context of a call, without extras. -/
def ofCall (params options optionOverrides frontEndOptions : Json) : Context :=
  ⟨params, options, optionOverrides, frontEndOptions, []⟩

/-- The context with an extra set. -/
def withExtra (ctx : Context) (key : String) (value : Json) : Context :=
  { ctx with extras := Json.insertField key value ctx.extras }

/-- The source that a first segment names. -/
def source? (ctx : Context) : String → Option Json
  | "params" => some ctx.params
  | "options" => some ctx.options
  | "optionOverrides" => some ctx.optionOverrides
  | "frontEndOptions" => some ctx.frontEndOptions
  | extra => Json.lookup extra ctx.extras

/-- One step down: a key of an object or a position of a list. -/
def descend (v : Json) (segment : String) : Option Json :=
  match v with
  | .obj fields => Json.lookup segment fields
  | .arr items => (Text.word64? segment).bind fun i => items[i]?
  | _ => none

/-- The value at a dotted path. -/
def lookup (ctx : Context) (path : String) : Option Json :=
  match Text.split '.' path with
  | [] => none
  | first :: rest => (ctx.source? first).bind fun root => rest.foldlM descend root

end Context

end EntityGate
