/-
# Callables

The functions that settings may call.  A callable gets the values of its arguments and the
request context and returns a value or fails with a text; a missing argument is `null`.  A
registry maps names to callables; `Registry.standard` holds the built-in ones.
-/
import EntityGate.Setting.Context
import EntityGate.Json.Compact
import EntityGate.Text.Case

namespace EntityGate

/-- A function that settings may call. -/
abbrev Callable : Type := List Json → Context → Except String Json

namespace Callable

/-- An argument by position, `null` where it is missing. -/
def arg (args : List Json) (i : Nat) : Json := args[i]?.getD .null

/-- A callable that cannot fail and does not read the context. -/
def pure (f : List Json → Json) : Callable := fun args _ => .ok (f args)

/-- Read a path of the context; `null` where it leads nowhere. -/
def readContext : Callable := fun args ctx =>
  match arg args 0 with
  | .str path => .ok ((ctx.lookup path).getD .null)
  | _ => .error "'ctx' expects a string argument at position 0"

/-- How two values stand to each other: numbers as floats, texts by their bytes. -/
def ordering? : Json → Json → Option Ordering
  | .num m, .num n => some (compare m.order n.order)
  | .str s, .str t => some (compare s t)
  | _, _ => none

/-- Compare the first two arguments. -/
def comparison (test : Ordering → Bool) : Callable := fun args _ =>
  match ordering? (arg args 0) (arg args 1) with
  | some o => .ok (.bool (test o))
  | none =>
    .error ("cannot compare " ++ (arg args 0).compact ++ " with " ++ (arg args 1).compact)

/-- Whether the first argument is an item of the second. -/
def membership : Callable := fun args _ =>
  match arg args 1 with
  | .arr items => .ok (.bool (items.any fun v => v == arg args 0))
  | other => .error ("'in' expects a list as second argument, got " ++ other.compact)

/-- A function on texts; other values pass through. -/
def onText (f : String → String) : Json → Json
  | .str s => .str (f s)
  | other => other

/-- The number of decimals that an argument asks for, as a signed 32-bit integer. -/
def decimals : Json → Int
  | .num n => Int.bmod ((n.toNat?.getD 0 : Nat) : Int) (Nat.pow 2 32)
  | _ => 0

/-- Round a number to some decimals, a half going away from zero.  Without decimals the result
is an integer, as far as it fits into 63 bits; a result that is not finite is `null`. -/
def round (v places : Json) : Json :=
  match v with
  | .num n =>
    let p := decimals places
    let power := Number.powerBySquaring 10 p.natAbs
    let factor := if p < 0 then 1 / power else power
    let r := Number.roundAway (n.toFloat * factor) / factor
    if r.isNaN || r.isInf then .null
    else if p = 0 ∧ Number.magnitudeBits r < Number.magnitudeBits (Float.ofNat (Nat.pow 2 63)) then
      let m : Int := Number.roundedMagnitude r
      .int (if Number.signBit r then -m else m)
    else .num (.float r)
  | other => other

/-- The built-in callables. -/
def builtin? : String → Option Callable
  | "ctx" => some readContext
  | "not" => some (pure fun args => .bool (!(arg args 0).truthy))
  | "and" => some (pure fun args => .bool (args.all Json.truthy))
  | "or" => some (pure fun args => .bool (args.any Json.truthy))
  | "eq" => some (pure fun args => .bool (arg args 0 == arg args 1))
  | "neq" => some (pure fun args => .bool (!(arg args 0 == arg args 1)))
  | "gt" => some (comparison Ordering.isGT)
  | "gte" => some (comparison Ordering.isGE)
  | "lt" => some (comparison Ordering.isLT)
  | "lte" => some (comparison Ordering.isLE)
  | "in" => some membership
  | "is_null" => some (pure fun args => .bool (arg args 0).isNull)
  | "coalesce" => some (pure fun args => (args.find? fun v => !v.isNull).getD .null)
  | "concat" => some (pure fun args => .str ("".intercalate (args.map Json.display)))
  | "trim" => some (pure fun args => onText Text.trim (arg args 0))
  | "lowercase" => some (pure fun args => onText Text.lower (arg args 0))
  | "uppercase" => some (pure fun args => onText Text.upper (arg args 0))
  | "round" => some (pure fun args => round (arg args 0) (arg args 1))
  | _ => none

end Callable

/-- The callables that settings may name. -/
structure Registry where
  find? : String → Option Callable

namespace Registry

/-- The built-in callables and no others. -/
def standard : Registry := ⟨Callable.builtin?⟩

/-- The registry with one callable added or replaced. -/
def register (registry : Registry) (name : String) (callable : Callable) : Registry :=
  ⟨fun n => if n = name then some callable else registry.find? n⟩

end Registry

end EntityGate
