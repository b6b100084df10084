/-
# Resolving settings

A setting is evaluated against a request context: lists and objects entry by entry, calls after
their arguments, from left to right; the callable is looked up before its arguments are
evaluated.  Typed readings treat `null` as absent and refuse other types.  A setting that may
stand at several layers takes the first layer that is not absent.
-/
import EntityGate.Setting.Basic
import EntityGate.Setting.Callable
import EntityGate.Fault

namespace EntityGate

namespace Setting

mutual
/-- The value of a setting in a context. -/
def resolve (registry : Registry) (ctx : Context) : Setting → Except Fault Json
  | literal v => .ok v
  | list items => do return .arr (← resolveItems registry ctx items)
  | map entries => do return .ofFields (← resolveEntries registry ctx entries)
  | call name args => do
    match registry.find? name with
    | none => throw (.unknownCallable name)
    | some callable =>
      let values ← resolveItems registry ctx args
      match callable values ctx with
      | .ok v => return v
      | .error text => throw (.callFailed name text)

/-- The values of some settings, evaluated in order. -/
def resolveItems (registry : Registry) (ctx : Context) : List Setting → Except Fault (List Json)
  | [] => .ok []
  | s :: rest => do
    let v ← resolve registry ctx s
    let vs ← resolveItems registry ctx rest
    return v :: vs

/-- The entries with their values, evaluated in order. -/
def resolveEntries (registry : Registry) (ctx : Context) :
    List (String × Setting) → Except Fault (List (String × Json))
  | [] => .ok []
  | (k, s) :: rest => do
    let v ← resolve registry ctx s
    let vs ← resolveEntries registry ctx rest
    return (k, v) :: vs
end

end Setting

/-- A setting that may be absent. -/
abbrev Setting? : Type := Option Setting

namespace Resolve

variable (registry : Registry) (ctx : Context)

/-- The value of a setting, `none` where it is absent or `null`. -/
def value? (s : Setting?) : Except Fault (Option Json) :=
  match s with
  | none => .ok none
  | some s => do
    match ← s.resolve registry ctx with
    | .null => return none
    | v => return some v

/-- The setting as a truth value. -/
def bool? (name : String) (s : Setting?) : Except Fault (Option Bool) := do
  match ← value? registry ctx s with
  | none => return none
  | some (.bool b) => return some b
  | some other => throw (.typeMismatch name "a boolean" other)

/-- A nonnegative integer of 64 bits, or its decimal text. -/
def toNat? : Json → Option Nat
  | .num n => n.toNat?
  | .str s => Text.word64? s
  | _ => none

/-- The setting as a nonnegative integer. -/
def nat? (name : String) (s : Setting?) : Except Fault (Option Nat) := do
  match ← value? registry ctx s with
  | none => return none
  | some v =>
    match toNat? v with
    | some n => return some n
    | none => throw (.typeMismatch name "a non-negative integer" v)

/-- The setting as a text; numbers are taken as their text. -/
def text? (name : String) (s : Setting?) : Except Fault (Option String) := do
  match ← value? registry ctx s with
  | none => return none
  | some (.str t) => return some t
  | some (.num n) => return some n.text
  | some other => throw (.typeMismatch name "a string" other)

/-- The first answer among some layers. -/
def first? {α : Type} (read : Setting? → Except Fault (Option α)) :
    List Setting? → Except Fault (Option α)
  | [] => .ok none
  | layer :: rest => do
    match ← read layer with
    | some a => return some a
    | none => first? read rest

/-- The value of the first layer that has one. -/
def findValue? (layers : List Setting?) : Except Fault (Option Json) :=
  first? (value? registry ctx) layers

/-- The truth value of the first layer that has one. -/
def findBool? (name : String) (layers : List Setting?) : Except Fault (Option Bool) :=
  first? (bool? registry ctx name) layers

/-- The integer of the first layer that has one. -/
def findNat? (name : String) (layers : List Setting?) : Except Fault (Option Nat) :=
  first? (nat? registry ctx name) layers

end Resolve

end EntityGate
