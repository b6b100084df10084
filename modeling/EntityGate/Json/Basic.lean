/-
# JSON values

A number is an integer of 64 bits or a float, and the two kinds are never equal.  A value that
the program works with is canonical: the keys of each of its objects increase strictly in the
order of their UTF-8 bytes, which is the order of their code points.  `canonical` brings any
value into that form, the last of several entries with one key winning; `insert` and `erase`
keep it.  Equality of values is `same`, under which the two float zeros are equal.
-/
import EntityGate.Number.Binary64

namespace EntityGate

/-- A number of a JSON value. -/
inductive Number where
  /-- An integer between `-2 ^ 63` and `2 ^ 64 - 1`. -/
  | int (n : Int)
  /-- A 64-bit float. -/
  | float (x : Float)
deriving DecidableEq

namespace Number

/-- The float that a number is compared by. -/
def toFloat : Number → Float
  | int n => Float.ofInt n
  | float x => x

/-- The place of a number in the order of floats. -/
def order (n : Number) : Int := rank n.toFloat

/-- Equality of numbers as values: kinds are kept apart, and the float zeros are equal. -/
def same : Number → Number → Bool
  | int m, int n => m = n
  | float x, float y => rank x = rank y
  | _, _ => false

/-- The number as a natural number, if it is a nonnegative integer. -/
def toNat? : Number → Option Nat
  | int n => if 0 ≤ n then some n.toNat else none
  | float _ => none

end Number

/-- A JSON value. -/
inductive Json where
  | null
  | bool (b : Bool)
  | num (n : Number)
  | str (s : String)
  | arr (items : List Json)
  | obj (fields : List (String × Json))

namespace Json

instance : Inhabited Json := ⟨null⟩

/-- The integer `n` as a value. -/
def int (n : Int) : Json := num (.int n)

/-- The natural number `n` as a value. -/
def nat (n : Nat) : Json := num (.int n)

/-- Whether a value is `null`. -/
def isNull : Json → Bool
  | null => true
  | _ => false

/-- The text of a string value. -/
def str? : Json → Option String
  | str s => some s
  | _ => none

/-- The entries of an object. -/
def fields? : Json → Option (List (String × Json))
  | obj fields => some fields
  | _ => none

/-- The items of a list. -/
def items? : Json → Option (List Json)
  | arr items => some items
  | _ => none

/-! ## Entries of objects -/

/-- The entry under a key. -/
def lookup (key : String) (fields : List (String × Json)) : Option Json :=
  fields.lookup key

/-- Put a value under a key, at the place of the key in byte order. -/
def insertField (key : String) (value : Json) :
    List (String × Json) → List (String × Json)
  | [] => [(key, value)]
  | (k, v) :: rest =>
    if key = k then (key, value) :: rest
    else if key < k then (key, value) :: (k, v) :: rest
    else (k, v) :: insertField key value rest

/-- Remove a key. -/
def eraseField (key : String) (fields : List (String × Json)) : List (String × Json) :=
  fields.filter fun entry => entry.1 ≠ key

/-- The object with the given entries, the last of several with one key winning. -/
def ofFields (fields : List (String × Json)) : Json :=
  obj (fields.foldl (fun acc (k, v) => insertField k v acc) [])

/-- The entry of an object under a key. -/
def get? (v : Json) (key : String) : Option Json :=
  match v with
  | obj fields => lookup key fields
  | _ => none

/-- Put a value under a key of an object; other values stay as they are. -/
def insert (v : Json) (key : String) (value : Json) : Json :=
  match v with
  | obj fields => obj (insertField key value fields)
  | other => other

/-- Remove a key of an object; other values stay as they are. -/
def erase (v : Json) (key : String) : Json :=
  match v with
  | obj fields => obj (eraseField key fields)
  | other => other

/-! ## Recursion over values -/

mutual
/-- The value with the keys of every object sorted, the last of several with one key winning. -/
def canonical : Json → Json
  | arr items => arr (canonicalItems items)
  | obj fields => ofFields (canonicalFields fields)
  | null => null
  | bool b => bool b
  | num n => num n
  | str s => str s

/-- `canonical` on every item. -/
def canonicalItems : List Json → List Json
  | [] => []
  | v :: rest => canonical v :: canonicalItems rest

/-- `canonical` on every entry. -/
def canonicalFields : List (String × Json) → List (String × Json)
  | [] => []
  | (k, v) :: rest => (k, canonical v) :: canonicalFields rest
end

mutual
/-- Equality of values, under which the two float zeros are equal. -/
def same : Json → Json → Bool
  | null, null => true
  | bool a, bool b => a = b
  | num m, num n => m.same n
  | str s, str t => s = t
  | arr xs, arr ys => sameItems xs ys
  | obj fs, obj gs => sameFields fs gs
  | _, _ => false
termination_by structural v => v

/-- `same` item by item. -/
def sameItems : List Json → List Json → Bool
  | [], [] => true
  | v :: rest, w :: rest' => same v w && sameItems rest rest'
  | _, _ => false
termination_by structural vs => vs

/-- `same` entry by entry. -/
def sameFields : List (String × Json) → List (String × Json) → Bool
  | [], [] => true
  | (k, v) :: rest, (l, w) :: rest' => k = l && same v w && sameFields rest rest'
  | _, _ => false
termination_by structural fs => fs
end

instance : BEq Json := ⟨same⟩

mutual
/-- The number of nodes of a value. -/
def size : Json → Nat
  | arr items => sizeItems items + 1
  | obj fields => sizeFields fields + 1
  | _ => 1

/-- The number of nodes of a list of values. -/
def sizeItems : List Json → Nat
  | [] => 0
  | v :: rest => size v + sizeItems rest

/-- The number of nodes of the values of some entries. -/
def sizeFields : List (String × Json) → Nat
  | [] => 0
  | (_, v) :: rest => size v + sizeFields rest
end

mutual
/-- How deep lists and objects are nested in a value; a scalar has depth zero. -/
def depth : Json → Nat
  | arr items => depthItems items + 1
  | obj fields => depthFields fields + 1
  | _ => 0

/-- The greatest depth of some values. -/
def depthItems : List Json → Nat
  | [] => 0
  | v :: rest => max (depth v) (depthItems rest)

/-- The greatest depth of the values of some entries. -/
def depthFields : List (String × Json) → Nat
  | [] => 0
  | (_, v) :: rest => max (depth v) (depthFields rest)
end

/-- Whether a value counts as true: `null`, `false`, zero and empty texts, lists and objects
do not. -/
def truthy : Json → Bool
  | null => false
  | bool b => b
  | num n => n.order ≠ 0
  | str s => s ≠ ""
  | arr items => !items.isEmpty
  | obj fields => !fields.isEmpty

/-- The list itself, or the one-item list of any other value. -/
def toItems : Json → List Json
  | arr items => items
  | other => [other]

end Json

end EntityGate
