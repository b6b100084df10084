/-
# Pages

What a client is told about the page it got: whether rows follow it and whether rows come
before it.  Positions are 64-bit numbers, and sums stay at the largest one.
-/
import EntityGate.Json.Record

namespace EntityGate

/-- The place of a page among all rows. -/
structure Page where
  offset : Nat
  limit : Nat
  total : Nat
  hasNext : Bool
  hasPrev : Bool
deriving DecidableEq, Repr

namespace Page

/-- The largest number of 64 bits. -/
def largest : Nat := Nat.pow 2 64 - 1

/-- The page of `limit` rows from the row at `offset`, counted from one, out of `total`. -/
def of (offset limit total : Nat) : Page :=
  let start := offset - 1
  ⟨offset, limit, total, min (start + limit) largest < total, 0 < start⟩

/-- The value that describes a page. -/
def toJson (p : Page) : Json :=
  .ofFields [("offset", .nat p.offset), ("limit", .nat p.limit), ("total", .nat p.total),
    ("has_next", .bool p.hasNext), ("has_prev", .bool p.hasPrev)]

end Page

end EntityGate
