import AmbientBundle.Value

/-!
# The order of a set

A set of numbers is kept in a table of slots and listed slot by slot.  The table has
more than twice as many slots as there are numbers, and their count is a power of two.

A number has a code, its remainder by a large prime.  The code says where to look for a
free slot: at the slot of its last bits and the few that follow, then at a slot farther
away, to which the other bits of the code contribute.  Numbers that are equal have the
same code, whatever their kind.

A set that holds anything else is listed as it was written.
-/

namespace AmbientBundle
namespace Slots

/-! ## Codes -/

/-- The bits of the prime, all of which are set. -/
def bits : Nat := 61

/-- The prime. -/
def modulus : Nat := Nat.pow 2 bits - 1

/-- The count of all codes. -/
def codes : Nat := Nat.pow 2 64

/-- A magnitude with a sign as a code.  The code below zero by one is not used. -/
def signed (negative : Bool) (h : Nat) : Nat :=
  if negative && h ≠ 0 then codes - (if h = 1 then 2 else h) else h

/-- The code of the infinities. -/
def infinity : Nat := 314159

/-- The code of a number.  Since two to the power of `bits` leaves the remainder one, dividing
by a power of two is multiplying by another. -/
def code? (v : Value) : Option Nat :=
  match v, v.asRatio? with
  | .float (.infinite negative), _ => some (signed negative infinity)
  | _, some (n, d) =>
      let turn := Nat.pow 2 ((bits - d.log2 % bits) % bits)
      some (signed (n < 0) (n.natAbs * turn % modulus))
  | _, none => none

/-! ## Tables -/

/-- The slots of a table for some numbers. -/
def sizeFor (count : Nat) : Nat := if count < 5 then 8 else Nat.pow 2 ((2 * count).log2 + 1)

/-- How many slots after the first are looked at before going farther away. -/
def reach : Nat := 9

/-- The first free slot among some that follow one another. -/
def free? (table : Array (Option Value)) : Nat → Nat → Option Nat
  | i, 0 => if (table.getD i none).isNone then some i else none
  | i, more + 1 => if (table.getD i none).isNone then some i else free? table (i + 1) more

/-- Put a value into the first free slot on its way. -/
def place (v : Value) (table : Array (Option Value)) : Nat → Nat → Nat → Array (Option Value)
  | 0, _, _ => table
  | steps + 1, i, rest =>
      match free? table i (if i + reach < table.size then reach else 0) with
      | some j => table.setIfInBounds j (some v)
      | none =>
          let rest := rest / 32
          place v table steps ((i * 5 + 1 + rest) % table.size) rest

/-- The table of some values with their codes. -/
def table (vs : List (Value × Nat)) : Array (Option Value) :=
  vs.foldl
    (fun t (v, code) => place v t (t.size + 16) (code % t.size) code)
    (Array.replicate (sizeFor vs.length) none)

/-- The members of a set in the order in which they are listed. -/
def order (vs : List Value) : List Value :=
  match vs.mapM code? with
  | none => vs
  | some cs => (table (vs.zip cs)).toList.filterMap id

end Slots
end AmbientBundle
