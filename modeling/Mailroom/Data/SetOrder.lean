import Mailroom.Data.Scalar

/-!
# The order of a set

A set of numbers is not shown in the order in which it was written. Each number has a residue, which
is the same for equal numbers of any kind, and the residue decides which slot of a table the number
goes to. If the slot is taken, those right after it are tried, and then others further away. The
numbers are shown from the first slot to the last.

The table is made for the number of items and never grows, so the order depends on the items, on
their number and on the order in which they were written. Every slot is tried in the end, which is
why `freeSlot?` needs no more rounds than there are slots and bits.

Other items have no residue, and a set that holds one of them is shown as it was written.
-/

set_option autoImplicit false

namespace Mailroom.SetOrder

open Binary64 (twoTo)

/-- Residues are taken by this prime, of which sixty-one bits are all the bits. -/
def modulus : Nat := 2305843009213693951

def infinityResidue : Nat := 314159

/-- A residue with a sign. The residue -1 is not used. -/
def signed (negative : Bool) (n : Nat) : Int :=
  if negative then (if n = 1 then -2 else -n) else n

def residue? : Scalar → Option Int
  | .bool b => some (if b then 1 else 0)
  | .int n => some (signed (n < 0) (n.natAbs % modulus))
  | .real (.finite negative mantissa exponent) =>
    some (signed negative (mantissa * twoTo (exponent % 61).toNat % modulus))
  | .real (.infinite negative) => some (signed negative infinityResidue)
  | _ => none

/-- The number of slots for a number of items: a power of two, more than twice as many unless there
are only a few. -/
def slotCount (items : Nat) : Nat := if items < 5 then 8 else twoTo ((2 * items).log2 + 1)

/-- The slots that are tried together: one and the nine after it, unless they go beyond the last. -/
def neighbours (slots i : Nat) : List Nat := if i + 9 < slots then List.range' i 10 else [i]

section

variable {α : Type}

/-- The first free slot, tried from one on for some rounds; `bits` are those of the residue that
have not yet had a say in where to go on. -/
def freeSlot? (slots : Array (Option α)) : Nat → Nat → Nat → Option Nat
  | 0, _, _ => none
  | rounds + 1, bits, i =>
    match (neighbours slots.size i).find? fun j => (slots.getD j none).isNone with
    | some j => some j
    | none =>
      -- once the bits are used up, the steps run through all slots
      let bits := bits / 32
      freeSlot? slots rounds bits ((i * 5 + 1 + bits) % slots.size)

def put (slots : Array (Option α)) (residue : Int) (a : α) : Array (Option α) :=
  let bits := (residue % (twoTo 64 : Nat)).toNat
  match freeSlot? slots (slots.size + 64) bits (bits % slots.size) with
  | some j => slots.setIfInBounds j (some a)
  | none => slots

def bySlot (items : List (Int × α)) : List α :=
  let slots := Array.replicate (slotCount items.length) none
  (items.foldl (fun slots (residue, a) => put slots residue a) slots).toList.filterMap id

/-- The items of a set in the order in which they are shown. -/
def arrange (items : List (Scalar × α)) : List α :=
  match items.mapM fun (s, a) => (residue? s).map fun r => (r, a) with
  | some residues => bySlot residues
  | none => items.map fun (_, a) => a

end

end Mailroom.SetOrder
