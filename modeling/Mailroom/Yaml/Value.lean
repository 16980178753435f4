import Mailroom.Data.Layer
import Mailroom.Yaml.Reach

/-!
# Values of documents

The values of a document lie at numbered places, and a collection has its parts by their places. So
an alias costs nothing, however large the value that it stands for, and a collection can contain
itself.

A `Value` is a place together with all the places of its document. It is `Layered`, so whatever
checks data can check it, one layer at a time and without knowing about places.

To quote a value is to go through all that is in it. It ends since a collection inside itself is
only hinted at, but it goes as deep as the nesting, and there is room for so much and no more.
-/

set_option autoImplicit false

namespace Mailroom.Yaml

abbrev Places := Array (Layer Nat)

namespace Places

def layer (places : Places) (i : Nat) : Layer Nat := places.getD i (.scalar .null)

/-- The form in which a message quotes the value at a place that lies inside the values at some
others, if it is nested no deeper than there is room for. A value inside itself is not shown
again. -/
def shownInside (places : Places) : Nat → List Nat → Nat → Except Unshown String
  | 0, _, _ => .error .tooDeep
  | room + 1, around, i =>
    if around.contains i then .ok (places.layer i).dots
    else (places.layer i).shownWith (places.shownInside room (i :: around))

def shown [Reach] (places : Places) (i : Nat) : Except Unshown String :=
  places.shownInside Reach.quotes [] i

end Places

structure Value where
  places : Places
  place : Nat
  deriving DecidableEq

namespace Value

def null : Value := ⟨#[.scalar .null], 0⟩

def layer (v : Value) : Layer Value := (v.places.layer v.place).withParts fun i => ⟨v.places, i⟩

instance [Reach] : Layered Value := ⟨layer, fun v => v.places.shown v.place⟩

end Value

end Mailroom.Yaml
