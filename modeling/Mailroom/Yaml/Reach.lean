/-!
# How far reading goes

Reading a document and quoting a value go inside whatever is found there: a collection inside a
collection, a mapping that is merged into another, a mapping that stands for the value of its key
`=`. There is room for so many steps inwards and no more. What is nested deeper has no value, and
the fault is the same as that of a value that never comes to an end.

How much room there is depends on who reads and on what was going on before, so it is a parameter of
everything that reads YAML. What is proved about reading is proved for any reach. `Reach.usual` is
that of a reader who has just been started.
-/

set_option autoImplicit false

namespace Mailroom.Yaml

class Reach where
  /-- Collections, as they are written inside each other. -/
  nodes : Nat
  /-- Mappings, each merged into the one before. -/
  merges : Nat
  /-- Mappings, each of which stands for the value of the one before. -/
  texts : Nat
  /-- Values inside each other, where a message quotes the outermost. -/
  quotes : Nat

instance Reach.usual : Reach := ⟨480, 980, 980, 980⟩

end Mailroom.Yaml
