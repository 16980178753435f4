import Mailroom.Text.Space

/-!
# Instructions

The machine knows three instructions: take a value from the inbox, put the value in hand into the
outbox, and jump to a label. A line of source is an instruction when its words are the words of the
instruction's source form. How many blanks stand between the words makes no difference.

A label in a jump is any word. Whether it is declared is not asked here, and neither is whether it
has the form of a name. A line that starts with a complete instruction and goes on is refused for
its first word too many. Every other line is refused as a whole, even if it starts well: a jump
without a label is one of them.
-/

set_option autoImplicit false

namespace Mailroom

inductive Instruction where
  | inbox
  | outbox
  | jump (label : String)
  deriving DecidableEq, Repr

namespace Instruction

def names : List String := ["INBOX", "OUTBOX", "JUMP"]

def source : Instruction → String
  | .inbox => "INBOX"
  | .outbox => "OUTBOX"
  | .jump label => "JUMP " ++ label

def ofWords? : List String → Option (Instruction × List String)
  | "INBOX" :: rest => some (.inbox, rest)
  | "OUTBOX" :: rest => some (.outbox, rest)
  | "JUMP" :: label :: rest => some (.jump label, rest)
  | _ => none

/-- Reads an instruction, or gives the token that is not expected: the first word after a complete
instruction, or else the whole line. -/
def parse (line : String) : Except String Instruction :=
  match ofWords? (Text.words line) with
  | some (instruction, []) => .ok instruction
  | some (_, extra :: _) => .error extra
  | none => .error line

end Instruction

end Mailroom
