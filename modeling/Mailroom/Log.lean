import Mailroom.Cell
import Mailroom.Machine.Run
import Mailroom.Program.Load

/-!
# The log

Two parts of the system write to the log, the loader and the machine, each under a name of its own
and always at the lowest level. A line of the log has the level, the name and the message. The
loader says how much it has loaded, and the machine says what it does, one line for each event.

Since nobody writes at another level, the level that a user chooses only decides whether there is a
log. The levels have names all the same, and a name that is none is a fault of the command line, but
not one of the settings.
-/

set_option autoImplicit false

namespace Mailroom

/-- The levels of the log, from the most talkative on. -/
inductive LogLevel where
  | debug
  | info
  | warning
  | error
  | critical
  deriving DecidableEq, Repr

namespace LogLevel

def all : List LogLevel := [.debug, .info, .warning, .error, .critical]

def name : LogLevel → String
  | .debug => "DEBUG"
  | .info => "INFO"
  | .warning => "WARNING"
  | .error => "ERROR"
  | .critical => "CRITICAL"

def ofName? (s : String) : Option LogLevel := all.find? (·.name == s)

end LogLevel

def debugLine (writer message : String) : String := "DEBUG " ++ writer ++ ": " ++ message

def Program.loadedLine (p : Program) : String :=
  debugLine "hrmachine.solution" s!"loaded {p.size} instructions, {p.labels.length} labels"

def Machine.Event.logLine (e : Machine.Event Cell) : String :=
  debugLine "hrmachine.program" (e.shown Cell.shown)

end Mailroom
