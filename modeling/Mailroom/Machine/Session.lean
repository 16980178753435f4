import Mailroom.Level.Check
import Mailroom.Report.Trial

/-!
# Sessions

A session keeps one machine with one program and puts it to several tasks: runs on lists of values,
runs on a stream that they share, trials of test cases, and resets. A run on the stream takes its
values where the one before stopped reading. Every run resets the machine before it starts, so the
state that a task leaves behind is seen between the tasks and nowhere else.

Values and test cases come as data and are converted before anything is run. The conversion of
values stops at the first that is none, while the test cases are checked one by one up to the first
that has issues. If there is such a fault, the task is not begun: the machine stays as it was, and
nothing is written to the log.
-/

set_option autoImplicit false

namespace Mailroom.Machine

/-- A machine with its program, and the part of the stream that has not been read. -/
structure Session where
  program : Program
  limit : Nat
  state : State Cell
  stream : List Cell

def Session.start (program : Program) (limit : Nat) (stream : List Cell) : Session :=
  ⟨program, limit, .initial, stream⟩

inductive Task where
  | run (values : List Data)
  | runStream
  | reset
  | tests (cases : List Data)

inductive Reply where
  | finished (r : Result Cell)
  | faulted (fault : Fault)
  | wasReset
  | tried (trials : List Trial)
  | notConvertible (e : Cell.ConversionError)
  | invalidCase (issues : List Schema.Issue)

structure Done where
  session : Session
  reply : Reply
  events : List (Event Cell)

namespace Session

def replyOf (stopped : Stopped Cell) : Reply :=
  match stopped.result with
  | .ok r => .finished r
  | .error fault => .faulted fault

def runOn (s : Session) (values : List Cell) : Done :=
  let stopped := rerun s.program s.limit s.state values
  ⟨{ s with state := stopped.left }, replyOf stopped, stopped.events⟩

def runOnStream (s : Session) : Done :=
  let stopped := rerun s.program s.limit s.state s.stream
  ⟨{ s with state := stopped.left, stream := stopped.rest }, replyOf stopped, stopped.events⟩

def tryCases (s : Session) (cases : List TestCase) : Done :=
  let judged := judge s.program s.limit s.state cases
  { session := { s with state := judged.state }
    reply :=
      match judged.trials with
      | .ok trials => .tried trials
      | .error fault => .faulted fault
    events := judged.events }

/-- Does a task. Values and test cases are converted first; a fault there leaves the machine
alone. -/
def perform (s : Session) : Task → Done
  | .run values =>
    match Cell.listOfData values with
    | .ok cells => s.runOn cells
    | .error e => ⟨s, .notConvertible e, []⟩
  | .runStream => s.runOnStream
  | .reset => ⟨{ s with state := s.state.reset }, .wasReset, []⟩
  | .tests cases =>
    match cases.mapM TestCase.check with
    | .ok tests => s.tryCases tests
    | .error issues => ⟨s, .invalidCase issues, []⟩

def performAll (s : Session) : List Task → List Done
  | [] => []
  | t :: ts =>
    let done := s.perform t
    done :: performAll done.session ts

end Session

end Mailroom.Machine
