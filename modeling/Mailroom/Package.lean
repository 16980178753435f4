/-!
# The package

What the library says about itself to those who use it: its version, and the names that it offers.
The names are listed in the order of their characters, so that a name is found in one way only and
two lists of the same names are the same list. They are the names by which users refer to what the
other modules define, and not always the names that it has there.
-/

set_option autoImplicit false

namespace Mailroom.Package

def version : String := "0.1.0"

def publicNames : List String := [
  "CYCLE_LIMIT", "CaseResult", "DuplicateLabelError", "EmptyAccumulatorError", "EndOfInputError",
  "Goals", "HEADER", "Inbox", "IntValue", "InvalidHeaderError", "Jump", "Level", "LevelError",
  "LoadError", "MaxCyclesExceededError", "MissingHeaderError", "Op", "Opcode", "Outbox", "Program",
  "ProgramError", "RunResult", "Solution", "SolutionLoader", "SolutionReport", "SourceReadError",
  "TestCase", "UndefinedLabelError", "UnexpectedTokenError", "Value", "__version__", "all_passed",
  "as_value", "load_level", "load_solution", "load_solution_file", "parse_level_text",
  "parse_level_yaml", "parse_op", "run_tests", "score_solution"]

example : publicNames.Pairwise (· < ·) := by decide

end Mailroom.Package
