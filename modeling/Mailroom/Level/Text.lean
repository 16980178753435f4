import Mailroom.Level.Check
import Mailroom.Level.Error
import Mailroom.Text.Line
import Mailroom.Text.Name

/-!
# Levels as text

The text of a level is cut into sections by headings. A section has settings, `name = number`, and
cases, two bracketed lists of numbers with an arrow between. Of the sections only two count:
`goals`, for its first size and its first speed, and `tests`, for its cases. Everything else is
read, and must be well formed, but has no effect.

The lines are read in order and the first fault decides. The numbers of the cases are only checked
at the end, and only those of the tests.

A number can have too many digits to be converted. In a case that is a fault of the line, because
whatever is wrong with a number there is caught. In a setting nothing is caught, so the same number
is a fault of a scalar and ends the reading (`readStatement`).
-/

set_option autoImplicit false

namespace Mailroom.Level

open Text

/-- What a line of a level says, before its numbers are read. -/
inductive LineForm where
  | heading (name : String)
  | setting (key : String) (digits : List Char)
  | case (input output : List Char)
  deriving DecidableEq, Repr

/-- A line of the form `name = digits`, with blanks allowed around the sign. -/
def setting? (cs : List Char) : Option (List Char × List Char) :=
  let key := cs.takeWhile isLetter
  match (cs.dropWhile isLetter).dropWhile isBlank with
  | '=' :: rest =>
    let digits := rest.dropWhile isBlank
    if !key.isEmpty && !digits.isEmpty && digits.all isDigit then some (key, digits) else none
  | _ => none

def insideBrackets (c : Char) : Bool := c != '[' && c != ']'

def bracketed? : List Char → Option (List Char × List Char)
  | '[' :: cs =>
    match cs.dropWhile insideBrackets with
    | ']' :: rest => some (cs.takeWhile insideBrackets, rest)
    | _ => none
  | _ => none

/-- A line of the form `[..] -> [..]`, with blanks allowed around the arrow. -/
def case? (cs : List Char) : Option (List Char × List Char) :=
  match bracketed? cs with
  | none => none
  | some (input, rest) =>
    match rest.dropWhile isBlank with
    | '-' :: '>' :: rest =>
      match bracketed? (rest.dropWhile isBlank) with
      | some (output, []) => some (input, output)
      | _ => none
    | _ => none

def lineForm? (line : String) : Option LineForm :=
  match heading? line with
  | some name => some (.heading name)
  | none =>
    match setting? line.toList with
    | some (key, digits) => some (.setting (String.ofList key) digits)
    | none => (case? line.toList).map fun (input, output) => .case input output

inductive Statement where
  | setting (key : String) (value : Int)
  | case (input output : List Int)
  deriving DecidableEq, Repr

structure Section where
  name : String
  statements : List Statement
  deriving DecidableEq, Repr

/-- Numbers between blanks, up to the first that is not one. -/
def readNumbers (line : Nat) (cs : List Char) : Except LevelFailure (List Int) :=
  (wordChars cs).mapM fun word =>
    match readInteger 10 word with
    | .ok n => .ok n
    | .error _ => .error (.level (.atLine line (.invalidNumber (String.ofList word))))

def readStatement (line : Nat) (text : String) : Except LevelFailure Statement :=
  match lineForm? text with
  | some (.setting key digits) =>
    match readInteger 10 digits with
    | .ok n => .ok (.setting key n)
    -- digits have the form of a number, so this is about how many there are
    | .error e => .error (.scalar (.ofNumeral 10 (digits.map .char) e))
  | some (.case input output) => do
    let input ← readNumbers line input
    let output ← readNumbers line output
    return .case input output
  | _ => .error (.level (.atLine line (.unexpected text)))

/-- Adds a line, which is not blank, to the sections read so far; the section that is open is the
last. -/
def addLine (sections : List Section) (l : SourceLine) : Except LevelFailure (List Section) :=
  match heading? l.text with
  | some name =>
    if sections.any (·.name == name) then
      .error (.level (.atLine l.number (.duplicateSection name)))
    else .ok (sections ++ [⟨name, []⟩])
  | none =>
    match sections.getLast? with
    | none => .error (.level (.atLine l.number (.outsideSection l.text)))
    | some current =>
      match readStatement l.number l.text with
      | .ok s =>
        .ok (sections.dropLast ++ [{ current with statements := current.statements ++ [s] }])
      | .error e => .error e

def readSections (text : String) : Except LevelFailure (List Section) :=
  (sourceLines text).foldlM addLine []

def sectionNamed? (sections : List Section) (name : String) : Option (List Statement) :=
  (sections.find? (·.name == name)).map (·.statements)

def firstSetting? (name : String) : List Statement → Option Int
  | [] => none
  | .setting key value :: rest => if key = name then some value else firstSetting? name rest
  | .case _ _ :: rest => firstSetting? name rest

def caseData : List Statement → List Data
  | [] => []
  | .setting _ _ :: rest => caseData rest
  | .case input output :: rest =>
    .map [("input", .list (input.map .int)), ("output", .list (output.map .int))] ::
      caseData rest

/-- A check whose issues are the level's fault, unless one of them cannot be put in words. -/
def checked {α : Type} (title : String) : Schema.Checked α → Except LevelFailure α
  | .ok a => .ok a
  | .error issues =>
    if issues.any (·.complaint == .tooDeep) then .error (.scalar .unquotable)
    else .error (.level (.invalid title issues))

def ofSections (sections : List Section) : Except LevelFailure Level :=
  match sectionNamed? sections "goals" with
  | none => .error (.level .missingGoals)
  | some goals =>
    match firstSetting? "size" goals, firstSetting? "speed" goals with
    | some size, some speed => do
      let goals ← checked Goals.title
        (Goals.check (Data.map [("size", .int size), ("speed", .int speed)]))
      let cases := caseData ((sectionNamed? sections "tests").getD [])
      let tests ← cases.mapM fun d => checked TestCase.title (TestCase.check d)
      return ⟨goals, tests⟩
    | _, _ => .error (.level .incompleteGoals)

def ofText (text : String) : Except LevelFailure Level :=
  match readSections text with
  | .ok sections => ofSections sections
  | .error e => .error e

end Mailroom.Level
