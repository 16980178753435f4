import Mailroom.Command.Options
import Mailroom.Text.Digit

/-!
# The words of a command line

Before anything is done with it, every word of a command line is sorted: it is a value, an option, a
word that looks like an option and is none, or the mark `--` after which everything is a value. All
words are sorted before the first one is read, so an ambiguous word is reported even behind a
mistake of another kind.

An option may be cut short as long as it stays the only one with that beginning, and may have a
value attached to it: after an equals sign, or right behind the letter of a short option. A word
that starts with a dash and is no option counts as a value in two cases, if it is a negative number
or if it has a space in it.

The words are those of one reader. The words behind the command are sorted twice, once by the
program, for which most of them are unknown, and once by the command.
-/

set_option autoImplicit false

namespace Mailroom.Command

inductive WordKind where
  | value
  | mark
  /-- An option as it is spelled in full, and what is attached to it in the same word. -/
  | option (flag : Flag) (spelling : String) (attached : Option String)
  | unknown
  deriving DecidableEq, Repr

structure Word where
  text : String
  kind : WordKind
  deriving DecidableEq, Repr

/-- A word with more than one meaning, and the options that it could be. -/
structure Ambiguity where
  word : String
  candidates : List String
  deriving DecidableEq, Repr

namespace Word

def splitEquals? (cs : List Char) : Option (String × String) :=
  match cs.dropWhile (· != '=') with
  | _ :: rest => some (String.ofList (cs.takeWhile (· != '=')), String.ofList rest)
  | [] => none

/-- A number with a minus sign: digits, or a point with digits after it. A line feed at its end does
not count. -/
def isNegativeNumber (cs : List Char) : Bool :=
  let cs := if cs.getLast? == some '\n' then cs.dropLast else cs
  match cs with
  | '-' :: digits =>
    match digits.dropWhile Text.isDigit with
    | [] => !digits.isEmpty
    | '.' :: rest => !rest.isEmpty && rest.all Text.isDigit
    | _ => false
  | _ => false

/-- The options that a word with two dashes may be short for. -/
def longCandidates (r : Reader) (cs : List Char) : List (Flag × String × Option String) :=
  let start := cs.takeWhile (· != '=')
  let attached := (splitEquals? cs).map (·.2)
  (r.spellings.filter fun (s, _) => start.isPrefixOf s.toList).map fun (s, f) => (f, s, attached)

/-- The options that a word with one dash may start with, the rest of the word being attached. -/
def shortCandidates (r : Reader) (cs : List Char) : List (Flag × String × Option String) :=
  let start := String.ofList (cs.take 2)
  (r.spellings.filter fun (s, _) => s == start).map fun (s, f) =>
    (f, s, some (String.ofList (cs.drop 2)))

def candidates (r : Reader) (cs : List Char) : List (Flag × String × Option String) :=
  match cs with
  | '-' :: '-' :: _ => longCandidates r cs
  | _ => shortCandidates r cs

/-- The option that a word is exactly, perhaps with a value after an equals sign. -/
def spelled? (r : Reader) (word : String) : Option WordKind :=
  match r.spellings.lookup word with
  | some f => some (.option f word none)
  | none =>
    match splitEquals? word.toList with
    | some (spelling, text) =>
      (r.spellings.lookup spelling).map fun f => .option f spelling (some text)
    | none => none

def sortDashed (r : Reader) (word : String) : Except Ambiguity WordKind :=
  match spelled? r word with
  | some s => .ok s
  | none =>
    match candidates r word.toList with
    | [(f, spelling, attached)] => .ok (.option f spelling attached)
    | [] =>
      -- no option of any reader is spelled like a number, so numbers stay values
      if isNegativeNumber word.toList || word.toList.contains ' ' then .ok .value
      else .ok .unknown
    | several => .error ⟨word, several.map (·.2.1)⟩

def kindOf (r : Reader) (word : String) : Except Ambiguity WordKind :=
  match word.toList with
  | '-' :: _ :: _ => sortDashed r word
  | _ => .ok .value

def sortAll (r : Reader) : List String → Except Ambiguity (List Word)
  | [] => .ok []
  | word :: rest =>
    if word = "--" then .ok (⟨word, .mark⟩ :: rest.map fun w => ⟨w, .value⟩)
    else do
      let kind ← kindOf r word
      return ⟨word, kind⟩ :: (← sortAll r rest)

end Word

end Mailroom.Command
