/-!
# Tags

A tag says what a node stands for. A scalar without a tag has the one that its text suggests: `12`
is an integer, `no` is a truth value, and what looks like nothing else is text.

The forms are tried in a fixed order, but they exclude each other, so the order does not matter.
They are narrower than what the conversions take: an integer has ASCII digits, a real number has a
point, the words for truth values have three spellings each, and a date without a time of day has
two digits for its month and two for its day.

The form of a date is needed twice, to suggest the tag and to convert the text, so it is taken apart
here (`stamp?`). Nothing about the calendar is looked at yet: there may be a thirteenth month.
-/

set_option autoImplicit false

namespace Mailroom.Yaml

inductive Tag where
  | null
  | bool
  | int
  | float
  | binary
  | timestamp
  | str
  | seq
  | map
  | set
  | omap
  | pairs
  /-- A key under which other mappings are merged. -/
  | merge
  /-- A key that holds the value of a mapping that stands for a scalar. -/
  | value
  | other (name : String)
  deriving DecidableEq, Repr

namespace Tag

def common : String := "tag:yaml.org,2002:"

def names : List (String × Tag) :=
  [("null", .null), ("bool", .bool), ("int", .int), ("float", .float), ("binary", .binary),
   ("timestamp", .timestamp), ("str", .str), ("seq", .seq), ("map", .map), ("set", .set),
   ("omap", .omap), ("pairs", .pairs), ("merge", .merge), ("value", .value)]

def ofName (name : String) : Tag :=
  match names.find? fun (n, _) => common ++ n == name with
  | some (_, tag) => tag
  | none => .other name

/-! ## The tag that a text suggests -/

def isDigit (c : Char) : Bool := '0' ≤ c && c ≤ '9'

def isSpacedDigit (c : Char) : Bool := isDigit c || c == '_'

def isSpacedOctal (c : Char) : Bool := ('0' ≤ c && c ≤ '7') || c == '_'

def isSpacedHex (c : Char) : Bool :=
  isSpacedDigit c || ('a' ≤ c && c ≤ 'f') || ('A' ≤ c && c ≤ 'F')

def unsigned : List Char → List Char
  | '-' :: cs => cs
  | '+' :: cs => cs
  | cs => cs

/-- The parts of a number in base sixty after the first: each a colon and one or two digits below
sixty. There is what follows them, if there is at least one. -/
def afterSixties : List Char → Option (List Char)
  | ':' :: a :: b :: rest =>
    if isDigit a && isDigit b then
      if a ≤ '5' then
        match rest with
        | ':' :: _ => afterSixties rest
        | _ => some rest
      else none
    else if isDigit a then
      if b == ':' then afterSixties (b :: rest) else some (b :: rest)
    else none
  | [':', a] => if isDigit a then some [] else none
  | _ => none

def isExponent : List Char → Bool
  | [] => true
  | e :: sign :: digits =>
    (e == 'e' || e == 'E') && (sign == '-' || sign == '+') && !digits.isEmpty && digits.all isDigit
  | _ => false

def truthWords : List String :=
  ["yes", "Yes", "YES", "no", "No", "NO", "true", "True", "TRUE", "false", "False", "FALSE",
   "on", "On", "ON", "off", "Off", "OFF"]

def isFloat (cs : List Char) : Bool :=
  let digits := unsigned cs
  let fraction := fun (rest : List Char) => isExponent (rest.dropWhile isSpacedDigit)
  let special := String.ofList digits
  match cs with
  | '.' :: c :: rest =>
    (isDigit c && fraction rest) ||
      [".nan", ".NaN", ".NAN", ".inf", ".Inf", ".INF"].contains special
  | _ =>
    if [".inf", ".Inf", ".INF"].contains special then true
    else if (digits.head?.map isDigit).getD false then
      match digits.dropWhile isSpacedDigit with
      | '.' :: rest => fraction rest
      | rest =>
        match afterSixties rest with
        | some ('.' :: rest) => rest.all isSpacedDigit
        | _ => false
    else false

def isInt (cs : List Char) : Bool :=
  match unsigned cs with
  | ['0'] => true
  | '0' :: 'b' :: rest => !rest.isEmpty && rest.all fun c => c == '0' || c == '1' || c == '_'
  | '0' :: 'x' :: rest => !rest.isEmpty && rest.all isSpacedHex
  | '0' :: rest => rest.all isSpacedOctal
  | c :: rest =>
    isDigit c && (match rest.dropWhile isSpacedDigit with
      | [] => true
      | rest => afterSixties rest == some [])
  | [] => false

/-! ## Dates -/

structure Stamp where
  year : List Char
  month : List Char
  day : List Char
  /-- Hour, minute and second. -/
  time : Option (List Char × List Char × List Char) := none
  fraction : List Char := []
  /-- The offset from universal time: whether it is negative, its hours and minutes. -/
  offset : Option (Bool × List Char × List Char) := none

def oneOrTwoDigits? : List Char → Option (List Char × List Char)
  | a :: b :: rest =>
    if isDigit a then some (if isDigit b then ([a, b], rest) else ([a], b :: rest)) else none
  | [a] => if isDigit a then some ([a], []) else none
  | [] => none

def someDigits? (n : Nat) (cs : List Char) : Option (List Char × List Char) :=
  if (cs.take n).length == n && (cs.take n).all isDigit then some (cs.take n, cs.drop n) else none

def after? (c : Char) : List Char → Option (List Char)
  | d :: rest => if d == c then some rest else none
  | [] => none

def isInlineBlank (c : Char) : Bool := c == ' ' || c == '\t'

def offset? (cs : List Char) : Option (Option (Bool × List Char × List Char)) :=
  match cs.dropWhile isInlineBlank with
  | [] => if cs.isEmpty then some none else none
  | ['Z'] => some (some (false, [], []))
  | sign :: rest =>
    if sign == '-' || sign == '+' then
      match oneOrTwoDigits? rest with
      | some (hours, []) => some (some (sign == '-', hours, []))
      | some (hours, ':' :: rest) =>
        match someDigits? 2 rest with
        | some (minutes, []) => some (some (sign == '-', hours, minutes))
        | _ => none
      | _ => none
    else none

def time? (date : Stamp) (cs : List Char) : Option Stamp := do
  let (hour, cs) ← oneOrTwoDigits? cs
  let (minute, cs) ← someDigits? 2 (← after? ':' cs)
  let (second, cs) ← someDigits? 2 (← after? ':' cs)
  let (fraction, cs) := match cs with
    | '.' :: rest => (rest.takeWhile isDigit, rest.dropWhile isDigit)
    | cs => ([], cs)
  let offset ← offset? cs
  return { date with time := some (hour, minute, second), fraction := fraction, offset := offset }

def stamp? (cs : List Char) : Option Stamp := do
  let (year, cs) ← someDigits? 4 cs
  let (month, cs) ← oneOrTwoDigits? (← after? '-' cs)
  let (day, cs) ← oneOrTwoDigits? (← after? '-' cs)
  let date : Stamp := { year := year, month := month, day := day }
  match cs with
  | [] => return date
  | 'T' :: rest => time? date rest
  | 't' :: rest => time? date rest
  | c :: rest => if isInlineBlank c then time? date (rest.dropWhile isInlineBlank) else none

/-- The form of a date. Without a time of day, month and day have two digits. -/
def isTimestamp (cs : List Char) : Bool :=
  match stamp? cs with
  | some s => s.time.isSome || (s.month.length == 2 && s.day.length == 2)
  | none => false

def dropFinalLineFeed (cs : List Char) : List Char :=
  if cs.getLast? == some '\n' then cs.dropLast else cs

/-- The tag that a text suggests. A line feed at its end does not count. The marks of a tag, of an
anchor and of an alias suggest a tag that no value has. -/
def ofText (text : String) : Tag :=
  let cs := dropFinalLineFeed text.toList
  let word := String.ofList cs
  if text.isEmpty then .null
  else if truthWords.contains word then .bool
  else if isFloat cs then .float
  else if isInt cs then .int
  else if word = "<<" then .merge
  else if ["~", "null", "Null", "NULL"].contains word then .null
  else if isTimestamp cs then .timestamp
  else if word = "=" then .value
  else if ["!", "&", "*"].contains word then .other (common ++ "yaml")
  else .str

end Tag

end Mailroom.Yaml
