import Mailroom.Data.Calendar
import Mailroom.Text.Code
import Mailroom.Text.Numeral

/-!
# Scalars that cannot be converted

A scalar of a level file may have the right form for its place and still stand for no value: a
numeral with too many digits, a date in a thirteenth month, a text under a tag for which it means
nothing. Such a fault is none of the level's. It is reported under its own name, and whoever
prepares for bad levels has not prepared for it.

Two of the faults are not about a scalar that is written badly, but about how deep it lies. A value
is `endless` if it goes on inwards beyond the reach of the reader, and `unquotable` if it was read
and a message that has to quote it finds no end. They are listed with the others, because they go
the same way: past everyone who expects a fault of the level.

The messages are those of the operations that fail, and they show the text that was converted, not
the text that was written.
-/

set_option autoImplicit false

namespace Mailroom

inductive ScalarError where
  /-- A decimal integer with more digits than are converted. -/
  | digitLimit (digits : Nat)
  | notInteger (base : Nat) (text : List Text.Code)
  | notReal (text : List Text.Code)
  /-- A number in base sixty with so many digits that the first of them is worth more than any
  double. -/
  | realOverflow
  | notBoolean (text : List Text.Code)
  | emptyNumber
  | notTimestamp
  | mappingAsTimestamp
  /-- A value that goes on inwards beyond the reach of whoever reads it: one that is nested too
  deep, or a mapping that stands for its own value. -/
  | endless
  /-- A value that is nested too deep for a message to quote it. -/
  | unquotable
  | calendar (e : CalendarError)
  /-- An escape beyond the last code point. -/
  | codePoint
  /-- An escape beyond the range of a machine word. -/
  | codeOverflow
  deriving DecidableEq, Repr

def ScalarError.ofNumeral (base : Nat) (text : List Text.Code) : Text.NumeralError → ScalarError
  | .malformed => .notInteger base text
  | .tooLong digits => .digitLimit digits

def ScalarError.message : ScalarError → String
  | .digitLimit digits =>
    s!"Exceeds the limit ({Text.digitLimit} digits) for integer string conversion: " ++
      s!"value has {digits} digits; use sys.set_int_max_str_digits() to increase the limit"
  | .notInteger base text =>
    s!"invalid literal for int() with base {base}: " ++
      String.ofList ((Text.Code.quoted text).take 200)
  | .notReal text => "could not convert string to float: " ++ String.ofList (Text.Code.quoted text)
  | .realOverflow => "int too large to convert to float"
  | .notBoolean text => String.ofList (Text.Code.quoted text)
  | .emptyNumber => "string index out of range"
  | .notTimestamp => "'NoneType' object has no attribute 'groupdict'"
  | .mappingAsTimestamp => "expected string or bytes-like object, got 'list'"
  | .endless => "maximum recursion depth exceeded"
  | .unquotable => "maximum recursion depth exceeded while getting the repr of an object"
  | .calendar e => e.message
  | .codePoint => "chr() arg not in range(0x110000)"
  | .codeOverflow => "Python int too large to convert to C int"

end Mailroom
