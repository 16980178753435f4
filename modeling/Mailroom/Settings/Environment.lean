import Mailroom.Settings.EnvFile

/-!
# The environment

The environment gives variables their values. A file of variables adds to it and never changes what
is already there. A value in such a file may refer to variables by `$` and a name in braces, with
what is to stand for a missing variable after `:-`. The environment comes first, then what stands
further up in the file.

Declarations are collected first and set afterwards, in the order of their first statements, with
the values of their last. So a variable that is declared twice has one value only in the end, though
a statement between the two sees the earlier one.

Not every name and value can be set: a null character cannot stand in either, nor an equals sign in
the name. A variable that is there already is passed over before that is looked at.
-/

set_option autoImplicit false

namespace Mailroom

abbrev Environment := List (String × String)

abbrev Declarations := List (String × Option String)

namespace Environment

/-! ## References in values -/

/-- A reference to a variable: its name and what stands for it if there is no such variable. -/
structure Reference where
  name : String
  fallback : String

def reference? (cs : List Char) : Option (Reference × List Char) :=
  let isNameChar := fun (c : Char) => c != '\x7d' && c != ':'
  let name := String.ofList (cs.takeWhile isNameChar)
  match cs.dropWhile isNameChar with
  | '\x7d' :: rest => some (⟨name, ""⟩, rest)
  | ':' :: '-' :: rest =>
    match rest.dropWhile (· != '\x7d') with
    | _ :: after => some (⟨name, String.ofList (rest.takeWhile (· != '\x7d'))⟩, after)
    | [] => none
  | _ => none

def substitute (resolve : Reference → String) : Nat → List Char → List Char
  | 0, cs => cs
  | _, [] => []
  | fuel + 1, '$' :: '\x7b' :: cs =>
    match reference? cs with
    | some (r, rest) => (resolve r).toList ++ substitute resolve fuel rest
    | none => '$' :: substitute resolve fuel ('\x7b' :: cs)
  | fuel + 1, c :: cs => c :: substitute resolve fuel cs

def mentioned : List Char → List String
  | '$' :: '\x7b' :: cs => ((reference? cs).map (·.1.name)).toList ++ mentioned ('\x7b' :: cs)
  | _ :: cs => mentioned cs
  | [] => []

/-- What a reference stands for. A variable that is declared without a value stands for nothing. -/
def resolve (env : Environment) (declared : Declarations) (r : Reference) : String :=
  match env.lookup r.name with
  | some value => value
  | none =>
    match declared.lookup r.name with
    | some value? => value?.getD ""
    | none => r.fallback

/-! ## Files of variables -/

/-- Declares a variable. One that is declared already keeps its place. -/
def declare (name : String) (value? : Option String) : Declarations → Declarations
  | [] => [(name, value?)]
  | (n, v) :: rest =>
    if n = name then (n, value?) :: rest else (n, v) :: declare name value? rest

def addStatement (env : Environment) (declared : Declarations) :
    EnvFile.Statement → Declarations
  | .binding name none => declare name none declared
  | .binding name (some value) =>
    let cs := substitute (resolve env declared) (value.length + 1) value.toList
    declare name (some (String.ofList cs)) declared
  | .blank => declared
  | .unparsable _ => declared

def involved : EnvFile.Statement → List String
  | .binding name value? => name :: (value?.map fun v => mentioned v.toList).getD []
  | _ => []

def declarations (env : Environment) (file : List EnvFile.Statement) : Declarations :=
  file.foldl (addStatement env) []

inductive Fault where
  | illegalName
  | nullCharacter
  deriving DecidableEq, Repr

def Fault.message : Fault → String
  | .illegalName => "illegal environment variable name"
  | .nullCharacter => "embedded null byte"

/-- Sets a variable that is not there yet. -/
def add (env : Environment) (name : String) (value? : Option String) :
    Except Fault Environment :=
  match env.lookup name, value? with
  | some _, _ => .ok env
  | none, none => .ok env
  | none, some value =>
    if name.toList.contains '\x00' || value.toList.contains '\x00' then .error .nullCharacter
    else if name.toList.contains '=' then .error .illegalName
    else .ok (env ++ [(name, value)])

def addFile (env : Environment) (file : List EnvFile.Statement) : Except Fault Environment :=
  (env.declarations file).foldlM (fun env (name, value?) => env.add name value?) env

end Environment

end Mailroom
