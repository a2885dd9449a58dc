import Registrar.EnvFile.Lines
import Registrar.EnvFile.Value

/-! # Definitions in an environment file

A file of lines `NAME=value`, with an optional `export`, and comments.

* `Line.parse?`: what a line says, if it is well formed.
* `resolve`: the value of a name that a value mentions.
* `definitions`: what the lines before the first malformed one define, in order.
* `assign`: the variables of a process with definitions added one after the other. A variable that
  has a value keeps it, and a value with NUL, which no process can hold, puts an end to it all.
* `load`: the variables of a process with the definitions of a file added.
-/

namespace Registrar.EnvFile
open Text
set_option autoImplicit false

/-! ## Lines -/

def isNameStart (c : Char) : Bool := c.isAlpha || c == '_'

def isNameChar (c : Char) : Bool := c.isAlphanum || c == '_' || c == '.'

/-- The name at the front of a line, and what follows it and any blanks. -/
def takeName (cs : List Char) : Option (List Char × List Char) :=
  if (cs.head?.map isNameStart).getD false then
    some (cs.takeWhile isNameChar, trimStart (cs.dropWhile isNameChar))
  else none

def takeEquals : List Char → Option (List Char)
  | '=' :: r => some r
  | _ => none

/-- The name that a line assigns to, and what follows its equals sign. The word `export` before
the name is skipped, unless it is the name itself. -/
def takeTarget (cs : List Char) : Option (List Char × List Char) := do
  let (name, rest) ← takeName cs
  if name = "export".toList then
    match takeEquals rest with
    | some rest => some (name, rest)
    | none =>
      let (name, rest) ← takeName rest
      let rest ← takeEquals rest
      some (name, rest)
  else
    let rest ← takeEquals rest
    some (name, rest)

/-- What a line says: nothing, or that a variable has a value. -/
inductive Line where
  | nothing
  | definition (name value : String)

/-- Nothing is left, or only a comment. -/
def isVoid (cs : List Char) : Bool := cs.isEmpty || cs.head? == some '#'

variable (lookup : String → Option String)

def Line.parse? (line : List Char) : Option Line :=
  let cs := trim line
  if isVoid cs then some .nothing
  else do
    let (name, rest) ← takeTarget cs
    let rest := trimStart rest
    let value ← if isVoid rest then some "" else value? lookup rest
    some (.definition (String.ofList name) value)

/-! ## Names in values -/

/-- The value of a name. A name with an equals sign in it goes on into the value: `A=B` names what
follows `B=` in the value of `A`. -/
def resolve (name : String) : Option String :=
  let cs := name.toList
  match cs.dropWhile (· != '=') with
  | [] => lookup name
  | _ :: r =>
    let start := r ++ ['=']
    (lookup (String.ofList (cs.takeWhile (· != '=')))).bind fun value =>
      if start.isPrefixOf value.toList then some (String.ofList (value.toList.drop start.length))
      else none

/-! ## Files -/

/-- The definitions of lines, after those that there are, up to the first malformed line. Values
of variables are taken from `given` first. -/
def loadFrom (given : String → Option String) (defs : List (String × String)) :
    List (Option (List Char)) → List (String × String)
  | [] => defs
  | none :: _ => defs
  | some l :: rest =>
    match Line.parse? (resolve fun n => (given n).or (defs.lookup n)) l with
    | none => defs
    | some .nothing => loadFrom given defs rest
    | some (.definition n v) => loadFrom given (defs ++ [(n, v)]) rest

def definitions (given : String → Option String) (text : String) : List (String × String) :=
  loadFrom given [] (lines text)

/-! ## Variables of the process -/

def withVariable (held : String → Option String) (name value : String) :
    String → Option String :=
  fun n => if n = name then some value else held n

/-- What is held after definitions, made one after the other: a variable that has a value keeps it.
The first definition that is made and has NUL in its value is the one at which it breaks off. -/
def assign (held : String → Option String) :
    List (String × String) → Except (String × String) (String → Option String)
  | [] => .ok held
  | (n, v) :: rest =>
    if (held n).isSome then assign held rest
    else if '\x00' ∈ v.toList then .error (n, v)
    else assign (withVariable held n v) rest

def load (given : String → Option String) (text : String) :
    Except (String × String) (String → Option String) :=
  assign given (definitions given text)

end Registrar.EnvFile
