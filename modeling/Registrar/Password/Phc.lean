import Registrar.Text.Base64
import Registrar.Text.Numeral

/-! # Password hash strings

The text `$algorithm$v=version$name=value,…$salt$hash`, in which everything after the algorithm
may be missing from the right, and the version and the parameters may be missing on their own.

* `Phc`: the parts of such a text.
* `Phc.parse?`: the parts, field by field from the left.
* `Phc.render`: the text.
-/

namespace Registrar.Password
open Text
set_option autoImplicit false

structure Phc where
  algorithm : List Char
  version : Option Nat
  parameters : List (List Char × List Char)
  salt : Option (List Char)
  hash : Option (List UInt8)
  deriving DecidableEq, Repr

namespace Phc

/-! ## Alphabets -/

def isNameChar (c : Char) : Bool := ('a' ≤ c && c ≤ 'z') || Numeral.isDigit c || c == '-'

def isValueChar (c : Char) : Bool :=
  ('a' ≤ c && c ≤ 'z') || ('A' ≤ c && c ≤ 'Z') || Numeral.isDigit c ||
    c == '/' || c == '+' || c == '.' || c == '-'

/-- The name of an algorithm or a parameter: 1 to 32 characters. -/
def isName (cs : List Char) : Bool := 1 ≤ cs.length && cs.length ≤ 32 && cs.all isNameChar

/-- The value of a parameter: at most 64 characters. -/
def isValue (cs : List Char) : Bool := cs.length ≤ 64 && cs.all isValueChar

/-- The text of a salt: 4 to 64 characters. -/
def isSalt (cs : List Char) : Bool := 4 ≤ cs.length && cs.length ≤ 64 && cs.all isValueChar

/-- The largest number that a parameter or a version may give. -/
def largest : Nat := 0xFFFFFFFF

def number? (cs : List Char) : Option Nat :=
  if isValue cs then Numeral.canonical? largest cs else none

/-! ## Fields -/

/-- A version, if the first field is `v=…` without a comma. -/
def takeVersion : List (List Char) → Option (Option Nat × List (List Char))
  | ('v' :: '=' :: cs) :: fields =>
    if ',' ∈ cs then some (none, ('v' :: '=' :: cs) :: fields)
    else (number? cs).map fun n => (some n, fields)
  | fields => some (none, fields)

def parameter? (cs : List Char) : Option (List Char × List Char) :=
  match cs.splitOn '=' with
  | [name, value] => if isName name && isValue value then some (name, value) else none
  | _ => none

def parameters? (cs : List Char) : Option (List (List Char × List Char)) :=
  if cs.length ≤ 127 then (cs.splitOn ',').mapM parameter? else none

/-- The parameters, if the first field has an equals sign. -/
def takeParameters :
    List (List Char) → Option (List (List Char × List Char) × List (List Char))
  | f :: fields =>
    if '=' ∈ f then (parameters? f).map fun ps => (ps, fields) else some ([], f :: fields)
  | [] => some ([], [])

def takeSalt : List (List Char) → Option (Option (List Char) × List (List Char))
  | f :: fields => if isSalt f then some (some f, fields) else none
  | [] => some (none, [])

/-- A hash of 10 to 64 bytes. -/
def hash? (cs : List Char) : Option (List UInt8) :=
  (Base64.decode? cs).filter fun bs => 10 ≤ bs.length && bs.length ≤ 64

def takeHash : List (List Char) → Option (Option (List UInt8) × List (List Char))
  | f :: fields => (hash? f).map fun bs => (some bs, fields)
  | [] => some (none, [])

/-- The parts that the fields after the algorithm give; no field may be left over. -/
def ofFields (algorithm : List Char) (fields : List (List Char)) : Option Phc := do
  let (version, fields) ← takeVersion fields
  let (parameters, fields) ← takeParameters fields
  let (salt, fields) ← takeSalt fields
  let (hash, fields) ← takeHash fields
  if fields = [] then some ⟨algorithm, version, parameters, salt, hash⟩ else none

def parse? (s : String) : Option Phc :=
  match s.toList.splitOn '$' with
  | [] :: algorithm :: fields => if isName algorithm then ofFields algorithm fields else none
  | _ => none

/-! ## Text -/

/-- The fields after the algorithm, those that are present. -/
def fields (h : Phc) : List (List Char) :=
  (h.version.map fun n => 'v' :: '=' :: Numeral.digits n).toList ++
    (if h.parameters = [] then []
     else [[','].intercalate (h.parameters.map fun p => p.1 ++ '=' :: p.2)]) ++
    h.salt.toList ++ (h.hash.map Base64.encode).toList

def render (h : Phc) : String :=
  String.ofList ((h.algorithm :: h.fields).flatMap fun f => '$' :: f)

end Phc

end Registrar.Password
