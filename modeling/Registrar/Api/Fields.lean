import Registrar.Account.Basic
import Registrar.Form
import Registrar.Http.Message

/-! # Fields of a request

What a body or a query says about an account.

* `field?`: the value of a named field among pairs; a field that occurs twice is refused.
* `Registration.ofJson?`, `Credentials.ofJson?`: an object with members by name, or an array with
  exactly the fields in order. Members with other names are skipped, whatever their value.
* `Credentials.ofQuery?`: the same from the pairs of a query.

A registration prefers `username` to `name`, a login `name` to `username`.
-/

namespace Registrar
open Text
open Text.Utf8 (Bytes)
set_option autoImplicit false

/-! ## Reading one field -/

/-- A string, or null for a field that is absent. -/
def Json.Value.field? : Json.Value → Option (Option String)
  | .null => some none
  | .string t => t.toString?.map some
  | _ => none

/-- The value of the field with a name, read by `read`; absent if there is none, and refused if
there are two. -/
def field? {β : Type} (read : β → Option (Option String)) (pairs : List (String × β))
    (name : String) : Option (Option String) :=
  match pairs.filter fun p => p.1 == name with
  | [] => some none
  | [p] => read p.2
  | _ => none

/-- The members of an object, if every key is a text. -/
def members? (ms : List (Json.Written × Json.Value)) : Option (List (String × Json.Value)) :=
  ms.mapM fun m => m.1.toString?.map fun k => (k, m.2)

/-- The values of the named fields, in order: from the members of an object by name, from the
items of an array by position. -/
def fields? (names : List String) : Json.Value → Option (List (Option String))
  | .object ms => (members? ms).bind fun ms => names.mapM (field? Json.Value.field? ms)
  | .array vs => if vs.length = names.length then vs.mapM Json.Value.field? else none
  | _ => none

/-! ## Requests -/

def Registration.fieldNames : List String := ["username", "name", "email", "password", "role"]

def Registration.ofFields? : List (Option String) → Option Registration
  | [username, name, email, password, role] => some ⟨username.or name, email, password, role⟩
  | _ => none

def Registration.ofJson? (v : Json.Value) : Option Registration :=
  (fields? fieldNames v).bind ofFields?

def Credentials.fieldNames : List String := ["name", "username", "password", "role"]

def Credentials.ofFields? : List (Option String) → Option Credentials
  | [name, username, password, role] => some ⟨name.or username, password, role⟩
  | _ => none

def Credentials.ofJson? (v : Json.Value) : Option Credentials :=
  (fields? fieldNames v).bind ofFields?

def Credentials.ofQuery? (query : Option String) : Option Credentials :=
  let pairs := Form.pairs (Utf8.encode (query.getD ""))
  (fieldNames.mapM (field? (fun s => some (some s)) pairs)).bind ofFields?

end Registrar
