import Registrar.Api.Router

/-! # Calls

Everything that can be asked of a registrar over a store, and what comes of it: HTTP requests, the
two services directly, and the two operations of the store directly.
-/

namespace Registrar
set_option autoImplicit false

inductive Call where
  | http (r : Http.Request)
  | register (r : Registration)
  | login (c : Credentials)
  | insert (a : Account)
  | find (username : String)

inductive Outcome where
  | response (r : Http.Response)
  | account (r : Except AccountError Unit)
  | stored (r : Except StoreError Unit)
  | found (r : Except StoreError (List Account))
  | rows (rows : List Account)
  | done

/-- A salt is at hand for the case that a password has to be hashed. -/
def Call.run {σ : Type} [Store σ] (rules : Rules) (salt : Password.Salt) (c : Call) (s : σ) :
    Reply σ Outcome :=
  match c with
  | http r => (Api.respond rules salt r s).map .response
  | register r => (Registrar.register rules salt r s).map .account
  | login c => (Registrar.login rules c s).map .account
  | insert a => (Store.insert a s).map .stored
  | find u => (Store.find u s).map .found

end Registrar
