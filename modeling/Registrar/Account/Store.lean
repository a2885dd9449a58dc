import Registrar.Database.Statement
import Registrar.Log

/-! # Stores

A store keeps accounts. Both of its operations give, beside their value, the events to log, the
statements sent to a database, and the store as it is afterwards.
-/

namespace Registrar
set_option autoImplicit false

structure Reply (σ α : Type) where
  value : α
  records : List Record
  sent : List Database.Statement
  state : σ

/-- A value that costs nothing and leaves the store as it was. -/
def Reply.silent {σ α : Type} (value : α) (state : σ) : Reply σ α := ⟨value, [], [], state⟩

def Reply.map {σ α β : Type} (f : α → β) (r : Reply σ α) : Reply σ β :=
  { r with value := f r.value }

class Store (σ : Type) where
  /-- Add an account, unless another one has its username or its email. -/
  insert : Account → σ → Reply σ (Except StoreError Unit)
  /-- The accounts with exactly this username. -/
  find : String → σ → Reply σ (Except StoreError (List Account))

end Registrar
