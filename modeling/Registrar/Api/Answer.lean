import Registrar.Account.Error
import Registrar.Http.Message

/-! # Answers

The status and the text with which the outcome of a registration or a login is answered. A failed
registration shows the text of the store's error; a failed login never does.
-/

namespace Registrar.Api
open Http
set_option autoImplicit false

def success (status : Nat) (text : String) : Response := .json status "message" text

def failure (status : Nat) (text : String) : Response := .json status "error" text

def missingFields : Response := failure 400 "All fields are required"

def invalidBody : Response := failure 400 "Invalid JSON body"

def invalidCredentials : Response := failure 401 "Invalid credentials"

def conflict : Response := failure 409 "Username or Email already exists"

def serverError : Response := failure 500 "Server error"

def registered : Response := success 201 "User registered successfully"

def loggedIn : Response := success 200 "Login successful"

def registerFailure : AccountError → Response
  | .missingFields => missingFields
  | .conflict => conflict
  | .invalidCredentials => invalidCredentials
  | .store e => failure 500 e.message
  | .password e => failure 500 e.message

def loginFailure : AccountError → Response
  | .missingFields => missingFields
  | .invalidCredentials => invalidCredentials
  | .conflict | .password _ | .store _ => serverError

def registerAnswer : Except AccountError Unit → Response
  | .ok () => registered
  | .error e => registerFailure e

def loginAnswer : Except AccountError Unit → Response
  | .ok () => loggedIn
  | .error e => loginFailure e

end Registrar.Api
