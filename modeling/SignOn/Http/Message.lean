import SignOn.Http.Headers
import SignOn.Http.Target

/-!
# Requests and answers
-/

namespace SignOn.Http

open SignOn.Text (Bytes)

/-- A request. -/
structure Request where
  method : String := "GET"
  target : Target
  headers : Headers := {}
  body : Bytes := []
deriving DecidableEq, Repr

/-- An answer. -/
structure Response where
  status : Nat
  headers : Headers := {}
  body : Bytes := []
deriving DecidableEq, Repr

end SignOn.Http
