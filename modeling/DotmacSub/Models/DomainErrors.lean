import Mathlib.Data.Rat.Defs

/-!
# Domain errors

The typed error of `services/domain_errors.py`: a machine code, a message that is safe to show, and
structured details.  An exception of another kind that escapes a service (an integrity error, a
failed assertion) is one of these too, with the class name as its code.
-/

namespace DotmacSub

inductive Detail
  | id (value : ℕ)
  | optionalId (value : Option ℕ)
  | instant (value : ℤ)
  | number (value : ℚ)
  | text (value : String)
deriving DecidableEq

/-- Stable error contract of a public service boundary. -/
structure DomainError where
  code : String
  message : String
  details : List (String × Detail) := []
deriving DecidableEq

namespace DomainError

/-- A database constraint refused a flush. -/
def integrityError (constraint : String) : DomainError :=
  ⟨"IntegrityError", constraint, []⟩

def httpException (statusCode : ℕ) (detail : String) : DomainError :=
  ⟨"HTTPException", detail, [("status_code", .number statusCode)]⟩

/-- A command context without a business idempotency key. -/
def missingIdempotencyKey (owner message : String) : DomainError :=
  ⟨owner ++ ".missing_idempotency_key", message, []⟩

end DomainError

end DotmacSub
