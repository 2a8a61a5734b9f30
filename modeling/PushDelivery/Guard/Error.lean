/-!
# Failures of the guard store
-/

namespace PushDelivery

/-- An operation of the guard store failed. -/
inductive GuardError
  | connection (detail : String)
  | unavailable (detail : String)
  | malformedValue (key detail : String)
  deriving DecidableEq, Repr

/-- The wording of a failure. -/
def GuardError.message : GuardError → String
  | .connection detail => "Redis error: " ++ detail
  | .unavailable detail => "Guard store unavailable: " ++ detail
  | .malformedValue key detail => "Malformed value at key '" ++ key ++ "': " ++ detail

end PushDelivery
