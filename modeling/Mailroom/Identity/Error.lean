/-!
# Identity errors

What can be wrong with a value that is meant to name something.
-/

namespace Mailroom

/-- Why a value names nothing. -/
inductive IdentityError where
  /-- A value failed a check of its own. -/
  | validation (reason : String)
  /-- An identifier could not be read. -/
  | identifier (reason : String)
  /-- A group key has the wrong shape. -/
  | groupKey (reason : String)
  deriving DecidableEq

/-- The wording of the failure. -/
def IdentityError.message : IdentityError → String
  | .validation reason => "validation failed: " ++ reason
  | .identifier reason => "invalid identifier: " ++ reason
  | .groupKey reason => "invalid group key: " ++ reason

end Mailroom
