/-!
# Storage errors
-/

namespace Mailroom

/-- Why the message storage refused. -/
inductive StorageError where
  /-- What was asked for is not there. -/
  | notFound (kind id : String)
  /-- The storage itself is in trouble. -/
  | backend (reason : String)
  deriving DecidableEq

namespace StorageError

/-- The wording of the refusal. -/
def message : StorageError → String
  | .notFound kind id => kind ++ " not found: " ++ id
  | .backend reason => "storage backend failure: " ++ reason

/-- Whether something was merely not there. -/
def isNotFound : StorageError → Bool
  | .notFound _ _ => true
  | .backend _ => false

/-- What a storage answers after a crash. -/
def poisoned : StorageError := .backend "lock poisoned"

end StorageError

end Mailroom
