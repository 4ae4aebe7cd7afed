import Mailroom.Delivery.Transport

/-!
# Classification of results

Every recipient of a call is told apart by its last result: reached, gone from the service, or
skipped because sending failed or nothing was reported.
-/

namespace Mailroom

/-- The recipients of a call by how it went for them. -/
structure Classification where
  completed : List RecipientId := []
  unregistered : List RecipientId := []
  skipped : List RecipientId := []
  deriving DecidableEq

/-- The last status that results give for a recipient. -/
def lastStatus? (results : List SendResult) (id : RecipientId) : Option SendStatus :=
  (results.reverse.find? fun result => result.recipient = id).map SendResult.status

/-- Puts a recipient where its status asks for, in front. -/
def Classification.place (rest : Classification) (id : RecipientId) (status : Option SendStatus) :
    Classification :=
  match status with
  | some .delivered => { rest with completed := id :: rest.completed }
  | some .unregistered => { rest with unregistered := id :: rest.unregistered }
  | _ => { rest with skipped := id :: rest.skipped }

/-- Tells the recipients of a call apart, each list in their order. -/
def classify (destinations : List RecipientId) (results : List SendResult) : Classification :=
  destinations.foldr (fun id rest => rest.place id (lastStatus? results id)) {}

end Mailroom
