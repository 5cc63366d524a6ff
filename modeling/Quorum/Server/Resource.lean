import Quorum.Http.Percent

/-!
# Resources

The paths of the server. A transaction is named by the text of its index, which is looked at only
once the request is known to be one that the resource takes.
-/

namespace Quorum.Server

/-- What a request can be about. -/
inductive Resource where
  | health
  | ledger
  | events
  | deposit
  | transactions
  | pending
  | transaction (index : String)
  | confirmations (index : String)
  | confirm (index : String)
  | revoke (index : String)
deriving DecidableEq, Repr

namespace Resource

/-- The resource that some parts of a path, between its slashes, lead to. -/
def ofParts : List String → Option Resource
  | ["", "health"] => some .health
  | ["", "api", "ledger"] => some .ledger
  | ["", "api", "events"] => some .events
  | ["", "api", "deposit"] => some .deposit
  | ["", "api", "transactions"] => some .transactions
  | ["", "api", "transactions", index] =>
    if index = "" then none else if index = "pending" then some .pending
    else some (.transaction index)
  | ["", "api", "transactions", index, "confirmations"] => some (.confirmations index)
  | ["", "api", "transactions", index, "confirm"] => some (.confirm index)
  | ["", "api", "transactions", index, "revoke"] => some (.revoke index)
  | _ => none

/-- The resource of a path; a slash more or less makes another path. -/
def ofPath (path : String) : Option Resource :=
  ofParts ((path.toList.splitOn '/').map String.ofList)

/-- Whether the resource can be read. -/
def readable : Resource → Bool
  | .deposit | .confirm _ | .revoke _ => false
  | _ => true

/-- Whether the resource takes a body. -/
def writable : Resource → Bool
  | .deposit | .transactions | .confirm _ | .revoke _ => true
  | _ => false

end Resource

end Quorum.Server
