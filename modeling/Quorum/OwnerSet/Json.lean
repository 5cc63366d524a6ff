import Quorum.Address.Json
import Quorum.OwnerSet

/-!
# JSON form of owner sets

An object of the owners, in the order in which they were named, and the threshold. Only valid owner
sets are read.
-/

namespace Quorum.OwnerSet

open Json

def toJson (s : OwnerSet) : Value :=
  .object [("owners", .array (s.owners.map Address.toJson)), ("required", .natural s.threshold)]

/-- The fields of an owner set, as far as they were read. -/
structure Draft where
  owners : Option (List Address) := none
  required : Option UInt64 := none

def shape : Shape := { what := "struct OwnerSetRecord", fields := ["owners", "required"] }

def Draft.set (index : Nat) (t : Tree) (draft : Draft) : Except Problem Draft :=
  match index with
  | 0 => (list Address.decode t).map fun v => { draft with owners := some v }
  | _ => (Json.size t).map fun v => { draft with required := some v }

def Draft.finish (draft : Draft) : Except Problem OwnerSet := do
  let owners ← need "owners" draft.owners
  let required ← need "required" draft.required
  match create owners required with
  | .ok s => .ok s
  | .error e => refuse e.message

def decode : Decoder OwnerSet :=
  Json.record shape {} Draft.set Draft.finish

end Quorum.OwnerSet
