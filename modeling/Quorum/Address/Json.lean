import Quorum.Address.Map
import Quorum.Address.Set
import Quorum.Json.Decode
import Quorum.Json.Value
import Quorum.Payload
import Quorum.Time.Reader

/-!
# JSON forms of simple values

Addresses, payloads and time stamps are strings; sets of addresses are arrays, and tables are
objects whose names are addresses.
-/

namespace Quorum

open Json

/-! ### Writing -/

def Address.toJson (a : Address) : Value := .text a.render

def Amount.toJson (a : Amount) : Value := .natural a.units

def Time.Instant.toJson (i : Time.Instant) : Value := .text i.render

def Payload.toJson (data : List UInt8) : Value := .text (Payload.render data)

/-- The members in increasing order. -/
def AddressSet.toJson (s : AddressSet) : Value := .array (s.toList.map Address.toJson)

/-- The entries in the order of their addresses. -/
def AddressMap.toJson {α : Type} (f : α → Value) (m : AddressMap α) : Value :=
  .object (m.entries.map fun e => (e.1.render, f e.2))

/-! ### Reading -/

def Address.decode : Decoder Address :=
  parsed Address.parse Address.Error.message

def Payload.decode : Decoder (List UInt8) :=
  parsed Payload.parse Hex.Error.message

def Time.Instant.decode : Decoder Time.Instant :=
  parsedAs "an RFC 3339 formatted date and time string" Time.Instant.parse Time.Error.message

/-- An address that is the name of a member. -/
def Address.decodeName (name : String) : Except Problem Address :=
  match Address.parse name with
  | .ok a => .ok a
  | .error e => refuse e.message

def AddressSet.decode : Decoder AddressSet :=
  fun t => (list Address.decode t).map AddressSet.ofList

/-- A table; of two members that name one address the later counts. -/
def AddressMap.decode {α : Type} (d : Decoder α) : Decoder (AddressMap α) :=
  fun t => (Json.entries Address.decodeName d t).map AddressMap.ofList

end Quorum
