import Quorum.Crypto.Key
import Quorum.Disk.Directories
import Quorum.Address.Json

/-!
# Keystores

A directory of owner keys, each in a file named for the address that the key controls.
-/

namespace Quorum

open Json

/-- A private key with an optional label. -/
structure OwnerKey where
  secret : SecretKey
  label : Option String
deriving DecidableEq

/-- What may be known of a key. -/
structure KeyInfo where
  address : Address
  publicKey : PublicKey
  label : Option String
deriving DecidableEq

namespace OwnerKey

def address (k : OwnerKey) : Address :=
  k.secret.address

def info (k : OwnerKey) : KeyInfo :=
  let publicKey := k.secret.publicKey
  ⟨publicKey.address, publicKey, k.label⟩

/-- The content of the key's file. -/
def toJson (k : OwnerKey) : Value :=
  .object [("private_key_hex", .text k.secret.render), ("address", k.address.toJson),
    ("label", .optional .text k.label)]

end OwnerKey

def KeyInfo.toJson (i : KeyInfo) : Value :=
  .object [("address", i.address.toJson), ("public_key", .text i.publicKey.render),
    ("label", .optional .text i.label)]

/-! ### Key files -/

/-- A key file, as it is written; the private key is still text. -/
structure KeyFile where
  privateKey : String
  address : Address
  label : Option String
deriving DecidableEq

namespace KeyFile

/-- The fields of a key file, as far as they were read. -/
structure Draft where
  privateKey : Option String := none
  address : Option Address := none
  label : Option String := none

def shape : Shape where
  what := "struct KeyFile"
  fields := ["private_key_hex", "address", "label"]

def Draft.set (index : Nat) (t : Tree) (draft : Draft) : Except Problem Draft :=
  match index with
  | 0 => (text t).map fun v => { draft with privateKey := some v }
  | 1 => (Address.decode t).map fun v => { draft with address := some v }
  | _ => (optional text t).map fun v => { draft with label := v }

def Draft.finish (draft : Draft) : Except Problem KeyFile := do
  let privateKey ← need "private_key_hex" draft.privateKey
  let address ← need "address" draft.address
  .ok ⟨privateKey, address, draft.label⟩

def decode : Decoder KeyFile :=
  record shape {} Draft.set Draft.finish

end KeyFile

/-! ### Keystores -/

/-- A directory that holds key files. -/
structure Keystore where
  directory : Path
deriving DecidableEq

namespace Keystore

/-- Why a key is not stored or not found. -/
inductive Error where
  | keyNotFound (address : Address)
  | io (cause : IoError)
  | serialization (problem : Problem)
  | crypto (cause : KeyError)
deriving DecidableEq

def Error.message : Error → String
  | .keyNotFound address => s!"No key stored for {address}"
  | .io cause => "IO error: " ++ cause.message
  | .serialization problem => "Serialization error: " ++ problem.message
  | .crypto cause => "Crypto error: " ++ cause.message

/-- The error with its kind and fields. -/
def Error.dump : Error → String
  | .keyNotFound address => "KeyNotFound(" ++ address.dump ++ ")"
  | .io cause => "IoError(" ++ cause.dump ++ ")"
  | .serialization problem =>
    "SerializationError(Error(" ++ Text.quoted problem.message ++ ", line: 0, column: 0))"
  | .crypto cause => "CryptoError(" ++ cause.dump ++ ")"

/-- The path of a file in the directory. -/
def pathOf (s : Keystore) (name : String) : Path :=
  Path.join s.directory name

/-- The path of the key that controls an address. -/
def keyPath (s : Keystore) (a : Address) : Path :=
  s.pathOf (a.render ++ ".json")

/-- Makes the directory. -/
def prepare (s : Keystore) : Attempt Error Unit :=
  (makeDirectories s.directory).mapError .io

/-- Writes a key to its file. -/
def store (s : Keystore) (k : OwnerKey) : Attempt Error OwnerKey := do
  .operate .io (·.write (s.keyPath k.address) k.toJson.pretty)
  return k

/-- Stores a private key given as text. -/
def importKey (s : Keystore) (privateKey : String) (label : Option String) :
    Attempt Error OwnerKey := do
  let secret ← .ofExcept ((SecretKey.parse privateKey).mapError .crypto)
  s.store ⟨secret, label⟩

/-- Stores a new key made of random bits. -/
def createKey (s : Keystore) (entropy : Nat) (label : Option String) : Attempt Error OwnerKey :=
  s.store ⟨.ofEntropy entropy, label⟩

/-- Reads a key from a file; the address written there is not looked at. -/
def readKey (d : Disk) (p : Path) : Except Error OwnerKey := do
  let text ← (d.read p).mapError .io
  let file ← (decodeText KeyFile.decode text).mapError .serialization
  let secret ← (SecretKey.parse file.privateKey).mapError .crypto
  return ⟨secret, file.label⟩

/-- The key whose file is named for an address. -/
def load (s : Keystore) (a : Address) (d : Disk) : Except Error OwnerKey :=
  if d.exists? (s.keyPath a) then readKey d (s.keyPath a) else .error (.keyNotFound a)

/-- All keys that can be read, in address order. -/
def keys (s : Keystore) (d : Disk) : Except Error (List KeyInfo) := do
  let names ← (d.list s.directory).mapError .io
  let infos := (names.filter Path.hasJsonExtension).filterMap fun name =>
    (readKey d (s.pathOf name)).toOption.map OwnerKey.info
  return infos.mergeSort fun i j => !decide (j.address < i.address)

end Keystore

end Quorum
