import Quorum.Http.MediaType
import Quorum.Http.Message
import Quorum.Server.Resource
import Quorum.Server.View

/-!
# Replies of the server

From a request to its reply: the resource, the method, the index in the path and then the body are
looked at in this order, and the first that is wrong decides. Every reply may be used by any site.
-/

namespace Quorum.Server

open Http (Request Reply)
open Json

/-! ### Reading a request -/

/-- The index that a part of a path stands for. -/
def readIndex (part : String) : Except Reply UInt64 :=
  match Http.percentDecoded? part with
  | none => .error (.text 400 "Invalid URL: Invalid UTF-8 in `index`")
  | some text =>
    match Text.readBounded? UInt64.size text.toList with
    | some n => .ok (UInt64.ofNat n)
    | none => .error (.text 400 ("Invalid URL: Cannot parse `" ++ text ++ "` to a `u64`"))

/-- Whether a request says that its body is JSON. -/
def saysJson (q : Request) : Bool :=
  ((q.header? "content-type").bind Http.MediaType.parse?).any (·.isJson)

/-- The body of a request, or the reply that tells what is wrong with it. -/
def readBody {α : Type} (d : Decoder α) (q : Request) : Except Reply α :=
  if saysJson q then
    match decodeText d q.body with
    | .ok a => .ok a
    | .error .syntactic => .error (.text 400 "Failed to parse the request body as JSON")
    | .error (.content path message) =>
      let place := if path.isEmpty then "" else pathText path ++ ": "
      .error (.text 422 ("Failed to deserialize the JSON body into the target type: " ++ place
        ++ message))
  else .error (.text 415 "Expected request with `Content-Type: application/json`")

/-- A deposit: who sends how much. -/
structure DepositBody where
  source : Address
  amount : Amount
deriving DecidableEq

namespace DepositBody

/-- The fields of a deposit, as far as they were read. -/
structure Draft where
  source : Option Address := none
  amount : Option Amount := none

def shape : Shape := { what := "struct DepositRequest", fields := ["from", "amount"] }

def Draft.set (index : Nat) (t : Tree) (draft : Draft) : Except Problem Draft :=
  match index with
  | 0 => (Address.decode t).map fun v => { draft with source := some v }
  | _ => (Json.amount t).map fun v => { draft with amount := some v }

def Draft.finish (draft : Draft) : Except Problem DepositBody := do
  let source ← need "from" draft.source
  let amount ← need "amount" draft.amount
  .ok ⟨source, amount⟩

def decode : Decoder DepositBody :=
  Json.record shape {} Draft.set Draft.finish

end DepositBody

/-! ### Replies -/

/-- The status of a refusal. -/
def Refusal.status : Refusal → Nat
  | .payload _ => 400
  | .indexMismatch => 400
  | .unauthenticated _ => 401
  | .staleNonce _ => 401
  | .notOwner _ => 403
  | .emptyDeposit => 400
  | .ledger (.notOwner _) => 403
  | .ledger (.invalidIndex _) => 404
  | .ledger (.alreadyConfirmed ..) => 409
  | .ledger (.notConfirmed ..) => 409
  | .ledger (.alreadyExecuted _) => 409
  | .ledger (.executionFailed ..) => 422

def Refusal.reply (r : Refusal) : Reply :=
  .error r.status r.message

/-- The reply to a value or to why there is none. -/
def replyTo {α : Type} (view : α → Value) : Except Refusal α → Reply
  | .ok a => .json 200 (view a)
  | .error e => e.reply

/-- The reply to something asked of the ledger about the transaction that a part of a path names. -/
def replyAbout {α : Type} (part : String) (ask : Nat → Except Ledger.Error α) (view : α → Value) :
    Reply :=
  match readIndex part with
  | .error reply => reply
  | .ok index => replyTo view ((ask index.toNat).mapError .ledger)

/-- The reply to a reader, if the resource can be read. -/
def read? (w : Wallet) : Resource → Option Reply
  | .health => some (.text 200 "OK")
  | .ledger => some (.json 200 (ledgerView w))
  | .events => some (.json 200 (eventsView w.ledger))
  | .transactions =>
    some (.json 200 (.array (w.ledger.transactions.map (transactionView w.ledger))))
  | .pending => some (.json 200 (.array (w.ledger.pending.map (transactionView w.ledger))))
  | .transaction part => some (replyAbout part w.ledger.transaction (transactionView w.ledger))
  | .confirmations part =>
    some (replyAbout part w.ledger.confirmations fun owners =>
      .array (owners.map Address.toJson))
  | .deposit | .confirm _ | .revoke _ => none

/-- A reply, with the server and the disk after it. -/
structure Exchange where
  reply : Reply
  server : Server
  disk : Disk

/-- The exchange that a handled request makes. -/
def Handled.exchange {α : Type} (h : Handled α) (view : Ledger → α → Value) : Exchange :=
  ⟨replyTo (view h.server.wallet.ledger) h.answer, h.server, h.disk⟩

variable (s : Server) (fault : Option Fault) (now : Time.Instant) (d : Disk)

/-- A request that is turned away. -/
def reject (reply : Reply) : Exchange := ⟨reply, s, d⟩

/-- What becomes of a new proposal: the transaction that it led to is shown. -/
def submissionView (l : Ledger) (index : Nat) : Value :=
  .optional (transactionView l) (l.transaction index).toOption

/-- The exchange of a request with a body, if the resource takes one. -/
def write? (q : Request) : Resource → Option Exchange
  | .deposit =>
    match readBody DepositBody.decode q with
    | .error reply => s.reject d reply
    | .ok b => (s.deposit fault now d b.source b.amount).exchange fun _ => balanceView
  | .transactions =>
    match readBody Signed.decode q with
    | .error reply => s.reject d reply
    | .ok r => (s.submit fault now d r).exchange submissionView
  | .confirm part =>
    match readIndex part, readBody Signed.decode q with
    | .error reply, _ => s.reject d reply
    | .ok _, .error reply => s.reject d reply
    | .ok index, .ok r => (s.confirm fault now d index r).exchange fun l outcome =>
      outcomeView l outcome.index outcome.executed outcome.confirmations
  | .revoke part =>
    match readIndex part, readBody Signed.decode q with
    | .error reply, _ => s.reject d reply
    | .ok _, .error reply => s.reject d reply
    | .ok index, .ok r => (s.revoke fault now d index r).exchange fun l left =>
      outcomeView l index.toNat false left
  | _ => none

/-- The exchange of a request about a resource, if the resource takes the method. -/
def serve? (q : Request) (r : Resource) : Option Exchange :=
  match q.method with
  | "GET" => (read? s.wallet r).map (s.reject d)
  | "HEAD" => (read? s.wallet r).map fun reply => s.reject d reply.withoutBody
  | "POST" => s.write? fault now d q r
  | _ => none

/-- The methods that a resource takes, as a header lists them. -/
def allowed (r : Resource) : String :=
  let reads := if r.readable then ["GET", "HEAD"] else []
  let writes := if r.writable then ["POST"] else []
  ",".intercalate (reads ++ writes)

/-- The reply to a question about what is allowed. -/
def permissions (r : Option Resource) : Reply where
  status := 200
  headers := [("access-control-allow-methods", "*"), ("access-control-allow-headers", "*")]
    ++ (r.map fun r => ("allow", allowed r)).toList
  body := ""

/-- The exchange of a request, before any site is allowed to use the reply. -/
def exchange (q : Request) : Exchange :=
  let resource := Resource.ofPath q.path
  match resource, q.method with
  | _, "OPTIONS" => s.reject d (permissions resource)
  | some r, _ => (s.serve? fault now d q r).getD (s.reject d ⟨405, [("allow", allowed r)], ""⟩)
  | none, method =>
    let reply := Reply.error 404 ("Not Found: " ++ q.path)
    s.reject d (if method = "HEAD" then reply.withoutBody else reply)

/-- Replies to a request. -/
def respond (q : Request) : Exchange :=
  let out := s.exchange fault now d q
  { out with reply := out.reply.withHeader "access-control-allow-origin" "*" }

end Quorum.Server
