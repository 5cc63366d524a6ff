import Quorum.Proofs.Server.Run
import Quorum.Server.Respond

/-!
# What requests ask for

What a request asks for can be read off before a server is asked: it has a reply of its own, it asks
for a look at a resource, or it asks for a task. `exchange_eq_meet` says that a server does just that.
-/

namespace Quorum.Server

open Http (Request Reply)
open Time (Instant)

/-- What a request asks for. -/
inductive Intent where
  /-- Nothing: the reply is the same whatever the server has. -/
  | hear (reply : Reply)
  | look (r : Resource) (withBody : Bool)
  | act (task : Task)

/-- What the body of a request asks a server to do, or the reply that tells what is wrong with the
request, if the resource takes a body. -/
def asked? (q : Request) : Resource → Option (Except Reply Task)
  | .deposit => some do
    let b ← readBody DepositBody.decode q
    .ok (.deposit b.source b.amount)
  | .transactions => some do
    let r ← readBody Signed.decode q
    .ok (.order (.submit r))
  | .confirm part => some do
    let index ← readIndex part
    let r ← readBody Signed.decode q
    .ok (.order (.confirm index r))
  | .revoke part => some do
    let index ← readIndex part
    let r ← readBody Signed.decode q
    .ok (.order (.revoke index r))
  | _ => none

/-- The reply to a request whose method the resource does not take. -/
def notAllowed (r : Resource) : Reply := ⟨405, [("allow", allowed r)], ""⟩

/-- What a request asks for. -/
def intent (q : Request) : Intent :=
  let resource := Resource.ofPath q.path
  match resource, q.method with
  | _, "OPTIONS" => .hear (permissions resource)
  | some r, "GET" => .look r true
  | some r, "HEAD" => .look r false
  | some r, "POST" =>
    match asked? q r with
    | some (.ok task) => .act task
    | some (.error reply) => .hear reply
    | none => .hear (notAllowed r)
  | some r, _ => .hear (notAllowed r)
  | none, method =>
    let reply := Reply.error 404 ("Not Found: " ++ q.path)
    .hear (if method = "HEAD" then reply.withoutBody else reply)

/-- What a reader is shown of a resource. -/
def shown (w : Wallet) (r : Resource) (withBody : Bool) : Reply :=
  match read? w r with
  | some reply => if withBody then reply else reply.withoutBody
  | none => notAllowed r

variable (s : Server) (fault : Option Fault) (now : Instant) (d : Disk)

/-- The exchange of a request that asks for a task. -/
def carryOut : Task → Exchange
  | .deposit source amount => (s.deposit fault now d source amount).exchange fun _ => balanceView
  | .order (.submit r) => (s.submit fault now d r).exchange submissionView
  | .order (.confirm index r) => (s.confirm fault now d index r).exchange fun l outcome =>
      outcomeView l outcome.index outcome.executed outcome.confirmations
  | .order (.revoke index r) => (s.revoke fault now d index r).exchange fun l left =>
      outcomeView l index.toNat false left

/-- The exchange of a request that asks for something. -/
def meet : Intent → Exchange
  | .hear reply => s.reject d reply
  | .look r withBody => s.reject d (shown s.wallet r withBody)
  | .act task => s.carryOut fault now d task

variable {s fault now d}

lemma write?_eq (q : Request) (r : Resource) :
    s.write? fault now d q r = (asked? q r).map fun asked =>
      match asked with
      | .error reply => s.reject d reply
      | .ok task => s.carryOut fault now d task := by
  cases r with
  | deposit =>
    simp only [write?, asked?]
    cases readBody DepositBody.decode q <;> rfl
  | transactions =>
    simp only [write?, asked?]
    cases readBody (Signed.decode (β := SubmitBody)) q <;> rfl
  | confirm part =>
    simp only [write?, asked?]
    cases readIndex part with
    | error reply => rfl
    | ok index => cases readBody (Signed.decode (β := IndexBody)) q <;> rfl
  | revoke part =>
    simp only [write?, asked?]
    cases readIndex part with
    | error reply => rfl
    | ok index => cases readBody (Signed.decode (β := IndexBody)) q <;> rfl
  | _ => rfl

/-- A server does what a request asks for. -/
theorem exchange_eq_meet (q : Request) :
    s.exchange fault now d q = s.meet fault now d (intent q) := by
  unfold exchange intent
  generalize Resource.ofPath q.path = resource
  by_cases options : q.method = "OPTIONS"
  · simp only [options, meet]
  cases resource with
  | none => simp only [meet]
  | some r =>
    simp only [serve?, write?_eq]
    by_cases get : q.method = "GET"
    · simp only [get, meet, shown]
      cases read? s.wallet r <;> rfl
    by_cases head : q.method = "HEAD"
    · simp only [head, meet, shown]
      cases read? s.wallet r <;> rfl
    by_cases post : q.method = "POST"
    · simp only [post]
      cases asked? q r with
      | none => rfl
      | some asked => cases asked <;> rfl
    · simp only [meet]
      rfl

/-! ### What requests change -/

/-- The task that something asked for is, if it is one. -/
def Intent.task? : Intent → Option Task
  | .act task => some task
  | _ => none

/-- The server and the disk after something was asked for. -/
def attend (s : Server) (fault : Option Fault) (now : Instant) (d : Disk) (intent : Intent) :
    Server × Disk :=
  (intent.task?.map (s.serve fault now d)).getD (s, d)

lemma carryOut_serves (task : Task) :
    ((s.carryOut fault now d task).server, (s.carryOut fault now d task).disk)
      = s.serve fault now d task := by
  cases task with
  | deposit => rfl
  | order o => cases o <;> rfl

/-- A request changes what the task changes that it asks for, and nothing if it asks for none. -/
theorem respond_attends (q : Request) :
    ((s.respond fault now d q).server, (s.respond fault now d q).disk)
      = s.attend fault now d (intent q) := by
  simp only [respond, exchange_eq_meet]
  cases intent q with
  | hear reply => rfl
  | look r withBody => rfl
  | act task => exact carryOut_serves task

end Quorum.Server
