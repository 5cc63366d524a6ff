import Mathlib.Data.List.ReduceOption
import Quorum.Proofs.Server.Alike
import Quorum.Proofs.Server.Freshness
import Quorum.Proofs.Wallet.RoundTrip

/-!
# Restarts

A server may be stopped and started again from its data directory between any two requests. Nobody
learns of it, as long as its saves succeed: all replies and the final wallet are those of a server
that is never stopped.
-/

namespace Quorum.Server

open Http (Request Reply)
open Ledger (Invariant)
open List (Forall₂)
open Time (Instant)

/-! ### Conversations -/

/-- A request at its time, on a device that may fail. -/
structure Turn where
  fault : Option Fault
  now : Instant
  request : Request

/-- The replies to some requests, with the server and the disk after them. -/
structure Conversation where
  replies : List Reply
  server : Server
  disk : Disk

/-- The conversation with one more reply at its beginning. -/
def Conversation.cons (reply : Reply) (c : Conversation) : Conversation :=
  { c with replies := reply :: c.replies }

/-- A server replies to requests, one after the other. -/
def converse (s : Server) (d : Disk) : List Turn → Conversation
  | [] => ⟨[], s, d⟩
  | t :: ts =>
    let out := s.respond t.fault t.now d t.request
    (out.server.converse out.disk ts).cons out.reply

lemma server_converse_cons (s : Server) (d : Disk) (t : Turn) (ts : List Turn) :
    (s.converse d (t :: ts)).server
      = ((s.respond t.fault t.now d t.request).server.converse
          (s.respond t.fault t.now d t.request).disk ts).server := rfl

/-- A server replies to requests, and at some points, each of them a `none`, it is stopped and started
again from its data directory. -/
def live (s : Server) (d : Disk) : List (Option Turn) → Except Storage.Error Conversation
  | [] => .ok ⟨[], s, d⟩
  | none :: ts => do
    let restarted ← start s.storage d
    restarted.live d ts
  | some t :: ts => do
    let out := s.respond t.fault t.now d t.request
    let later ← out.server.live out.disk ts
    .ok (later.cons out.reply)

/-- All saves succeed. A server saves when it takes up a task. -/
def Saves (s : Server) (d : Disk) : List (Option Turn) → Prop
  | [] => True
  | none :: ts => ∀ restarted, start s.storage d = .ok restarted → restarted.Saves d ts
  | some t :: ts =>
    let out := s.respond t.fault t.now d t.request
    (∀ task ∈ (intent t.request).task?, task.Taken s.wallet →
      (s.storage.saveWith t.fault out.server.wallet d).1 = .ok ()) ∧
    out.server.Saves out.disk ts

variable {s s' : Server} {fault : Option Fault} {now : Instant} {d d' : Disk} {q : Request}

/-! ### What a request keeps -/

lemma server_respond :
    (s.respond fault now d q).server = (s.attend fault now d (intent q)).1 :=
  congrArg Prod.fst (respond_attends q)

lemma disk_respond : (s.respond fault now d q).disk = (s.attend fault now d (intent q)).2 :=
  congrArg Prod.snd (respond_attends q)

/-- A request leaves a server as it is or as a task leaves it. -/
lemma attend_cases (motive : Server × Disk → Prop) (idle : motive (s, d))
    (serves : ∀ task ∈ (intent q).task?, motive (s.serve fault now d task)) :
    motive (s.attend fault now d (intent q)) := by
  unfold attend
  cases asked : (intent q).task? with
  | none => exact idle
  | some task => exact serves task asked

/-- What operations keep true of a ledger, requests keep true of it. -/
lemma Invariant.respond {p : Ledger → Prop} (hp : Invariant p) (start : p s.wallet.ledger) :
    p (s.respond fault now d q).server.wallet.ledger := by
  rw [server_respond]
  exact attend_cases (fun out => p out.1.wallet.ledger) start fun _ _ => Invariant.serve hp start

lemma bare_serve {task : Task} (h : s.wallet.treasury.Bare) :
    (s.serve fault now d task).1.wallet.treasury.Bare := by
  have serves := Serves.of_serve s fault now d task
  generalize s.serve fault now d task = out at serves ⊢
  cases serves with
  | idle => exact h
  | acts => exact Wallet.bare_apply h

/-- A request registers no code. -/
lemma bare_respond (h : s.wallet.treasury.Bare) :
    (s.respond fault now d q).server.wallet.treasury.Bare := by
  rw [server_respond]
  exact attend_cases (fun out => out.1.wallet.treasury.Bare) h fun _ _ => bare_serve h

/-- If its save succeeds, the disk holds what the server would save. -/
lemma Kept.respond (kept : Kept s d)
    (saved : ∀ task ∈ (intent q).task?, task.Taken s.wallet →
      (s.storage.saveWith fault (s.respond fault now d q).server.wallet d).1 = .ok ()) :
    Kept (s.respond fault now d q).server (s.respond fault now d q).disk := by
  rw [server_respond] at saved ⊢
  rw [disk_respond]
  unfold attend at saved ⊢
  cases asked : (intent q).task? with
  | none => exact kept
  | some task =>
    rw [asked] at saved
    exact kept.serve (saved task rfl)

/-- A server whose disk holds its wallet is started again as it is. -/
lemma Kept.start_eq_self (kept : Kept s d) (bare : s.wallet.treasury.Bare)
    (held : s.wallet.ledger.Held) : start s.storage d = .ok s := by
  rw [kept.start_eq_ok held.transactions held.events, Wallet.stored_eq_iff.mpr bare]

lemma held_of_converse {ts : List Turn} (h : (s.converse d ts).server.wallet.ledger.Held) :
    s.wallet.ledger.Held := by
  induction ts generalizing s d with
  | nil => exact h
  | cons t ts ih =>
    -- a ledger that is too large now is so in the end
    by_contra large
    exact Invariant.respond Ledger.invariant_not_held large (ih h)

/-! ### The same clock -/

/-- Whenever it is stopped, the server goes on as if it had not been. -/
lemma live_eq_converse {ts : List (Option Turn)} (kept : Kept s d) (bare : s.wallet.treasury.Bare)
    (saved : s.Saves d ts) (held : (s.converse d ts.reduceOption).server.wallet.ledger.Held) :
    s.live d ts = .ok (s.converse d ts.reduceOption) := by
  -- a stop finds the wallet on the disk, and nothing of it is missing there
  induction ts generalizing s d with
  | nil => rfl
  | cons t ts ih =>
    cases t with
    | none =>
      rw [List.reduceOption_cons_of_none] at held ⊢
      have restarts := kept.start_eq_self bare (held_of_converse held)
      simp only [live, restarts]
      exact ih kept bare (saved s restarts) held
    | some t =>
      rw [List.reduceOption_cons_of_some] at held ⊢
      obtain ⟨saved, later⟩ := saved
      have goes_on := ih (kept.respond saved) (bare_respond bare) later held
      simp only [live, goes_on]
      rfl

/-! ### Different clocks -/

/-- The same replies and wallets, up to time stamps that stand for each other. -/
structure Conversation.Alike (same : Instant → Instant → Prop) (c c' : Conversation) : Prop where
  replies : Forall₂ (Reply.Alike same) c.replies c'.replies
  wallet : c.server.wallet.Alike same c'.server.wallet

/-- The same requests lead to alike conversations of alike servers. -/
lemma alike_converse {same : Instant → Instant → Prop} {ts ts' : List Turn}
    (h : s.wallet.Alike same s'.wallet)
    (turns : Forall₂ (fun t t' => t.request = t'.request ∧ same t.now t'.now) ts ts') :
    (s.converse d ts).Alike same (s'.converse d' ts') := by
  induction turns generalizing s s' d d' with
  | nil => exact ⟨.nil, h⟩
  | @cons t t' ts ts' turn _ ih =>
    obtain ⟨request_eq, now_same⟩ := turn
    have replied : (s.respond t.fault t.now d t.request).Alike same
        (s'.respond t'.fault t'.now d' t'.request) := by
      rw [request_eq]
      exact alike_respond h now_same t'.request
    exact ⟨.cons replied.reply (ih replied.wallet).replies, (ih replied.wallet).wallet⟩

/-- Two time stamps stand for each other if they are the same, or those of the same turn. -/
def Together (ts ts' : List Turn) (i i' : Instant) : Prop :=
  i = i' ∨ ∃ t t', (t, t') ∈ ts.zip ts' ∧ t.now = i ∧ t'.now = i'

lemma forall₂_together {ts ts' : List Turn}
    (requests : ts'.map (·.request) = ts.map (·.request)) :
    Forall₂ (fun t t' => t.request = t'.request ∧ Together ts ts' t.now t'.now) ts ts' := by
  have mapped : Forall₂ (· = ·) (ts.map (·.request)) (ts'.map (·.request)) := by
    rw [List.forall₂_eq_eq_eq, requests]
  rw [List.forall₂_map_left_iff, List.forall₂_map_right_iff, List.forall₂_iff_zip] at mapped
  obtain ⟨length_eq, paired⟩ := mapped
  refine List.forall₂_iff_zip.mpr ⟨length_eq, fun {t t'} zipped => ?_⟩
  exact ⟨paired zipped, .inr ⟨t, t', zipped, rfl, rfl⟩⟩

/-- A server that is started from a data directory replies to all requests, and ends up with its
wallet and its disk, as if it was never stopped, however often it is stopped and started again. With
another clock, and on other disks, replies and wallet differ at most in time stamps of the same
turn. -/
theorem restarts_unnoticed {storage : Storage} (tidy : d.Tidy) (started : start storage d = .ok s)
    {ts : List (Option Turn)} (saved : s.Saves d ts)
    (held : (s.converse d ts.reduceOption).server.wallet.ledger.Held) :
    s.live d ts = .ok (s.converse d ts.reduceOption) ∧
    ∀ (others : List Turn) (d' : Disk),
      others.map (·.request) = ts.reduceOption.map (·.request) →
      (s.converse d ts.reduceOption).Alike (Together ts.reduceOption others)
        (s.converse d' others) := by
  constructor
  · obtain ⟨_, loaded⟩ := exists_of_start started
    obtain ⟨text, _, read⟩ := Storage.exists_of_load loaded
    have bare := Wallet.stored_eq_iff.mp (Wallet.storable_of_ofText read).2
    exact live_eq_converse (kept_of_start tidy started) bare saved held
  · intro others d' requests
    exact alike_converse (.refl (fun i => .inl rfl) s.wallet) (forall₂_together requests)

/-! ### A deposit between restarts -/

/-- A deposit of five units. -/
def depositRequest : Request where
  method := "POST"
  target := "/api/deposit"
  headers := [("content-type", "application/json")]
  body := (Json.Value.object [("from", signatory.toJson),
    ("amount", Amount.toJson ⟨5, by decide⟩)]).compact

lemma readBody_depositRequest :
    readBody DepositBody.decode depositRequest = .ok ⟨signatory, ⟨5, by decide⟩⟩ := by
  have says_json : saysJson depositRequest = true := by decide
  have decoded : DepositBody.decode (Json.Value.object [("from", signatory.toJson),
      ("amount", Amount.toJson ⟨5, by decide⟩)]).tree = .ok ⟨signatory, ⟨5, by decide⟩⟩ := by
    refine (Json.record_tree_eq_ok_iff rfl (by decide)).mpr
      ⟨⟨some signatory, some ⟨5, by decide⟩⟩, ?_, rfl⟩
    simp [Json.fill, DepositBody.Draft.set, Address.decode_toJson, Amount.decode_toJson]
  have read : Json.decodeText DepositBody.decode depositRequest.body
      = .ok ⟨signatory, ⟨5, by decide⟩⟩ :=
    (Json.decodeText_compact DepositBody.decode _).trans decoded
  rw [readBody, if_pos says_json, read]

lemma intent_depositRequest : intent depositRequest = .act (.deposit signatory ⟨5, by decide⟩) := by
  have path : Resource.ofPath depositRequest.path = some .deposit := by decide
  have post : depositRequest.method = "POST" := rfl
  have asked : asked? depositRequest .deposit = some (.ok (.deposit signatory ⟨5, by decide⟩)) := by
    rw [asked?, readBody_depositRequest]
    rfl
  simp only [intent, path, post, asked]

/-- A look at the log. -/
def lookRequest : Request where
  method := "GET"
  target := "/api/events"
  headers := []
  body := ""

lemma intent_lookRequest : intent lookRequest = .look .events true := rfl

/-- A deposit and a look at the log, each after a restart. -/
def restless : List (Option Turn) :=
  [none, some ⟨none, .epoch, depositRequest⟩, none, some ⟨none, .epoch, lookRequest⟩]

/-- The same requests a day later, without restarts. -/
def steady : List Turn :=
  restless.reduceOption.map fun t => { t with now := ⟨⟨⟨1970, 1, 2⟩, 0, 0, 0, 0⟩, by decide⟩ }

lemma saves_restless : newServer.Saves newDisk restless := by
  intro restarted started
  rw [start_newDisk] at started
  cases started
  refine ⟨fun _ _ _ => saveWith_newDisk _, fun restarted started => ⟨?_, trivial⟩⟩
  rw [intent_lookRequest]
  nofun

lemma server_restless : (newServer.converse newDisk restless.reduceOption).server
    = { newServer with wallet := newServer.wallet.deposit .epoch signatory ⟨5, by decide⟩ } := by
  have deposited : (newServer.respond none .epoch newDisk depositRequest).server
      = { newServer with wallet := newServer.wallet.deposit .epoch signatory ⟨5, by decide⟩ } := by
    rw [server_respond, intent_depositRequest]
    rfl
  have looked (s : Server) (d : Disk) : (s.respond none .epoch d lookRequest).server = s := by
    rw [server_respond, intent_lookRequest]
    rfl
  have turns : restless.reduceOption
      = [⟨none, .epoch, depositRequest⟩, ⟨none, .epoch, lookRequest⟩] := rfl
  rw [turns, server_converse_cons, server_converse_cons, looked, deposited]
  rfl

/-- The deposit is there after all restarts, and the log shows what it shows without them, up to the
time of the deposit. -/
theorem restless_unnoticed : newDisk.Tidy ∧ start newServer.storage newDisk = .ok newServer ∧
    newServer.Saves newDisk restless ∧
    ∃ c, newServer.live newDisk restless = .ok c ∧
      c.server.wallet = newServer.wallet.deposit .epoch signatory ⟨5, by decide⟩ ∧
      c.Alike (Together restless.reduceOption steady) (newServer.converse newDisk steady) := by
  have tidy : newDisk.Tidy := by simp [Disk.Tidy, newDisk]
  have held : (newServer.converse newDisk restless.reduceOption).server.wallet.ledger.Held := by
    rw [server_restless]
    exact ⟨by decide, by decide⟩
  obtain ⟨lives, alike⟩ := restarts_unnoticed tidy start_newDisk saves_restless held
  exact ⟨tidy, start_newDisk, saves_restless, _, lives, congrArg wallet server_restless,
    alike steady newDisk rfl⟩

end Quorum.Server
