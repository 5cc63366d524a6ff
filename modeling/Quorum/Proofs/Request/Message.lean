import Quorum.Proofs.Address.Json
import Quorum.Server

/-!
# What a signature covers

The bytes that are hashed for a signature are the word for the action, a colon, and the body in one
line. There is no colon in such a word, and what is written of a body is read as that body again. So
the bytes tell the action and all of the body, whatever text the sender has chosen as payload.
-/

namespace Quorum

open Json

/-! ### Bytes of a text -/

namespace Text

/-- Texts with the same bytes are the same. -/
lemma utf8_inj {cs ds : List Char} : utf8 cs = utf8 ds ↔ cs = ds := by
  refine ⟨fun same => ?_, congrArg utf8⟩
  have encoded : cs.utf8Encode = ds.utf8Encode := congrArg List.toByteArray same
  have decoded := congrArg ByteArray.utf8Decode? encoded
  rw [List.utf8Decode?_utf8Encode, List.utf8Decode?_utf8Encode, Option.some.injEq] at decoded
  exact congrArg Array.toList decoded

end Text

namespace Sha256

variable {tag tag' message message' : List UInt8}

/-- A tagged message falls apart at its first colon, if there is none in the tag. -/
lemma taggedMessage_inj (plain : 0x3a ∉ tag) (plain' : 0x3a ∉ tag') :
    taggedMessage tag message = taggedMessage tag' message' ↔ tag = tag' ∧ message = message' := by
  constructor
  · intro same
    induction tag generalizing tag' with
    | nil =>
      cases tag' with
      | nil => exact ⟨rfl, (List.cons.inj same).2⟩
      | cons b tag' =>
        obtain ⟨rfl, _⟩ := List.cons.inj same
        exact absurd List.mem_cons_self plain'
    | cons a tag ih =>
      cases tag' with
      | nil =>
        obtain ⟨rfl, _⟩ := List.cons.inj same
        exact absurd List.mem_cons_self plain
      | cons b tag' =>
        obtain ⟨rfl, rest⟩ := List.cons.inj same
        obtain ⟨rfl, rfl⟩ :=
          ih (List.not_mem_of_not_mem_cons plain) (List.not_mem_of_not_mem_cons plain') rest
        exact ⟨rfl, rfl⟩
  · rintro ⟨rfl, rfl⟩
    rfl

/-- Two different messages have the same digest. -/
def Collide (message message' : List UInt8) : Prop :=
  message ≠ message' ∧ digest message = digest message'

end Sha256

/-! ### Bodies -/

/-- A proposal is read from its fields, with any text for the recipient that names him. -/
lemma SubmitBody.decode_members {b : SubmitBody} {destination : String}
    (named : Address.parse destination = .ok b.destination) :
    RequestBody.decode (Value.object [("nonce", .natural b.nonce.toNat),
      ("destination", .text destination), ("value", b.value.toJson), ("data", .text b.data)]).tree
        = .ok b := by
  have nonce : word (Value.natural b.nonce.toNat).tree = .ok b.nonce := wordAs_toNat "u64" b.nonce
  have recipient : Address.decode (Value.text destination).tree = .ok b.destination :=
    parsed_tree "a string" named
  refine (record_tree_eq_ok_iff rfl (by decide)).mpr
    ⟨⟨some b.nonce, some b.destination, some b.value, some b.data⟩, ?_, rfl⟩
  simp [fill, Draft.set, nonce, recipient, Amount.decode_toJson]

lemma SubmitBody.decode_toJson (b : SubmitBody) :
    RequestBody.decode (RequestBody.toJson b).tree = .ok b :=
  decode_members b.destination.parse_render

lemma IndexBody.decode_toJson (b : IndexBody) :
    RequestBody.decode (RequestBody.toJson b).tree = .ok b := by
  have nonce : word (Value.natural b.nonce.toNat).tree = .ok b.nonce := wordAs_toNat "u64" b.nonce
  have index : size (Value.natural b.index.toNat).tree = .ok b.index :=
    wordAs_toNat "usize" b.index
  refine (record_tree_eq_ok_iff rfl (by decide)).mpr ⟨⟨some b.nonce, some b.index⟩, ?_, rfl⟩
  simp [fill, Draft.set, nonce, index]

/-- Bodies that are written alike are the same, if what is written of a body is read as that body. -/
lemma RequestBody.compactChars_inj {β : Type} [RequestBody β]
    (read_back : ∀ b : β, decode (toJson b).tree = .ok b) {b b' : β} :
    (toJson b).compactChars = (toJson b').compactChars ↔ b = b' := by
  constructor
  · intro same
    have texts : (toJson b).compact = (toJson b').compact := congrArg String.ofList same
    have read := decodeText_compact (decode (β := β)) (toJson b)
    rw [texts, decodeText_compact, read_back, read_back] at read
    exact (Except.ok.inj read).symm
  · rintro rfl
    rfl

/-! ### Messages -/

namespace Server

/-- What an owner can sign: an action, with a body that says what it is about. -/
inductive Message where
  | submit (body : SubmitBody)
  | confirm (body : IndexBody)
  | revoke (body : IndexBody)
deriving DecidableEq

namespace Message

def action : Message → Action
  | .submit _ => .submit
  | .confirm _ => .confirm
  | .revoke _ => .revoke

/-- The body in one line. -/
def line : Message → List Char
  | .submit body => (RequestBody.toJson body).compactChars
  | .confirm body => (RequestBody.toJson body).compactChars
  | .revoke body => (RequestBody.toJson body).compactChars

/-- The bytes that a signature for the message covers. -/
def signedBytes : Message → List UInt8
  | .submit body => Signed.signedBytes Action.submit.tag body
  | .confirm body => Signed.signedBytes Action.confirm.tag body
  | .revoke body => Signed.signedBytes Action.revoke.tag body

/-- The digest that is signed. -/
def digest : Message → List UInt8
  | .submit body => Signed.digest Action.submit.tag body
  | .confirm body => Signed.digest Action.confirm.tag body
  | .revoke body => Signed.digest Action.revoke.tag body

variable {m m' : Message}

lemma signedBytes_eq (m : Message) :
    m.signedBytes = Sha256.taggedMessage (Text.bytes m.action.tag) (Text.utf8 m.line) := by
  cases m <;> rfl

lemma digest_eq (m : Message) : m.digest = Sha256.digest m.signedBytes := by
  cases m <;> rfl

lemma bytes_tag_inj {action action' : Action} :
    Text.bytes action.tag = Text.bytes action'.tag ↔ action = action' := by
  cases action <;> cases action' <;> decide

lemma plain_tag (action : Action) : 0x3a ∉ Text.bytes action.tag := by
  cases action <;> decide

/-- A message is told by its action and its line. -/
lemma eq_iff : m = m' ↔ m.action = m'.action ∧ m.line = m'.line := by
  constructor
  · rintro rfl
    exact ⟨rfl, rfl⟩
  · rintro ⟨action, line⟩
    cases m with
    | submit body =>
      cases m' with
      | submit body' =>
        rw [(RequestBody.compactChars_inj SubmitBody.decode_toJson).mp line]
      | confirm => cases action
      | revoke => cases action
    | confirm body =>
      cases m' with
      | submit => cases action
      | confirm body' =>
        rw [(RequestBody.compactChars_inj IndexBody.decode_toJson).mp line]
      | revoke => cases action
    | revoke body =>
      cases m' with
      | submit => cases action
      | confirm => cases action
      | revoke body' =>
        rw [(RequestBody.compactChars_inj IndexBody.decode_toJson).mp line]

/-- The bytes that a signature covers tell the message, its action as well as each field of its body.
Two messages are signed by the same digest exactly if they are the same, or their bytes collide. -/
theorem signed_bytes_tell_message (m m' : Message) :
    (m.signedBytes = m'.signedBytes ↔ m = m') ∧
      (m.digest = m'.digest ↔ m = m' ∨ Sha256.Collide m.signedBytes m'.signedBytes) := by
  have told : m.signedBytes = m'.signedBytes ↔ m = m' := by
    rw [signedBytes_eq, signedBytes_eq, Sha256.taggedMessage_inj (plain_tag _) (plain_tag _),
      bytes_tag_inj, Text.utf8_inj, ← eq_iff]
  refine ⟨told, ?_⟩
  rw [digest_eq, digest_eq, Sha256.Collide, ← told]
  constructor
  · intro same
    by_cases bytes : m.signedBytes = m'.signedBytes
    · exact .inl bytes
    · exact .inr ⟨bytes, same⟩
  · rintro (bytes | ⟨_, same⟩)
    · rw [bytes]
    · exact same

end Message

end Server

end Quorum
