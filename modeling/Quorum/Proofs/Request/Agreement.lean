import Mathlib.Tactic.IntervalCases
import Quorum.Proofs.Json.Order
import Quorum.Proofs.Keystore.KeyFile
import Quorum.Proofs.Request.Message

/-!
# A signed request names its signer

A key signs any body for any action. Who checks a request hashes the body anew, from what was read
and not from what was sent. The body that is read is the body that was signed, whatever the white
space, the order of the fields and the case of hexadecimal digits in the text that was sent. So a
request that was signed for an action is found to be from the account of the key that signed it.
-/

namespace Quorum

open Json
open Secp256k1 (groupOrder)

/-! ### Signatures as bytes -/

namespace Signature

variable {g : Signature}

/-- Both numbers are below the order of the group. -/
structure Reduced (g : Signature) : Prop where
  r : g.r < groupOrder
  s : g.s < groupOrder

lemma Reduced.lowered (h : g.Reduced) (nonzero : g.s ≠ 0) : g.lowered.Reduced := by
  rw [Signature.lowered]
  split
  · exact h
  · exact ⟨h.r, Nat.sub_lt (by decide) (Nat.pos_of_ne_zero nonzero)⟩

/-- A signature with reduced numbers is read back from its bytes. -/
lemma ofBytes?_bytes (h : g.Reduced) : ofBytes? g.bytes = some g := by
  have size (n : Nat) := Sha256.length_bigEndian 32 n
  have first : g.bytes.take 32 = Sha256.bigEndian 32 g.r := List.take_left' (size _)
  have second : g.bytes.drop 32 = Sha256.bigEndian 32 g.s := List.drop_left' (size _)
  have length : g.bytes.length = 64 := by rw [bytes, List.length_append, size, size]
  simp only [ofBytes?, first, second, ofBigEndian_bigEndian_of_lt h.r,
    ofBigEndian_bigEndian_of_lt h.s, length, h.r, h.s, and_self, if_true]

end Signature

namespace SecretKey

variable {k : SecretKey} {digest : List UInt8}

lemma reduced_of_signWith? {nonce : Nat} {g : Signature} (h : k.signWith? digest nonce = some g) :
    g.Reduced := by
  simp only [signWith?] at h
  split at h
  · cases h
  · split at h
    · cases h
    · rename_i nonzero
      rw [not_or] at nonzero
      cases h
      exact Signature.Reduced.lowered ⟨Nat.mod_lt _ (by decide), Nat.mod_lt _ (by decide)⟩ nonzero.2

lemma reduced_of_signFrom? {tries : Nat} {st : NonceState} {g : Signature}
    (h : k.signFrom? digest tries st = some g) : g.Reduced := by
  induction tries generalizing st with
  | zero => cases h
  | succ tries ih =>
    simp only [signFrom?] at h
    split at h
    · rename_i found
      cases h
      exact reduced_of_signWith? found
    · exact ih h

lemma reduced_sign (k : SecretKey) (digest : List UInt8) : (k.sign digest).Reduced := by
  rw [sign]
  cases found : k.signFrom? digest 64 (k.nonceState digest) with
  | none => exact ⟨by decide, by decide⟩
  | some g => exact reduced_of_signFrom? found

/-! #### Signatures step by step -/

lemma NonceState.mix_eq {st : NonceState} {data key value : List UInt8}
    (key_eq : Sha256.keyed st.key (st.value ++ data) = key)
    (value_eq : Sha256.keyed key st.value = value) : st.mix data = ⟨key, value⟩ := by
  subst key_eq value_eq
  rfl

lemma signFrom?_succ {tries : Nat} {st : NonceState} {value : List UInt8} {g : Signature}
    (drawn : Sha256.keyed st.key st.value = value)
    (signed : k.signWith? digest (ofBigEndian value) = some g) :
    k.signFrom? digest (tries + 1) st = some g := by
  simp only [signFrom?, drawn, signed]

/-- If the first secret number will do, it is the one that signs. -/
lemma sign_eq {st : NonceState} {value : List UInt8} {g : Signature}
    (state : k.nonceState digest = st) (drawn : Sha256.keyed st.key st.value = value)
    (signed : k.signWith? digest (ofBigEndian value) = some g) : k.sign digest = g := by
  have first : k.signFrom? digest 64 st = some g := signFrom?_succ drawn signed
  rw [sign, state, first, Option.getD_some]

end SecretKey

/-- What the curve is relied on for, at a key and a digest: the public key is read back from its
bytes, and the signature of the digest counts for it. -/
structure SecretKey.Sound (k : SecretKey) (digest : List UInt8) : Prop where
  read_back : PublicKey.ofBytes? k.publicKey.compressed = some k.publicKey
  accepted : k.publicKey.accepts digest (k.sign digest) = true

/-! ### Verification -/

lemma PublicKey.parse_recased {k : PublicKey} {s : String}
    (read_back : ofBytes? k.compressed = some k) (h : Text.Recased k.render.toList s.toList) :
    parse s = .ok k := by
  rw [render, Hex.plain, String.toList_ofList] at h
  have decoded : Hex.decode (Text.bytes s) = .ok k.compressed := Hex.decode_recased h
  simp [parse, decoded, read_back]

namespace Signed

variable {β : Type} [RequestBody β] {action : String} {key : SecretKey} {r : Signed β}

/-- The signer is found if both credentials can be read and the signature counts. -/
lemma verify_eq_ok {k : PublicKey} {bs : List UInt8} {g : Signature}
    (parsed : PublicKey.parse r.publicKey = .ok k)
    (decoded : Hex.decode (Text.bytes r.signature) = .ok bs) (read : Signature.ofBytes? bs = some g)
    (accepted : k.accepts (digest action r.body) g = true) : r.verify action = .ok k.address := by
  simp [verify, parsed, decoded, read, accepted]

/-- The credentials of a signed body are good for that body, whichever of their letters are
capitals. -/
lemma verify_recased (sound : key.Sound (digest action r.body))
    (publicKey : Text.Recased (sign action r.body key).publicKey.toList r.publicKey.toList)
    (signature : Text.Recased (sign action r.body key).signature.toList r.signature.toList) :
    r.verify action = .ok key.address := by
  rw [sign, Hex.plain, String.toList_ofList] at signature
  exact verify_eq_ok (PublicKey.parse_recased sound.read_back publicKey)
    (Hex.decode_recased signature) (Signature.ofBytes?_bytes (key.reduced_sign _)) sound.accepted

end Signed

/-! ### Bodies in any form -/

namespace SubmitBody

/-- The fields in any order, with the digits of the recipient in any case. -/
inductive Form (b : SubmitBody) : Value → Prop
  | members {destination : String} {ms : List (String × Value)}
      (recipient : Text.Recased b.destination.render.toList destination.toList)
      (order : ms.Perm [("nonce", .natural b.nonce.toNat), ("destination", .text destination),
        ("value", .natural b.value.units), ("data", .text b.data)]) : Form b (.object ms)

lemma independent : shape.Independent Draft.set := by
  intro i j (hi : i < 4) (hj : j < 4) apart t u draft next draft' first second
  interval_cases i <;> interval_cases j <;> first
    | exact absurd rfl apart
    | obtain ⟨x, read, rfl⟩ := exists_of_map_eq_ok first
      obtain ⟨y, read', rfl⟩ := exists_of_map_eq_ok second
      simp [Draft.set, read, read']

lemma decode_form {b : SubmitBody} {v : Value} (h : b.Form v) :
    RequestBody.decode v.tree = .ok b := by
  obtain ⟨recipient, order⟩ := h
  exact (record_perm independent order).mpr (decode_members (Address.parse_recased recipient))

end SubmitBody

namespace IndexBody

/-- The fields in any order. -/
inductive Form (b : IndexBody) : Value → Prop
  | members {ms : List (String × Value)}
      (order : ms.Perm [("nonce", .natural b.nonce.toNat), ("index", .natural b.index.toNat)]) :
      Form b (.object ms)

lemma independent : shape.Independent Draft.set := by
  intro i j (hi : i < 2) (hj : j < 2) apart t u draft next draft' first second
  interval_cases i <;> interval_cases j <;> first
    | exact absurd rfl apart
    | obtain ⟨x, read, rfl⟩ := exists_of_map_eq_ok first
      obtain ⟨y, read', rfl⟩ := exists_of_map_eq_ok second
      simp [Draft.set, read, read']

lemma decode_form {b : IndexBody} {v : Value} (h : b.Form v) :
    RequestBody.decode v.tree = .ok b := by
  obtain ⟨order⟩ := h
  exact (record_perm independent order).mpr b.decode_toJson

end IndexBody

namespace RequestBody

/-- The two kinds of bodies that owners sign, with the values that hold a body. -/
inductive Kind : (β : Type) → [RequestBody β] → (β → Value → Prop) → Prop
  | proposal : Kind SubmitBody SubmitBody.Form
  | reply : Kind IndexBody IndexBody.Form

variable {β : Type} [RequestBody β] {form : β → Value → Prop}

/-- What is written of a body holds it. -/
lemma Kind.form_toJson (kind : Kind β form) (b : β) : form b (toJson b) := by
  cases kind with
  | proposal => exact .members (.refl _) (.refl _)
  | reply => exact .members (.refl _)

/-- From a value that holds a body that body is read. -/
lemma Kind.decode_form (kind : Kind β form) {b : β} {v : Value} (h : form b v) :
    decode v.tree = .ok b := by
  cases kind with
  | proposal => exact SubmitBody.decode_form h
  | reply => exact IndexBody.decode_form h

end RequestBody

/-! ### Requests in any form -/

namespace Signed

variable {β : Type} [RequestBody β]

lemma independent : shape.Independent (Draft.set (β := β)) := by
  intro i j (hi : i < 3) (hj : j < 3) apart t u draft next draft' first second
  interval_cases i <;> interval_cases j <;> first
    | exact absurd rfl apart
    | obtain ⟨x, read, rfl⟩ := exists_of_map_eq_ok first
      obtain ⟨y, read', rfl⟩ := exists_of_map_eq_ok second
      simp [Draft.set, read, read']

/-- The fields in any order, with the digits of the credentials in any case, and a value that holds
the body. -/
inductive Form (form : β → Value → Prop) (r : Signed β) : Value → Prop
  | members {publicKey signature : String} {body : Value} {ms : List (String × Value)}
      (key : Text.Recased r.publicKey.toList publicKey.toList)
      (mark : Text.Recased r.signature.toList signature.toList) (content : form r.body body)
      (order : ms.Perm [("public_key", .text publicKey), ("signature", .text signature),
        ("body", body)]) : Form form r (.object ms)

variable {form : β → Value → Prop} {r : Signed β} {v : Value}

/-- From any form of a request its body is read, with its credentials. -/
lemma decode_form (kind : RequestBody.Kind β form) (h : r.Form form v) :
    ∃ r', decode v.tree = .ok r' ∧ r'.body = r.body ∧
      Text.Recased r.publicKey.toList r'.publicKey.toList ∧
        Text.Recased r.signature.toList r'.signature.toList := by
  obtain @⟨publicKey, signature, body, ms, key, mark, content, order⟩ := h
  refine ⟨⟨publicKey, signature, r.body⟩, (record_perm independent order).mpr ?_, rfl, key, mark⟩
  refine (record_tree_eq_ok_iff rfl (by decide)).mpr
    ⟨⟨some publicKey, some signature, some r.body⟩, ?_, rfl⟩
  simp [fill, Draft.set, kind.decode_form content]

/-- A request that a key has signed for an action is from the account of that key, as it is and also
once it was sent: it is written in one of its forms, and whichever of them a text holds, with white
space anywhere between its tokens, the request that is read has the same body and the same signer. -/
theorem signer_found (kind : RequestBody.Kind β form) (key : SecretKey) (action : String) (body : β)
    (sound : key.Sound (digest action body)) :
    (sign action body key).verify action = .ok key.address ∧
      (sign action body key).Form form (sign action body key).toJson ∧
      ∀ v, (sign action body key).Form form v → ∀ s : String,
        Spaced v.tokens s.toList ∨ Document.ofText s = ⟨v.tree, true⟩ →
          ∃ r, decodeText decode s = .ok r ∧ r.body = body ∧
            r.verify action = .ok key.address := by
  have written : (sign action body key).Form form (sign action body key).toJson :=
    .members (.refl _) (.refl _) (kind.form_toJson body) (.refl _)
  refine ⟨verify_recased sound (.refl _) (.refl _), written, fun v held s text => ?_⟩
  have text : Document.ofText s = ⟨v.tree, true⟩ := text.elim Document.ofText_of_spaced id
  obtain ⟨r, read, same, publicKey, signature⟩ := decode_form kind held
  obtain rfl : r.body = body := same
  refine ⟨r, ?_, rfl, verify_recased sound publicKey signature⟩
  simp [decodeText, text, read]

/-! #### A proposal in capitals -/

/-- A proposal with the greatest numbers and with a text that has to be escaped. -/
def greatProposal : SubmitBody where
  nonce := 18446744073709551615
  destination := ⟨List.replicate 20 0xab, rfl⟩
  value := ⟨340282366920938463463374607431768211455, by decide⟩
  data := "\"\\ \n é 🦀"

def seventhKey : SecretKey := ⟨7, by decide, by decide⟩

/-- The digest that is signed. -/
def greatDigest : List UInt8 :=
  Sha256.bigEndian 32 0x200b33ed16da539d5ccdbdfcf5d6637d39a8c4e4e5f48b1f6a8e64725560b04e

lemma digest_greatProposal : digest "submit" greatProposal = greatDigest := by decide +kernel

/-- The state after the first mixing. -/
def greatStart : SecretKey.NonceState where
  key := Sha256.bigEndian 32 0x28089caef17f7d73a74ddc47f479bdedcb9ef6abfa5fd4beb79c4b7ed80fb265
  value := Sha256.bigEndian 32 0x6646ef328dd004e1d1676889dc24339ea0e1f50e093ad84857f9716a9c26a3cf

/-- The state that the digest and the key determine. -/
def greatState : SecretKey.NonceState where
  key := Sha256.bigEndian 32 0x15daf4050122c2e59579444ce6d6ac4c0db3fe369f6d0baf41cf0ea2a77d4b1d
  value := Sha256.bigEndian 32 0xa1dd8d73f686a6c98e8d4c73306db3b466d895ab382d27f3609a9d65dae7b38d

def greatSignature : Signature where
  r := 0xf3e22926acf0cf5514aa0a5afe5af125f36cb52bc18c796fa55068a784d897f2
  s := 0x2d42b6531ad1cb91c49bd6acb8c06062fef8765535eced5792a947087d51a3a2

-- one hash is evaluated at a time: the kernel would hold the terms of all five at once
lemma nonceState_seventhKey : seventhKey.nonceState greatDigest = greatState := by
  have first : SecretKey.NonceState.mix ⟨List.replicate 32 0, List.replicate 32 1⟩
      (0 :: (seventhKey.bytes ++ Sha256.bigEndian 32 (ofBigEndian greatDigest % groupOrder)))
      = greatStart := SecretKey.NonceState.mix_eq (by decide +kernel) (by decide +kernel)
  rw [SecretKey.nonceState, first]
  exact SecretKey.NonceState.mix_eq (by decide +kernel) (by decide +kernel)

lemma sign_seventhKey : seventhKey.sign greatDigest = greatSignature := by
  have drawn : Sha256.keyed greatState.key greatState.value = Sha256.bigEndian 32
      0x1468b58cc608b81043398a1984b17a0dbb66696247479e3ff44f49fb65d6853e := by decide +kernel
  exact SecretKey.sign_eq nonceState_seventhKey drawn (by decide +kernel)

def capitals (s : String) : String := String.ofList (s.toList.map Char.toUpper)

/-- The request with its fields the other way round, and with capitals. -/
def inCapitals (r : Signed SubmitBody) : Value :=
  .object [("body", .object [("data", .text r.body.data), ("value", .natural r.body.value.units),
      ("destination", .text (capitals r.body.destination.render)),
      ("nonce", .natural r.body.nonce.toNat)]),
    ("signature", .text (capitals r.signature)), ("public_key", .text (capitals r.publicKey))]

lemma form_inCapitals (r : Signed SubmitBody) : r.Form SubmitBody.Form (inCapitals r) := by
  have recased (s : String) : Text.Recased s.toList (capitals s).toList := by
    rw [capitals, String.toList_ofList]
    exact .capitals _
  exact .members (recased _) (recased _) (.members (recased _) (List.reverse_perm [_, _, _, _]))
    (List.reverse_perm [_, _, _])

/-- A request over several lines, in capitals and with its fields the other way round, is from the
account of the key that signed it. -/
theorem signer_found_in_capitals :
    seventhKey.Sound (digest "submit" greatProposal) ∧
      ∃ r, decodeText decode (inCapitals (sign "submit" greatProposal seventhKey)).pretty = .ok r ∧
        r.body = greatProposal ∧ r.verify "submit" = .ok seventhKey.address := by
  have sound : seventhKey.Sound (digest "submit" greatProposal) := by
    refine ⟨by decide +kernel, ?_⟩
    rw [digest_greatProposal, sign_seventhKey]
    decide +kernel
  exact ⟨sound, (signer_found .proposal seventhKey "submit" greatProposal sound).2.2 _
    (form_inCapitals _) _ (.inr (Document.ofText_pretty _))⟩

end Signed

end Quorum
