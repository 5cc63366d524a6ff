import Quorum.Keystore
import Quorum.Proofs.Address.Json
import Quorum.Proofs.Crypto.BigEndian
import Quorum.Proofs.Disk.Entry

/-!
# Key files

The key that is loaded for an address is the one that the file with this name gives, whatever its
address and whatever address is written in the file. A keystore writes each key to the file that is
named for the address of the key, where the key is read back.
-/

namespace Quorum

/-! ### Private keys read back -/

/-- Thirty-two bytes are enough for a number below the order of the group. -/
lemma ofBigEndian_bigEndian_of_lt {n : Nat} (small : n < Secp256k1.groupOrder) :
    ofBigEndian (Sha256.bigEndian 32 n) = n := by
  rw [ofBigEndian_bigEndian]
  exact Nat.mod_eq_of_lt (Nat.lt_of_lt_of_le small (by decide))

theorem SecretKey.parse_render (k : SecretKey) : parse k.render = .ok k := by
  have digits : Hex.decode (Text.bytes k.render) = .ok k.bytes := by
    rw [render, Hex.plain, Text.bytes, String.toList_ofList, Hex.decode_utf8_encode]
  have size : k.bytes.length = 32 := Sha256.length_bigEndian 32 k.scalar
  have number : ofBigEndian k.bytes = k.scalar := ofBigEndian_bigEndian_of_lt k.lt_order
  rw [parse, digits]
  simp [ofBytes?, size, number, ofNat?, k.pos, k.lt_order]

/-! ### What a key file gives -/

open Json

/-- The text gives the private key and the label of a key. The address in it may be any. -/
def KeyFile.Gives (text : String) (key : OwnerKey) : Prop :=
  ∃ file : KeyFile, decodeText KeyFile.decode text = .ok file ∧
    SecretKey.parse file.privateKey = .ok key.secret ∧ file.label = key.label

lemma KeyFile.Gives.unique {text : String} {key key' : OwnerKey} (h : Gives text key)
    (h' : Gives text key') : key = key' := by
  obtain ⟨file, read, parsed, label⟩ := h
  obtain ⟨file', read', parsed', label'⟩ := h'
  obtain rfl := Except.ok.inj (read.symm.trans read')
  have secret := Except.ok.inj (parsed.symm.trans parsed')
  cases key
  cases key'
  simp_all

lemma OwnerKey.decode_toJson (key : OwnerKey) : KeyFile.decode key.toJson.tree
    = .ok ⟨key.secret.render, key.address, key.label⟩ := by
  have label : optional text (Value.optional .text key.label).tree = .ok key.label :=
    optional_tree (fun _ => nofun) fun s _ => text_tree s
  refine (record_tree_eq_ok_iff rfl (by decide)).mpr
    ⟨⟨some key.secret.render, some key.address, key.label⟩, ?_, ?_⟩
  · simp [fill, KeyFile.Draft.set, Address.decode_toJson, label]
  · simp [KeyFile.Draft.finish, need]

/-- What is written for a key gives that key. -/
lemma OwnerKey.gives (key : OwnerKey) : KeyFile.Gives key.toJson.pretty key := by
  refine ⟨⟨key.secret.render, key.address, key.label⟩, ?_, key.secret.parse_render, rfl⟩
  rw [decodeText_pretty, key.decode_toJson]

/-! ### Writing a file -/

namespace Attempt

variable {ε : Type} {wrap : IoError → ε} {op : Disk → Except IoError Disk} {d d' : Disk}

lemma operate_of_ok (h : op d = .ok d') : operate wrap op d = (.ok (), d') := by
  simp only [operate, h]

lemma operate_of_error {cause : IoError} (h : op d = .error cause) :
    operate wrap op d = (.error (wrap cause), d) := by
  simp only [operate, h]

end Attempt

/-! ### Names -/

namespace Keystore

open Quorum.Path (Plain)

variable {keystore : Keystore} {a b : Address} {key : OwnerKey} {d d' : Disk} {s : Slot}
  {name text : String}

/-- The name of a key file. -/
def keyName (a : Address) : String := a.render ++ ".json"

lemma toList_keyName (a : Address) :
    (keyName a).toList = '0' :: 'x' :: (Hex.encode a.bytes ++ ".json".toList) := by
  simp [keyName, Address.render, Hex.marked]

lemma keyName_ne (a : Address) (other : name.toList.head? ≠ some '0') : keyName a ≠ name := by
  rintro rfl
  rw [toList_keyName] at other
  exact other rfl

lemma keyName_inj (h : keyName a = keyName b) : a = b := by
  have chars := congrArg String.toList h
  simp only [keyName, String.toList_append] at chars
  have rendered := String.toList_inj.mp (List.append_cancel_right chars)
  have parsed := a.parse_render
  rw [rendered, b.parse_render] at parsed
  exact (Except.ok.inj parsed).symm

lemma keyName_plain (a : Address) : Plain (keyName a) := by
  have digits : ∀ n < 16, '/' ≠ Hex.digit n ∧ '\x00' ≠ Hex.digit n := by decide
  have apart {c : Char} (digit : ∀ n < 16, c ≠ Hex.digit n)
      (others : c ∉ '0' :: 'x' :: ".json".toList) : c ∉ (keyName a).toList := by
    rw [toList_keyName]
    simp only [List.mem_cons, List.mem_append, not_or] at others ⊢
    refine ⟨others.1, others.2.1, fun mem => ?_, others.2.2⟩
    obtain ⟨n, small, same⟩ := Hex.mem_encode mem
    exact digit n small same
  refine ⟨apart (fun n small => (digits n small).1) (by decide),
    apart (fun n small => (digits n small).2) (by decide), ?_⟩
  exact ⟨keyName_ne a (by decide), keyName_ne a (by decide), keyName_ne a (by decide)⟩

/-- A key file is named for its address. -/
lemma getLast?_parts_keyPath (keystore : Keystore) (a : Address) :
    (keystore.keyPath a).parts.getLast? = some (keyName a) :=
  Path.getLast?_parts_join keystore.directory (keyName_plain a).slash (keyName_plain a).named.1

/-! ### Loading -/

/-- What follows something that may fail succeeds only after it. -/
lemma bind_mapError_eq_ok_iff {ε α β : Type} {x : Except ε α} {wrap : ε → Error}
    {f : α → Except Error β} {v : β} :
    (x.mapError wrap >>= f) = .ok v ↔ ∃ u, x = .ok u ∧ f u = .ok v := by
  cases x with
  | error e => simp [Except.mapError, bind, Except.bind]
  | ok u => simp [Except.mapError, bind, Except.bind]

lemma readKey_eq_ok_iff {p : Path} :
    readKey d p = .ok key ↔ ∃ text, d.read p = .ok text ∧ KeyFile.Gives text key := by
  have parts {secret : SecretKey} {label : Option String} :
      (⟨secret, label⟩ : OwnerKey) = key ↔ secret = key.secret ∧ label = key.label := by
    cases key
    simp
  simp only [readKey, bind_mapError_eq_ok_iff, KeyFile.Gives, pure, Except.pure, Except.ok.injEq,
    parts]
  refine exists_congr fun text => and_congr_right fun _ => exists_congr fun file =>
    and_congr_right fun _ => ?_
  constructor
  · rintro ⟨_, parsed, rfl, label⟩
    exact ⟨parsed, label⟩
  · rintro ⟨parsed, label⟩
    exact ⟨_, parsed, rfl, label⟩

/-- A key is loaded if the file that is named for the address gives it. -/
theorem load_eq_ok_iff : keystore.load a d = .ok key ↔
    ∃ text, d.read (keystore.keyPath a) = .ok text ∧ KeyFile.Gives text key := by
  unfold load
  constructor
  · intro found
    split at found
    · exact readKey_eq_ok_iff.mp found
    · cases found
  · rintro ⟨text, read, gives⟩
    rw [if_pos (Disk.exists?_of_read read)]
    exact readKey_eq_ok_iff.mpr ⟨text, read, gives⟩

/-! ### Storing -/

lemma store_of_write
    (written : d.write (keystore.keyPath key.address) key.toJson.pretty = .ok d') :
    keystore.store key d = (.ok key, d') :=
  Attempt.bind_ok (Attempt.operate_of_ok written)

/-- A key that is stored is written to the file that is named for its address. -/
lemma store_cases (keystore : Keystore) (key : OwnerKey) (d : Disk) :
    (∃ cause, keystore.store key d = (.error (.io cause), d)) ∨
    ∃ s, d.fileSlot (keystore.keyPath key.address) = .ok s ∧ s.name = keyName key.address ∧
      keystore.store key d = (.ok key, d.put s (.file key.toJson.pretty)) := by
  cases written : d.write (keystore.keyPath key.address) key.toJson.pretty with
  | error cause => exact .inl ⟨cause, Attempt.bind_error (Attempt.operate_of_error written)⟩
  | ok d' =>
    obtain ⟨s, free, rfl⟩ := Disk.exists_of_write written
    obtain ⟨located, _, _⟩ := Disk.exists_of_fileSlot free
    have last := Disk.getLast?_parts_of_locate located
    rw [getLast?_parts_keyPath] at last
    exact .inr ⟨s, free, (Option.some.inj last).symm, store_of_write written⟩

/-- What was stored is loaded for its own address. -/
theorem load_of_store (tidy : d.Tidy) (stored : keystore.store key d = (.ok key, d')) :
    keystore.load key.address d' = .ok key := by
  rcases keystore.store_cases key d with ⟨cause, failed⟩ | ⟨s, free, _, done⟩
  · rw [stored] at failed
    cases failed
  · rw [stored] at done
    cases done
    obtain ⟨located, no_directory, slash⟩ := Disk.exists_of_fileSlot free
    exact load_eq_ok_iff.mpr ⟨_, Disk.read_put tidy located no_directory slash, key.gives⟩

lemma tidy_store (keystore : Keystore) (key : OwnerKey) (tidy : d.Tidy) :
    (keystore.store key d).2.Tidy := by
  rcases keystore.store_cases key d with ⟨cause, failed⟩ | ⟨s, _, _, done⟩
  · rw [failed]
    exact tidy
  · rw [done]
    exact tidy.put s _

/-! ### Files that are named for their keys -/

/-- Every key file on the disk is named for the address of the key that it gives. -/
def WellNamed (d : Disk) : Prop :=
  ∀ s a text key, s.name = keyName a → d.file? s = some text → KeyFile.Gives text key →
    key.address = a

namespace WellNamed

lemma address_eq (named : WellNamed d) (found : keystore.load a d = .ok key) : key.address = a := by
  obtain ⟨text, read, gives⟩ := load_eq_ok_iff.mp found
  obtain ⟨s, found⟩ := Disk.read_eq_ok_iff.mp read
  obtain ⟨located, there, _⟩ := Disk.findFile_eq_ok_iff.mp found
  have last := Disk.getLast?_parts_of_locate located
  rw [getLast?_parts_keyPath] at last
  exact named s a text key (Option.some.inj last).symm (Disk.file?_eq_some_iff.mpr there) gives

lemma of_files (named : WellNamed d) (kept : ∀ s a, s.name = keyName a → d'.file? s = d.file? s) :
    WellNamed d' := by
  intro s a text key name_eq there gives
  rw [kept s a name_eq] at there
  exact named s a text key name_eq there gives

/-- A keystore names its files well. -/
lemma store (named : WellNamed d) (keystore : Keystore) (key : OwnerKey) :
    WellNamed (keystore.store key d).2 := by
  rcases keystore.store_cases key d with ⟨cause, failed⟩ | ⟨s, _, name_eq, done⟩
  · rw [failed]
    exact named
  · rw [done]
    intro t a text key' named_a there gives
    by_cases same : s = t
    · subst same
      obtain rfl : key.toJson.pretty = text := by
        simpa [Disk.file?, Disk.lookup?_put] using there
      rw [gives.unique key.gives]
      exact keyName_inj (name_eq.symm.trans named_a)
    · dsimp only at there
      rw [Disk.file?_put_of_ne same] at there
      exact named t a text key' named_a there gives

end WellNamed

end Keystore

end Quorum
