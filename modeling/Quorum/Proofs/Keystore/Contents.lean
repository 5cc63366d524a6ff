import Mathlib.Data.List.Nodup
import Mathlib.Data.Set.List
import Quorum.Proofs.Command.Key

/-!
# What a keystore holds

A keystore into which keys are imported, one after the other, is a table: for each address it holds
the key that was imported last of those which control it. Each key is listed once, in the order of
the addresses.
-/

namespace Quorum

/-! ### Listed names -/

namespace Disk

variable {d : Disk} {n : Nat} {name : String}

lemma mem_names_iff : name ∈ d.names n ↔ (d.lookup? ⟨n, name⟩).isSome = true := by
  rw [names, List.mem_mergeSort, List.mem_filterMap, lookup?, Option.isSome_map,
    List.find?_isSome]
  refine exists_congr fun e => and_congr_right fun _ => ?_
  obtain ⟨⟨directory, other⟩, entry⟩ := e
  by_cases here : directory = n <;> simp [here]

/-- Each name in a directory is listed once. -/
lemma nodup_names (tidy : d.Tidy) : (d.names n).Nodup := by
  rw [names, (List.mergeSort_perm _ _).nodup_iff]
  refine List.Pairwise.filterMap _ (fun e e' apart name found name' found' => ?_) tidy
  split at found
  · rename_i here
    split at found'
    · rename_i here'
      cases found
      cases found'
      intro same
      obtain ⟨⟨directory, name⟩, entry⟩ := e
      cases same
      cases here
      cases here'
      exact apart rfl
    · cases found'
  · cases found

end Disk

namespace Keystore

open Quorum.Path (Fits)

variable {s : Keystore} {d d' : Disk} {n : Nat} {a : Address} {key : OwnerKey}
  {keys : List OwnerKey}

/-! ### Imports -/

/-- A private key to be imported, as text, and its label. -/
structure Import where
  privateKey : String
  label : Option String

/-- The key to be imported, if the text is one. -/
def Import.result (i : Import) : Except Error OwnerKey :=
  (SecretKey.parse i.privateKey).mapError .crypto |>.map fun secret => ⟨secret, i.label⟩

/-- What comes of imports one after the other, and the disk after them. -/
def importAll (s : Keystore) : List Import → Disk → List (Except Error OwnerKey) × Disk
  | [], d => ([], d)
  | i :: rest, d =>
    let (result, d) := s.importKey i.privateKey i.label d
    let (results, d) := s.importAll rest d
    (result :: results, d)

/-- The last of some keys that controls an address. -/
def lastOf (a : Address) (keys : List OwnerKey) : Option OwnerKey :=
  (keys.filter (·.address = a)).getLast?

lemma lastOf_append_singleton (a : Address) (keys : List OwnerKey) (key : OwnerKey) :
    lastOf a (keys ++ [key]) = if key.address = a then some key else lastOf a keys := by
  by_cases own : key.address = a <;> simp [lastOf, own]

lemma address_of_lastOf (last : lastOf a keys = some key) : key.address = a := by
  have mem := List.mem_of_getLast? last
  simpa using (List.mem_filter.mp mem).2

/-! ### What the directory holds -/

lemma keyPath_eq (s : Keystore) (a : Address) : s.keyPath a = Path.join s.directory (keyName a) :=
  rfl

/-- A directory holds just the files of keys, for each address that of the last one. -/
structure Mirrors (s : Keystore) (n : Nat) (keys : List OwnerKey) (d : Disk) : Prop where
  tidy : d.Tidy
  way : d.findDirectory s.directory = .ok n
  lookup?_iff : ∀ name entry, d.lookup? ⟨n, name⟩ = some entry ↔
    ∃ a key, lastOf a keys = some key ∧ name = keyName a ∧ entry = .file key.toJson.pretty
  fits : ∀ a key, lastOf a keys = some key → Fits s.directory (keyName a)

namespace Mirrors

lemma base (h : Mirrors s n keys d) : d.base s.directory = .ok n := by
  rw [Disk.base, if_neg, h.way]
  intro nowhere
  have way := h.way
  rw [nowhere] at way
  cases way

/-- An empty directory holds no keys. -/
lemma nil (tidy : d.Tidy) (way : d.findDirectory s.directory = .ok n) (empty : d.names n = []) :
    Mirrors s n [] d := by
  refine ⟨tidy, way, fun name entry => ?_, nofun⟩
  refine ⟨fun there => ?_, fun ⟨_, _, last, _⟩ => by cases last⟩
  have listed : name ∈ d.names n := Disk.mem_names_iff.mpr (by rw [there]; rfl)
  rw [empty] at listed
  cases listed

/-- A key that is stored takes the place of the last one that controls its address. -/
lemma put (h : Mirrors s n keys d) (fits : Fits s.directory (keyName key.address))
    (free : d.NoDirectory ⟨n, keyName key.address⟩) :
    Mirrors s n (keys ++ [key]) (d.put ⟨n, keyName key.address⟩ (.file key.toJson.pretty)) where
  tidy := h.tidy.put _ _
  way := (Disk.Spares.put h.tidy free _).findDirectory_eq_ok h.way
  lookup?_iff name entry := by
    rw [Disk.lookup?_put]
    split
    · rename_i here
      obtain ⟨_, rfl⟩ := Slot.mk.inj here
      constructor
      · intro there
        refine ⟨key.address, key, ?_, rfl, (Option.some.inj there).symm⟩
        rw [lastOf_append_singleton, if_pos rfl]
      · rintro ⟨a, other, last, name_eq, rfl⟩
        rw [lastOf_append_singleton, if_pos (keyName_inj name_eq)] at last
        rw [Option.some.inj last]
    · rename_i elsewhere
      rw [h.lookup?_iff]
      refine exists_congr fun a => exists_congr fun other => ?_
      rw [lastOf_append_singleton]
      by_cases own : key.address = a
      · subst own
        have ne : name ≠ keyName key.address := fun same => elsewhere (same ▸ rfl)
        simp [ne]
      · rw [if_neg own]
  fits a other last := by
    rw [lastOf_append_singleton] at last
    split at last
    · rename_i own
      exact own ▸ fits
    · exact h.fits a other last

lemma store (h : Mirrors s n keys d) (stored : s.store key d = (.ok key, d')) :
    Mirrors s n (keys ++ [key]) d' := by
  rcases s.store_cases key d with ⟨_, failed⟩ | ⟨slot, free, _, done⟩
  · rw [stored] at failed
    cases failed
  · rw [stored] at done
    cases done
    obtain ⟨located, no_directory, _⟩ := Disk.exists_of_fileSlot free
    rw [keyPath_eq, Disk.locate_join_eq_ok_iff (keyName_plain _)] at located
    obtain ⟨m, base, slot_eq, fits⟩ := located
    obtain rfl : n = m := Except.ok.inj (h.base.symm.trans base)
    cases slot_eq
    exact h.put fits no_directory

/-! ### Reading -/

/-- The file that is named for an address is that of the last key. -/
lemma lookup?_keyName (h : Mirrors s n keys d) (a : Address) :
    d.lookup? ⟨n, keyName a⟩ = (lastOf a keys).map fun key => .file key.toJson.pretty := by
  refine Option.ext fun entry => ?_
  rw [h.lookup?_iff, Option.map_eq_some_iff]
  constructor
  · rintro ⟨b, key, last, name_eq, rfl⟩
    exact ⟨key, keyName_inj name_eq ▸ last, rfl⟩
  · rintro ⟨key, last, rfl⟩
    exact ⟨a, key, last, rfl, rfl⟩

lemma shelf_keyName (h : Mirrors s n keys d) (a : Address) :
    d.shelf s.directory n (keyName a)
      = (lastOf a keys).map fun key => .file key.toJson.pretty := by
  rw [Disk.shelf, h.lookup?_keyName]
  split
  · rfl
  · rename_i unfit
    cases last : lastOf a keys with
    | none => rfl
    | some key => exact absurd (h.fits a key last) unfit

lemma readKey_eq_ok (h : Mirrors s n keys d) (last : lastOf a keys = some key) :
    readKey d (s.keyPath a) = .ok key := by
  refine readKey_eq_ok_iff.mpr ⟨_, ?_, key.gives⟩
  rw [keyPath_eq, Disk.read_join_eq_ok_iff (keyName_plain a)]
  refine ⟨n, h.base, ?_⟩
  rw [h.shelf_keyName, last]
  rfl

lemma load_eq (h : Mirrors s n keys d) (a : Address) :
    s.load a d = (lastOf a keys).elim (.error (.keyNotFound a)) .ok := by
  have there : d.exists? (s.keyPath a) = (lastOf a keys).isSome := by
    rw [keyPath_eq, Disk.exists?_join (keyName_plain a),
      Disk.under?_join (keyName_plain a) h.base, h.shelf_keyName, Option.isSome_map]
  rw [load, there]
  cases last : lastOf a keys with
  | none => rfl
  | some key => exact h.readKey_eq_ok last

end Mirrors

/-! ### Listing -/

lemma hasJsonExtension_keyName (a : Address) : Path.hasJsonExtension (keyName a) = true := by
  rw [Path.hasJsonExtension, toList_keyName, Bool.and_eq_true, List.isSuffixOf_iff_suffix]
  refine ⟨⟨'0' :: 'x' :: Hex.encode a.bytes, rfl⟩, ?_⟩
  have json : ".json".toList.length = 5 := rfl
  simp only [List.length_cons, List.length_append, json, decide_eq_true_eq]
  omega

/-- Keys with different addresses are listed in increasing order. -/
lemma pairwise_lt_mergeSort {infos : List KeyInfo} (distinct : (infos.map (·.address)).Nodup) :
    (infos.mergeSort fun i j => !decide (j.address < i.address)).Pairwise
      fun i j => i.address < j.address := by
  have same : (infos.mergeSort fun i j => !decide (j.address < i.address)).map (·.address)
      = sortAddresses (infos.map (·.address)) := List.map_mergeSort fun _ _ _ _ => rfl
  have increasing : (sortAddresses (infos.map (·.address))).Pairwise (· < ·) :=
    pairwise_lt_of_repeated? (pairwise_sortAddresses _)
      (repeated?_eq_none ((sortAddresses_perm _).nodup_iff.mpr distinct))
  exact List.pairwise_map.mp (same ▸ increasing)

lemma Mirrors.exists_addresses (h : Mirrors s n keys d) :
    ∃ addresses : List Address, addresses.map keyName = d.names n ∧ addresses.Nodup ∧
      ∀ a, a ∈ addresses ↔ (lastOf a keys).isSome = true := by
  have named : d.names n ∈ Set.range (List.map keyName) := by
    rw [Set.range_list_map]
    intro name listed
    obtain ⟨entry, there⟩ := Option.isSome_iff_exists.mp (Disk.mem_names_iff.mp listed)
    obtain ⟨a, _, _, name_eq, _⟩ := (h.lookup?_iff _ _).mp there
    exact ⟨a, name_eq.symm⟩
  obtain ⟨addresses, same⟩ := named
  have inj : Function.Injective keyName := fun _ _ => keyName_inj
  have distinct : addresses.Nodup := List.Nodup.of_map keyName (same ▸ Disk.nodup_names h.tidy)
  refine ⟨addresses, same, distinct, fun a => ?_⟩
  rw [← List.mem_map_of_injective inj, same, Disk.mem_names_iff, h.lookup?_keyName,
    Option.isSome_map]

lemma Mirrors.exists_keys (h : Mirrors s n keys d) : ∃ infos, s.keys d = .ok infos ∧
    infos.Pairwise (fun i j => i.address < j.address) ∧
    ∀ info, info ∈ infos ↔ ∃ a key, lastOf a keys = some key ∧ info = key.info := by
  obtain ⟨addresses, names_eq, distinct, mem_iff⟩ := h.exists_addresses
  let unsorted := addresses.filterMap fun a => (lastOf a keys).map OwnerKey.info
  have listed : s.keys d = .ok (unsorted.mergeSort fun i j => !decide (j.address < i.address)) := by
    have all : (d.names n).filter Path.hasJsonExtension = d.names n := by
      rw [← names_eq, List.filter_eq_self, List.forall_mem_map]
      exact fun a _ => hasJsonExtension_keyName a
    have infos_eq : ((d.names n).filterMap fun name =>
        (Keystore.readKey d (s.pathOf name)).toOption.map OwnerKey.info) = unsorted := by
      rw [← names_eq, List.filterMap_map]
      refine List.filterMap_congr fun a mem => ?_
      obtain ⟨key, last⟩ := Option.isSome_iff_exists.mp ((mem_iff a).mp mem)
      have read : Keystore.readKey d (s.pathOf (keyName a)) = .ok key := h.readKey_eq_ok last
      rw [Function.comp_apply, read, last]
      rfl
    rw [Keystore.keys, Disk.list, h.way]
    show Except.ok _ = _
    rw [all, infos_eq]
  refine ⟨_, listed, pairwise_lt_mergeSort ?_, fun info => ?_⟩
  · refine List.pairwise_map.mpr (List.Pairwise.filterMap _ ?_ distinct)
    intro a b apart i found j found'
    obtain ⟨key, last, rfl⟩ := Option.map_eq_some_iff.mp found
    obtain ⟨key', last', rfl⟩ := Option.map_eq_some_iff.mp found'
    have own : key.info.address = a := address_of_lastOf last
    have own' : key'.info.address = b := address_of_lastOf last'
    rwa [own, own']
  · rw [List.mem_mergeSort, List.mem_filterMap]
    constructor
    · rintro ⟨a, _, found⟩
      obtain ⟨key, last, rfl⟩ := Option.map_eq_some_iff.mp found
      exact ⟨a, key, last, rfl⟩
    · rintro ⟨a, key, last, rfl⟩
      refine ⟨a, (mem_iff a).mpr (by rw [last]; rfl), ?_⟩
      rw [last]
      rfl

/-! ### Many imports -/

variable {i : Import} {imports : List Import}

/-- That a text is no key is no matter of files. -/
lemma result_ne_io {cause : IoError} : i.result ≠ .error (.io cause) := by
  intro failed
  unfold Import.result at failed
  cases parsed : SecretKey.parse i.privateKey with
  | error e =>
    rw [parsed] at failed
    cases failed
  | ok secret =>
    rw [parsed] at failed
    cases failed

lemma importKey_of_error {e : Error} (failed : i.result = .error e) :
    s.importKey i.privateKey i.label d = (.error e, d) := by
  unfold Import.result at failed
  unfold importKey
  cases parsed : SecretKey.parse i.privateKey with
  | error e' =>
    rw [parsed] at failed
    cases failed
    exact Attempt.ofExcept_error_bind _ _
  | ok secret =>
    rw [parsed] at failed
    cases failed

lemma importKey_of_ok (parsed : i.result = .ok key) :
    s.importKey i.privateKey i.label d = s.store key d := by
  unfold Import.result at parsed
  unfold importKey
  cases read : SecretKey.parse i.privateKey with
  | error e =>
    rw [read] at parsed
    cases parsed
  | ok secret =>
    rw [read] at parsed
    cases parsed
    exact Attempt.ofExcept_ok_bind secret _

/-- An import that fails changes nothing. -/
lemma snd_importKey_of_error {e : Error}
    (failed : (s.importKey i.privateKey i.label d).1 = .error e) :
    (s.importKey i.privateKey i.label d).2 = d := by
  cases result : i.result with
  | error e' => rw [importKey_of_error result]
  | ok key =>
    have run : s.importKey i.privateKey i.label d = s.store key d := importKey_of_ok result
    rcases s.store_cases key d with ⟨_, stored⟩ | ⟨_, _, _, stored⟩
    · rw [run.trans stored]
    · rw [run.trans stored] at failed
      cases failed

/-- The keys that imports are about, but for texts that are none. -/
def imported (imports : List Import) : List OwnerKey :=
  imports.filterMap (·.result.toOption)

lemma imported_cons_of_error {e : Error} (failed : i.result = .error e) :
    imported (i :: imports) = imported imports := by
  rw [imported, List.filterMap_cons, failed]
  rfl

lemma imported_cons_of_ok (parsed : i.result = .ok key) :
    imported (i :: imports) = key :: imported imports := by
  rw [imported, List.filterMap_cons, parsed]
  rfl

lemma importAll_cons_of_error {e : Error} (failed : i.result = .error e) :
    s.importAll (i :: imports) d
      = (.error e :: (s.importAll imports d).1, (s.importAll imports d).2) := by
  rw [importAll, importKey_of_error failed]

lemma importAll_cons_of_ok {r : Except Error OwnerKey} (parsed : i.result = .ok key)
    (stored : s.store key d = (r, d')) :
    s.importAll (i :: imports) d
      = (r :: (s.importAll imports d').1, (s.importAll imports d').2) := by
  rw [importAll, importKey_of_ok parsed, stored]

/-- Unless a file operation fails, an import fails just if its text is no key, and the keys that
were imported are those that the directory holds. -/
lemma Mirrors.importAll (h : Mirrors s n keys d)
    (smooth : ∀ cause, .error (.io cause) ∉ (s.importAll imports d).1) :
    (s.importAll imports d).1 = imports.map Import.result ∧
      Mirrors s n (keys ++ imported imports) (s.importAll imports d).2 := by
  induction imports generalizing keys d with
  | nil => exact ⟨rfl, by rwa [imported, List.filterMap_nil, List.append_nil]⟩
  | cons i rest ih =>
    cases result : i.result with
    | error e =>
      rw [importAll_cons_of_error result] at smooth ⊢
      obtain ⟨results, mirrors⟩ := ih h fun cause mem => smooth cause (List.mem_cons_of_mem _ mem)
      rw [imported_cons_of_error result, List.map_cons, result, results]
      exact ⟨rfl, mirrors⟩
    | ok key =>
      cases stored : s.store key d with
      | mk r next =>
        rw [importAll_cons_of_ok result stored] at smooth ⊢
        rcases s.store_cases key d with ⟨cause, failed⟩ | ⟨_, _, _, done⟩
        · rw [stored] at failed
          cases failed
          exact absurd List.mem_cons_self (smooth cause)
        · obtain rfl : r = .ok key := congrArg Prod.fst (stored.symm.trans done)
          obtain ⟨results, mirrors⟩ := ih (h.store stored)
            fun cause mem => smooth cause (List.mem_cons_of_mem _ mem)
          rw [imported_cons_of_ok result, List.append_cons, List.map_cons, result, results]
          exact ⟨rfl, mirrors⟩

/-- A key is stored if the path to its file is short enough. -/
lemma Mirrors.exists_store (h : Mirrors s n keys d)
    (fits : Fits s.directory (keyName key.address)) : ∃ d', s.store key d = (.ok key, d') := by
  have plain := keyName_plain key.address
  have located := (Disk.locate_join_eq_ok_iff plain).mpr ⟨n, h.base, rfl, fits⟩
  have free : d.fileSlot (s.keyPath key.address) = .ok ⟨n, keyName key.address⟩ := by
    rw [keyPath_eq, Disk.fileSlot, located]
    simp only [h.lookup?_keyName, Path.endsInSlash_join s.directory plain.slash plain.named.1]
    cases lastOf key.address keys <;> rfl
  have written : d.write (s.keyPath key.address) key.toJson.pretty
      = .ok (d.put ⟨n, keyName key.address⟩ (.file key.toJson.pretty)) := by
    rw [Disk.write, free]
  exact ⟨_, store_of_write written⟩

/-- No file operation fails if the paths to all files are short enough. -/
lemma Mirrors.smooth (h : Mirrors s n keys d)
    (fits : ∀ key ∈ imported imports, Fits s.directory (keyName key.address)) :
    ∀ cause, .error (.io cause) ∉ (s.importAll imports d).1 := by
  induction imports generalizing keys d with
  | nil => exact fun _ => List.not_mem_nil
  | cons i rest ih =>
    intro cause mem
    cases result : i.result with
    | error e =>
      rw [importAll_cons_of_error result] at mem
      rw [imported_cons_of_error result] at fits
      rcases List.mem_cons.mp mem with same | mem
      · rw [← same] at result
        exact result_ne_io result
      · exact ih h fits cause mem
    | ok key =>
      rw [imported_cons_of_ok result, List.forall_mem_cons] at fits
      obtain ⟨next, stored⟩ := h.exists_store fits.1
      rw [importAll_cons_of_ok result stored] at mem
      rcases List.mem_cons.mp mem with same | mem
      · cases same
      · exact ih (h.store stored) fits.2 cause mem

/-- Let any texts be imported as private keys into an empty directory, each with a label, and let no
file operation fail. An import that fails changes nothing, and it fails just if its text is no key.
Afterwards for each address the key is loaded that was imported last of those which control it, and
no key if there is none. The same keys are listed, each once, in the order of their addresses. -/
theorem imports_kept (tidy : d.Tidy) (empty : d.list s.directory = .ok [])
    (smooth : ∀ cause, .error (.io cause) ∉ (s.importAll imports d).1) :
    let d' := (s.importAll imports d).2
    (s.importAll imports d).1 = imports.map Import.result ∧
    (∀ (i : Import) d₁ e, (s.importKey i.privateKey i.label d₁).1 = .error e →
      (s.importKey i.privateKey i.label d₁).2 = d₁) ∧
    (∀ a, s.load a d' = (lastOf a (imported imports)).elim (.error (.keyNotFound a)) .ok) ∧
    ∃ infos, s.keys d' = .ok infos ∧
      infos.Pairwise (fun i j => i.address < j.address) ∧
      ∀ info, info ∈ infos ↔ ∃ a key, lastOf a (imported imports) = some key ∧ info = key.info := by
  intro d'
  obtain ⟨n, way, names⟩ : ∃ n, d.findDirectory s.directory = .ok n ∧ d.names n = [] := by
    unfold Disk.list at empty
    split at empty
    · cases empty
    · rename_i n way
      exact ⟨n, way, Except.ok.inj empty⟩
  obtain ⟨results, mirrors⟩ := (Mirrors.nil tidy way names).importAll smooth
  exact ⟨results, fun _ _ _ => snd_importKey_of_error, mirrors.load_eq, mirrors.exists_keys⟩

/-! ### A key that is imported again -/

open Command (signatoryKey roomyDisk address_signatoryKey tidy_newDisk)
open Server (newDisk signatory)
open Workspace (keystoreOf)

/-- The key under its first label. -/
def firstKey : OwnerKey := { signatoryKey with label := some "first" }

/-- The same key under another label. -/
def secondKey : OwnerKey := { signatoryKey with label := some "second" }

/-- A text that is no key, and then the key twice. -/
def importedAgain : List Import :=
  [⟨"0x", none⟩, ⟨firstKey.secret.render, firstKey.label⟩,
    ⟨secondKey.secret.render, secondKey.label⟩]

lemma result_render (key : OwnerKey) : Import.result ⟨key.secret.render, key.label⟩ = .ok key := by
  rw [Import.result, key.secret.parse_render]
  rfl

lemma imported_importedAgain : imported importedAgain = [firstKey, secondKey] := by
  have failed : Import.result ⟨"0x", none⟩ = .error (.crypto .privateKey) := by rfl
  rw [importedAgain, imported_cons_of_error failed, imported_cons_of_ok (result_render _),
    imported_cons_of_ok (result_render _)]
  rfl

lemma lastOf_imported (a : Address) : lastOf a (imported importedAgain)
    = if secondKey.address = a then some secondKey else none := by
  have both : [firstKey, secondKey] = ([] ++ [firstKey]) ++ [secondKey] := rfl
  have same : firstKey.address = secondKey.address := rfl
  rw [imported_importedAgain, both, lastOf_append_singleton, lastOf_append_singleton, same]
  split
  · rfl
  · rfl

lemma names_roomyDisk : roomyDisk.names 2 = [] := by
  simp [Disk.names, roomyDisk, newDisk, Disk.put, Disk.top]

/-- Of a key that is imported twice, the label is kept that was given last. -/
theorem last_label_kept : roomyDisk.Tidy ∧
    roomyDisk.list (keystoreOf "data").directory = .ok [] ∧
    (∀ cause, .error (.io cause) ∉ ((keystoreOf "data").importAll importedAgain roomyDisk).1) ∧
    (keystoreOf "data").load secondKey.address
      ((keystoreOf "data").importAll importedAgain roomyDisk).2 = .ok secondKey ∧
    ∃ infos, (keystoreOf "data").keys ((keystoreOf "data").importAll importedAgain roomyDisk).2
        = .ok infos ∧ ∀ info, info ∈ infos ↔ info = secondKey.info := by
  have tidy : roomyDisk.Tidy := tidy_newDisk.put _ _
  have way : roomyDisk.findDirectory (keystoreOf "data").directory = .ok 2 := by rfl
  have empty : roomyDisk.list (keystoreOf "data").directory = .ok [] := by
    rw [Disk.list, way]
    exact congrArg _ names_roomyDisk
  have short : Fits (keystoreOf "data").directory (keyName signatory) := by decide
  have smooth : ∀ cause, .error (.io cause) ∉
      ((keystoreOf "data").importAll importedAgain roomyDisk).1 := by
    refine (Mirrors.nil tidy way names_roomyDisk).smooth ?_
    have own : Fits (keystoreOf "data").directory (keyName signatoryKey.address) := by
      rwa [address_signatoryKey]
    rw [imported_importedAgain]
    exact List.forall_mem_cons.mpr ⟨own, List.forall_mem_singleton.mpr own⟩
  obtain ⟨_, _, loads, infos, listed, _, mem_iff⟩ := imports_kept tidy empty smooth
  refine ⟨tidy, empty, smooth, ?_, infos, listed, fun info => ?_⟩
  · rw [loads, lastOf_imported, if_pos rfl]
    rfl
  · rw [mem_iff]
    constructor
    · rintro ⟨a, key, last, rfl⟩
      rw [lastOf_imported] at last
      split at last
      · rw [← Option.some.inj last]
      · cases last
    · rintro rfl
      exact ⟨secondKey.address, secondKey, by rw [lastOf_imported, if_pos rfl], rfl⟩

end Keystore

end Quorum
