import Quorum.Address.Json
import Quorum.Proofs.Json.Decoding
import Quorum.Proofs.Text.Hex

/-!
# Simple values read back

Addresses, payloads, sets of addresses and tables by address are read as what they were written for.
-/

namespace Quorum

open Json

/-! ### Texts -/

/-- An address is read back also if some of its letters, or that of the mark, are capitals. -/
theorem Address.parse_recased {a : Address} {s : String}
    (h : Text.Recased a.render.toList s.toList) : Address.parse s = .ok a := by
  obtain ⟨trimmed, ds, body, digits⟩ := Hex.afterMark?_recased h
  have decoded := Hex.decode_recased digits
  have size : (Text.utf8 ds).length = 40 := by
    rw [Hex.length_of_decode decoded, a.length_bytes]
  rw [parse, trimmed]
  simp only [body, dif_pos size]
  split
  · rename_i bytes read
    rw [decoded] at read
    exact congrArg _ (Address.ext (Except.ok.inj read).symm)
  · rename_i e read
    rw [decoded] at read
    cases read

theorem Address.parse_render (a : Address) : Address.parse a.render = .ok a :=
  parse_recased (.refl _)

theorem Payload.parse_render (data : List UInt8) :
    Payload.parse (Payload.render data) = .ok data := by
  obtain ⟨trimmed, ds, body, digits⟩ := Hex.afterMark?_recased (.refl (render data).toList)
  rw [parse, trimmed, body]
  exact Hex.decode_recased digits

lemma Address.decode_toJson (a : Address) : Address.decode a.toJson.tree = .ok a :=
  parsed_tree "a string" a.parse_render

lemma Address.decodeName_render (a : Address) : Address.decodeName a.render = .ok a := by
  rw [decodeName, a.parse_render]

lemma Payload.decode_toJson (data : List UInt8) :
    Payload.decode (Payload.toJson data).tree = .ok data :=
  parsed_tree "a string" (Payload.parse_render data)

lemma Amount.decode_toJson (a : Amount) : amount a.toJson.tree = .ok a :=
  amount_tree a

/-! ### Sets and tables -/

namespace AddressSet

lemma place_last {a : Address} {as : List Address} (last : ∀ b ∈ as, b < a) :
    place a as = as ++ [a] := by
  induction as with
  | nil => rfl
  | cons b as ih =>
    rw [List.forall_mem_cons] at last
    rw [place, if_neg (Address.lt_asymm last.1), if_neg (Address.ne_of_lt last.1).symm, ih last.2]
    rfl

/-- The members of a set in their order make up that set. -/
lemma ofList_toList (s : AddressSet) : ofList s.toList = s := by
  have grow : ∀ (as : List Address) (s : AddressSet), (s.toList ++ as).Pairwise (· < ·) →
      (as.foldl insert s).toList = s.toList ++ as := by
    intro as
    induction as with
    | nil => simp
    | cons a as ih =>
      intro s sorted
      have last : (s.insert a).toList = s.toList ++ [a] :=
        place_last fun b hb => (List.pairwise_append.mp sorted).2.2 b hb a (by simp)
      rw [List.foldl_cons, ih _ (by simpa [last] using sorted), last, List.append_assoc]
      rfl
  have same : (ofList s.toList).toList = s.toList := grow s.toList empty s.sorted
  cases h : ofList s.toList
  cases s
  simp_all

lemma decode_toJson (s : AddressSet) : AddressSet.decode s.toJson.tree = .ok s := by
  have read : list Address.decode s.toJson.tree = .ok s.toList :=
    list_tree fun a _ => a.decode_toJson
  rw [AddressSet.decode, read]
  exact congrArg _ s.ofList_toList

end AddressSet

namespace AddressMap

variable {α : Type}

lemma place_last {a : Address} {v : α} {es : List (Address × α)} (last : ∀ e ∈ es, e.1 < a) :
    place a v es = es ++ [(a, v)] := by
  induction es with
  | nil => rfl
  | cons e es ih =>
    rw [List.forall_mem_cons] at last
    rw [place, if_neg (Address.lt_asymm last.1), if_neg (Address.ne_of_lt last.1).symm, ih last.2]
    rfl

/-- The entries of a table in their order make up that table. -/
lemma ofList_entries (m : AddressMap α) : ofList m.entries = m := by
  have grow : ∀ (es : List (Address × α)) (m : AddressMap α),
      (m.entries ++ es).Pairwise (·.1 < ·.1) →
      (es.foldl (fun m e => m.insert e.1 e.2) m).entries = m.entries ++ es := by
    intro es
    induction es with
    | nil => simp
    | cons e es ih =>
      intro m sorted
      have last : (m.insert e.1 e.2).entries = m.entries ++ [e] :=
        place_last fun e' he' => (List.pairwise_append.mp sorted).2.2 e' he' e (by simp)
      rw [List.foldl_cons, ih _ (by simpa [last] using sorted), last, List.append_assoc]
      rfl
  have same : (ofList m.entries).entries = m.entries := grow m.entries empty m.sorted
  cases h : ofList m.entries
  cases m
  simp_all

lemma decode_toJson {d : Decoder α} {f : α → Value} (h : ∀ a, d (f a).tree = .ok a)
    (m : AddressMap α) : AddressMap.decode d (m.toJson f).tree = .ok m := by
  have read : Json.entries Address.decodeName d (m.toJson f).tree = .ok m.entries :=
    entries_tree Address.decodeName_render fun e _ => h e.2
  rw [AddressMap.decode, read]
  exact congrArg _ m.ofList_entries

end AddressMap

end Quorum
