import Mathlib.Tactic.Lemma
import Quorum.Proofs.Json.Reading

/-!
# The forms in which values are written

The form in one line and the indented form of a value both space its tokens, so that the reader gets
its tree from either.
-/

namespace Quorum.Json

variable {ts : List (List Char)} {cs : List Char}

lemma Spaced.gap {gap : List Char} (h : Spaced ts cs) (blank : ∀ c ∈ gap, isSpace c = true) :
    Spaced ts (gap ++ cs) := by
  cases h with
  | done blank' => exact .done fun c hc => (List.mem_append.mp hc).elim (blank c) (blank' c)
  | token blank' rest =>
    rw [← List.append_assoc]
    exact .token (fun c hc => (List.mem_append.mp hc).elim (blank c) (blank' c)) rest

lemma Spaced.tight (h : Spaced ts cs) (t : List Char) : Spaced (t :: ts) (t ++ cs) := by
  have spaced : Spaced (t :: ts) ([] ++ (t ++ cs)) := .token (by simp) h
  exact spaced

namespace Value

mutual

lemma spaced_compact (v : Value) {ts : List (List Char)} {cs : List Char} (h : Spaced ts cs) :
    Spaced (v.tokens ++ ts) (v.compactChars ++ cs) := by
  match v with
  | .null | .flag true | .flag false | .natural _ | .text _ => exact h.tight _
  | .array [] => exact (h.tight [']']).tight ['[']
  | .object [] => exact (h.tight ['\x7d']).tight ['\x7b']
  | .array (v :: vs) =>
    have spaced := (spaced_compact v (spaced_compactItems vs h)).tight ['[']
    simpa [tokens, compactChars] using spaced
  | .object ((k, v) :: ms) =>
    have spaced := ((spaced_compact v (spaced_compactMembers ms h)).tight [':']).tight (string k)
    simpa [tokens, compactChars] using spaced.tight ['\x7b']

lemma spaced_compactItems (vs : List Value) {ts : List (List Char)} {cs : List Char}
    (h : Spaced ts cs) :
    Spaced (itemTokens vs ++ ts) (compactItems vs ++ cs) := by
  match vs with
  | [] => exact h.tight [']']
  | v :: vs =>
    have spaced := (spaced_compact v (spaced_compactItems vs h)).tight [',']
    simpa [itemTokens, compactItems] using spaced

lemma spaced_compactMembers (ms : List (String × Value)) {ts : List (List Char)}
    {cs : List Char} (h : Spaced ts cs) :
    Spaced (memberTokens ms ++ ts) (compactMembers ms ++ cs) := by
  match ms with
  | [] => exact h.tight ['\x7d']
  | (k, v) :: ms =>
    have spaced := ((spaced_compact v (spaced_compactMembers ms h)).tight [':']).tight (string k)
    simpa [memberTokens, compactMembers] using spaced.tight [',']

end

lemma isSpace_of_mem_newLine (level : Nat) : ∀ c ∈ newLine level, isSpace c = true := by
  intro c hc
  rcases List.mem_cons.mp hc with rfl | hc
  · rfl
  · rw [List.eq_of_mem_replicate hc]
    rfl

lemma isSpace_of_mem_blank : ∀ c ∈ [' '], isSpace c = true := by
  intro c hc
  rw [List.mem_singleton.mp hc]
  rfl

mutual

lemma spaced_pretty (v : Value) (level : Nat) {ts : List (List Char)} {cs : List Char}
    (h : Spaced ts cs) :
    Spaced (v.tokens ++ ts) (v.prettyChars level ++ cs) := by
  match v with
  | .null | .flag true | .flag false | .natural _ | .text _ => exact h.tight _
  | .array [] => exact (h.tight [']']).tight ['[']
  | .object [] => exact (h.tight ['\x7d']).tight ['\x7b']
  | .array (v :: vs) =>
    have spaced := (spaced_pretty v (level + 1) (spaced_prettyItems vs level h)).gap
      (isSpace_of_mem_newLine (level + 1))
    simpa [tokens, prettyChars] using spaced.tight ['[']
  | .object ((k, v) :: ms) =>
    have spaced := (spaced_pretty v (level + 1) (spaced_prettyMembers ms level h)).gap
      isSpace_of_mem_blank
    have named := ((spaced.tight [':']).tight (string k)).gap
      (isSpace_of_mem_newLine (level + 1))
    simpa [tokens, prettyChars] using named.tight ['\x7b']

lemma spaced_prettyItems (vs : List Value) (level : Nat) {ts : List (List Char)}
    {cs : List Char} (h : Spaced ts cs) :
    Spaced (itemTokens vs ++ ts) (prettyItems level vs ++ cs) := by
  match vs with
  | [] =>
    have spaced := (h.tight [']']).gap (isSpace_of_mem_newLine level)
    simpa [itemTokens, prettyItems] using spaced
  | v :: vs =>
    have spaced := (spaced_pretty v (level + 1) (spaced_prettyItems vs level h)).gap
      (isSpace_of_mem_newLine (level + 1))
    simpa [itemTokens, prettyItems] using spaced.tight [',']

lemma spaced_prettyMembers (ms : List (String × Value)) (level : Nat)
    {ts : List (List Char)} {cs : List Char} (h : Spaced ts cs) :
    Spaced (memberTokens ms ++ ts) (prettyMembers level ms ++ cs) := by
  match ms with
  | [] =>
    have spaced := (h.tight ['\x7d']).gap (isSpace_of_mem_newLine level)
    simpa [memberTokens, prettyMembers] using spaced
  | (k, v) :: ms =>
    have spaced := (spaced_pretty v (level + 1) (spaced_prettyMembers ms level h)).gap
      isSpace_of_mem_blank
    have named := ((spaced.tight [':']).tight (string k)).gap
      (isSpace_of_mem_newLine (level + 1))
    simpa [memberTokens, prettyMembers] using named.tight [',']

end

end Value

theorem Document.ofText_compact (v : Value) : Document.ofText v.compact = ⟨v.tree, true⟩ := by
  refine ofText_of_spaced ?_
  have none : Spaced [] [] := .done (by simp)
  simpa [Value.compact] using v.spaced_compact none

theorem Document.ofText_pretty (v : Value) : Document.ofText v.pretty = ⟨v.tree, true⟩ := by
  refine ofText_of_spaced ?_
  have none : Spaced [] [] := .done (by simp)
  simpa [Value.pretty] using v.spaced_pretty 0 none

end Quorum.Json
