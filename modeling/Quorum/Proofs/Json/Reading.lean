import Quorum.Json.Reader
import Quorum.Json.Value
import Quorum.Proofs.Text.Digits

/-!
# Written values are read

A text is the tokens of a value, with white space anywhere between them. From every such text, of
which the form in one line and the indented form are two, the reader gets the tree of the value.
-/

namespace Quorum.Json

open Text (digits isDigit)

/-! ### Tokens -/

namespace Value

mutual

/-- The tokens of a value, in the order in which they are written. -/
def tokens : Value → List (List Char)
  | .null => [['n', 'u', 'l', 'l']]
  | .flag true => [['t', 'r', 'u', 'e']]
  | .flag false => [['f', 'a', 'l', 's', 'e']]
  | .natural n => [digits n]
  | .text s => [string s]
  | .array [] => [['['], [']']]
  | .array (v :: vs) => ['['] :: (tokens v ++ itemTokens vs)
  | .object [] => [['\x7b'], ['\x7d']]
  | .object ((k, v) :: ms) => ['\x7b'] :: string k :: [':'] :: (tokens v ++ memberTokens ms)

/-- The tokens after the first item of an array. -/
def itemTokens : List Value → List (List Char)
  | [] => [[']']]
  | v :: vs => [','] :: (tokens v ++ itemTokens vs)

/-- The tokens after the first member of an object. -/
def memberTokens : List (String × Value) → List (List Char)
  | [] => [['\x7d']]
  | (k, v) :: ms => [','] :: string k :: [':'] :: (tokens v ++ memberTokens ms)

end

mutual

/-- What a text of the value holds. -/
def tree : Value → Tree
  | .null => .null
  | .flag b => .flag b
  | .natural n => .number ⟨false, digits n, none, none⟩
  | .text s => .text (some s)
  | .array vs => .array (itemTrees vs) true
  | .object ms => .object (memberTrees ms) true

def itemTrees : List Value → List Tree
  | [] => []
  | v :: vs => tree v :: itemTrees vs

def memberTrees : List (String × Value) → List (Option String × Tree)
  | [] => []
  | (k, v) :: ms => (some k, tree v) :: memberTrees ms

end

end Value

/-- Tokens one after the other, with white space anywhere between and around them. -/
inductive Spaced : List (List Char) → List Char → Prop
  | done {gap : List Char} (blank : ∀ c ∈ gap, isSpace c = true) : Spaced [] gap
  | token {gap t : List Char} {ts : List (List Char)} {cs : List Char}
      (blank : ∀ c ∈ gap, isSpace c = true) (rest : Spaced ts cs) :
      Spaced (t :: ts) (gap ++ (t ++ cs))

/-- What follows a value: nothing, or a token that goes on with what the value is in. -/
def Ends (ts : List (List Char)) : Prop :=
  ∀ t ∈ ts.head?, ∃ c ∈ [',', ']', '\x7d'], t = [c]

/-- A text that does not go on with a number before it. -/
def EndsNumber (cs : List Char) : Prop :=
  ∀ c ∈ cs.head?, isDigit c = false ∧ c ≠ '.' ∧ c ≠ 'e' ∧ c ≠ 'E'

variable {cs rest t : List Char} {ts : List (List Char)} {c : Char} {n : Nat}

lemma skipSpace_append {gap : List Char} (blank : ∀ c ∈ gap, isSpace c = true) :
    skipSpace (gap ++ cs) = skipSpace cs := by
  induction gap with
  | nil => rfl
  | cons c gap ih =>
    rw [List.forall_mem_cons] at blank
    rw [List.cons_append, skipSpace, List.dropWhile_cons_of_pos blank.1]
    exact ih blank.2

/-- The reader finds the next token, and after it what the others are spaced over. -/
lemma Spaced.skipSpace_eq (h : Spaced ((c :: t) :: ts) cs) (hc : isSpace c = false) :
    ∃ rest, Spaced ts rest ∧ skipSpace cs = c :: (t ++ rest) := by
  cases h with
  | token blank rest =>
    refine ⟨_, rest, ?_⟩
    rw [skipSpace_append blank, List.cons_append, skipSpace,
      List.dropWhile_cons_of_neg (by simp [hc])]

lemma Spaced.skipSpace_mark (h : Spaced ([c] :: ts) cs) (hc : isSpace c = false) :
    ∃ rest, Spaced ts rest ∧ skipSpace cs = c :: rest :=
  h.skipSpace_eq hc

/-- White space that is read over may as well be missing. -/
lemma Spaced.skip (h : Spaced ((c :: t) :: ts) cs) (hc : isSpace c = false) :
    Spaced ((c :: t) :: ts) (skipSpace cs) := by
  obtain ⟨rest, spaced, found⟩ := h.skipSpace_eq hc
  have bare : Spaced ((c :: t) :: ts) ([] ++ (c :: t ++ rest)) := .token (by simp) spaced
  rwa [found]

lemma Spaced.endsNumber (h : Spaced ts cs) (ends : Ends ts) : EndsNumber cs := by
  have space : ∀ c, isSpace c = true → isDigit c = false ∧ c ≠ '.' ∧ c ≠ 'e' ∧ c ≠ 'E' := by
    intro c hc
    simp only [isSpace, Bool.or_eq_true, decide_eq_true_eq] at hc
    rcases hc with ((rfl | rfl) | rfl) | rfl <;> decide
  intro c first
  cases h with
  | @done gap blank => exact space c (blank c (List.mem_of_mem_head? first))
  | @token gap t ts cs blank rest =>
    cases gap with
    | cons g gap =>
      cases first
      exact space c (blank c (by simp))
    | nil =>
      obtain ⟨mark, among, rfl⟩ := ends t rfl
      cases first
      simp only [List.mem_cons, List.not_mem_nil, or_false] at among
      rcases among with rfl | rfl | rfl <;> decide

/-! ### Numbers -/

lemma takeWhile_digits (h : EndsNumber rest) :
    (digits n ++ rest).takeWhile isDigit = digits n := by
  rw [List.takeWhile_append_of_pos fun c => Text.isDigit_of_mem_digits]
  cases rest with
  | nil => simp
  | cons c rest => simp [(h c rfl).1]

lemma dropWhile_digits (h : EndsNumber rest) : (digits n ++ rest).dropWhile isDigit = rest := by
  rw [List.dropWhile_append_of_pos fun c => Text.isDigit_of_mem_digits]
  cases rest with
  | nil => rfl
  | cons c rest => simp [(h c rfl).1]

lemma wholePart?_digits (h : EndsNumber rest) :
    wholePart? (digits n ++ rest) = some (digits n, rest) := by
  have run : digitRun? (digits n ++ rest) = some (digits n, rest) := by
    rw [digitRun?, takeWhile_digits h, dropWhile_digits h]
    split
    · rename_i none
      exact absurd none (Text.digits_ne_nil n)
    · rfl
  have plain : ¬ ((digits n).head? = some '0' ∧ 1 < (digits n).length) :=
    fun h => Text.head?_digits_ne_zero h.2 h.1
  simp [wholePart?, run, plain]

/-- The digits of a number are read as that number. -/
lemma number?_digits (h : EndsNumber rest) :
    number? (digits n ++ rest) = some (⟨false, digits n, none, none⟩, rest) := by
  have sign : ∀ r, digits n ++ rest ≠ '-' :: r := by
    intro r eq
    obtain ⟨d, ds, digits_eq, digit⟩ := Text.exists_digits_eq_cons n
    rw [digits_eq] at eq
    cases eq
    exact absurd digit (by decide)
  have fraction : fractionPart? rest = some (none, rest) := by
    unfold fractionPart?
    split
    · exact absurd rfl (h '.' rfl).2.1
    · rfl
  have exponent : exponentPart? rest = some (none, rest) := by
    unfold exponentPart?
    split
    · exact absurd rfl (h 'e' rfl).2.2.1
    · exact absurd rfl (h 'E' rfl).2.2.2
    · rfl
  unfold number?
  split
  rename_i negative r split_eq
  have unsigned : (negative, r) = (false, digits n ++ rest) := by
    rw [← split_eq]
    split
    · exact absurd ‹_› (sign _)
    · rfl
  cases unsigned
  simp [wholePart?_digits h, fraction, exponent]

/-! ### Strings -/

/-- The piece that a written character is read as. -/
def pieceOf (c : Char) : Piece :=
  if c = '"' ∨ c = '\\' ∨ c = '\x08' ∨ c = '\t' ∨ c = '\n' ∨ c = '\x0c' ∨ c = '\r' then .plain c
  else if c.toNat < 0x20 then .unit c.toNat
  else .plain c

lemma hexValue?_digitChar : ∀ n < 16, hexValue? (Nat.digitChar n) = some n := by
  decide

lemma pieces?_escape (c : Char) (cs : List Char) :
    pieces? (Value.escape c ++ cs) = (pieces? cs).map fun p => (pieceOf c :: p.1, p.2) := by
  by_cases short : c = '"' ∨ c = '\\' ∨ c = '\x08' ∨ c = '\t' ∨ c = '\n' ∨ c = '\x0c' ∨ c = '\r'
  · rcases short with rfl | rfl | rfl | rfl | rfl | rfl | rfl <;> rfl
  · obtain ⟨quote, backslash, b, t, n, f, r⟩ := by simpa only [not_or] using short
    rw [Value.escape, if_neg quote, if_neg backslash, if_neg b, if_neg t, if_neg n, if_neg f,
      if_neg r, pieceOf, if_neg short]
    by_cases control : c.toNat < 0x20
    · have high : hexValue? (Nat.digitChar (c.toNat / 16)) = some (c.toNat / 16) :=
        hexValue?_digitChar _ (by omega)
      have low : hexValue? (Nat.digitChar (c.toNat % 16)) = some (c.toNat % 16) :=
        hexValue?_digitChar _ (by omega)
      have zero : hexValue? '0' = some 0 := rfl
      have unit : unit? '0' '0' (Nat.digitChar (c.toNat / 16)) (Nat.digitChar (c.toNat % 16))
          = some c.toNat := by
        simp only [unit?, zero, high, low, Option.bind_eq_bind, Option.bind_some]
        congr 1
        omega
      rw [if_pos control, if_pos control]
      simp only [Value.twoHexDigits, List.cons_append, List.nil_append, pieces?, unit]
    · rw [if_neg control, if_neg control, List.singleton_append]
      have plain : ¬ (c = '\\' ∨ c.toNat < 0x20) := by simp [backslash, control]
      generalize tail : pieces? cs = p
      unfold pieces?
      split
      case h_5 eq =>
        cases eq
        rw [if_neg plain, tail]
      all_goals simp_all

lemma assemble?_pieceOf (cs : List Char) : assemble? (cs.map pieceOf) = some cs := by
  induction cs with
  | nil => rfl
  | cons c cs ih =>
    rw [List.map_cons, pieceOf]
    split
    · rw [assemble?, ih]
      rfl
    · split
      · rename_i control
        have plain : c.toNat < 0xd800 ∨ 0xdfff < c.toNat := by omega
        unfold assemble?
        rw [if_pos plain, ih, Option.map_some, Char.ofNat_toNat]
      · rw [assemble?, ih]
        rfl

lemma pieces?_string (cs rest : List Char) :
    pieces? (cs.flatMap Value.escape ++ '"' :: rest) = some (cs.map pieceOf, rest) := by
  induction cs with
  | nil => simp [pieces?]
  | cons c cs ih =>
    rw [List.flatMap_cons, List.append_assoc, pieces?_escape, ih]
    rfl

/-- A written string is read as that string. -/
lemma string?_string (s : String) (rest : List Char) :
    string? (s.toList.flatMap Value.escape ++ '"' :: rest) = some (some s, rest) := by
  simp [string?, pieces?_string, assemble?_pieceOf]

/-! ### Values without parts -/

lemma string_append (s : String) (rest : List Char) :
    Value.string s ++ rest = '"' :: (s.toList.flatMap Value.escape ++ '"' :: rest) := by
  simp [Value.string]

/-- A written string after its opening quote. -/
lemma string?_name (s : String) (rest : List Char) :
    string? (s.toList.flatMap Value.escape ++ ['"'] ++ rest) = some (some s, rest) := by
  rw [List.append_assoc]
  exact string?_string s rest

lemma scalar_string (s : String) (rest : List Char) :
    scalar (Value.string s ++ rest) = (.text (some s), some rest) := by
  have read := string?_string s rest
  rw [string_append]
  simp only [scalar, read]

lemma scalar_digits (h : EndsNumber rest) :
    scalar (digits n ++ rest) = (.number ⟨false, digits n, none, none⟩, some rest) := by
  have read := number?_digits (n := n) h
  obtain ⟨d, ds, digits_eq, digit⟩ := Text.exists_digits_eq_cons n
  rw [digits_eq] at read ⊢
  unfold scalar
  split
  case h_5 => rw [read]; rfl
  all_goals
    rename_i eq
    cases eq
    exact absurd digit (by decide)

/-- What stands between brackets is not read as a value without parts. -/
lemma value_of_scalar {fuel : Nat} (found : skipSpace cs = c :: t) (array : c ≠ '[')
    (object : c ≠ '\x7b') : value (fuel + 1) cs = scalar (c :: t) := by
  rw [value, found]
  split
  · rename_i eq
    cases eq
    exact absurd rfl array
  · rename_i eq
    cases eq
    exact absurd rfl object
  · rfl

/-! ### Values with parts -/

section

variable {fuel : Nat} {first : Bool} {v : Tree} {name : Option String}

/-- An item in front of the rest of an array. -/
def consItem (v : Tree) (r : Read (List Tree × Bool)) : Read (List Tree × Bool) :=
  ((v :: r.1.1, r.1.2), r.2)

/-- A member in front of the rest of an object. -/
def consMember (name : Option String) (v : Tree) (r : Read (List (Option String × Tree) × Bool)) :
    Read (List (Option String × Tree) × Bool) :=
  (((name, v) :: r.1.1, r.1.2), r.2)

lemma value_of_bracket (found : skipSpace cs = '[' :: t) :
    value (fuel + 1) cs =
      (.array (items fuel true t).1.1 (items fuel true t).1.2, (items fuel true t).2) := by
  simp [value, found]

lemma value_of_brace (found : skipSpace cs = '\x7b' :: t) :
    value (fuel + 1) cs =
      (.object (members fuel true t).1.1 (members fuel true t).1.2, (members fuel true t).2) := by
  simp [value, found]

lemma items_close (found : skipSpace cs = ']' :: t) :
    items (fuel + 1) first cs = (([], true), some t) := by
  simp [items, found]

lemma items_comma (found : skipSpace cs = ',' :: t) (read : value fuel t = (v, some rest)) :
    items (fuel + 1) false cs = consItem v (items fuel false rest) := by
  simp [items, found, read, consItem]

lemma items_first (found : skipSpace cs = c :: t) (close : c ≠ ']') (comma : c ≠ ',')
    (read : value fuel (c :: t) = (v, some rest)) :
    items (fuel + 1) true cs = consItem v (items fuel false rest) := by
  simp [items, found, read, consItem, close, comma]

lemma members_close (found : skipSpace cs = '\x7d' :: t) :
    members (fuel + 1) first cs = (([], true), some t) := by
  simp [members, found]

lemma members_comma {cs₁ cs₂ cs₃ : List Char} (found : skipSpace cs = ',' :: t)
    (quote : skipSpace t = '"' :: cs₁) (named : string? cs₁ = some (name, cs₂))
    (colon : skipSpace cs₂ = ':' :: cs₃) (read : value fuel cs₃ = (v, some rest)) :
    members (fuel + 1) false cs = consMember name v (members fuel false rest) := by
  simp [members, found, quote, named, colon, read, consMember]

lemma members_first {cs₁ cs₂ cs₃ : List Char} (quote : skipSpace cs = '"' :: cs₁)
    (named : string? cs₁ = some (name, cs₂)) (colon : skipSpace cs₂ = ':' :: cs₃)
    (read : value fuel cs₃ = (v, some rest)) :
    members (fuel + 1) true cs = consMember name v (members fuel false rest) := by
  have again : skipSpace ('"' :: cs₁) = '"' :: cs₁ := rfl
  simp [members, quote, again, named, colon, read, consMember]

end

/-! ### From tokens to trees -/

lemma isSpace_of_isDigit (digit : isDigit c = true) : isSpace c = false := by
  simp only [isSpace, Bool.or_eq_false_iff, decide_eq_false_iff_not]
  refine ⟨⟨⟨?_, ?_⟩, ?_⟩, ?_⟩ <;> (rintro rfl; exact absurd digit (by decide))

/-- No value starts with white space or with what closes or continues an array. -/
lemma Value.tokens_start (v : Value) :
    ∃ c t ts, v.tokens = (c :: t) :: ts ∧ isSpace c = false ∧ c ≠ ']' ∧ c ≠ ',' := by
  cases v with
  | null => exact ⟨_, _, _, rfl, by decide⟩
  | flag b => cases b <;> exact ⟨_, _, _, rfl, by decide⟩
  | natural n =>
    obtain ⟨d, ds, digits_eq, digit⟩ := Text.exists_digits_eq_cons n
    refine ⟨d, ds, [], by rw [tokens, digits_eq], isSpace_of_isDigit digit, ?_, ?_⟩ <;>
      (rintro rfl; exact absurd digit (by decide))
  | text s => exact ⟨_, _, _, rfl, by decide⟩
  | array vs => cases vs <;> exact ⟨_, _, _, rfl, by decide⟩
  | object ms => cases ms <;> exact ⟨_, _, _, rfl, by decide⟩

/-- The reader looks at the first character of a value before it reads the value. -/
lemma Spaced.skip_value {v : Value} (h : Spaced (v.tokens ++ ts) cs) :
    ∃ c t, skipSpace cs = c :: t ∧ c ≠ ']' ∧ c ≠ ',' ∧ Spaced (v.tokens ++ ts) (c :: t) := by
  obtain ⟨c, t, us, start, space, close, comma⟩ := v.tokens_start
  rw [start, List.cons_append] at h ⊢
  obtain ⟨rest, _, found⟩ := h.skipSpace_eq space
  exact ⟨c, t ++ rest, found, close, comma, found ▸ h.skip space⟩

lemma ends_itemTokens (vs : List Value) (ts : List (List Char)) :
    Ends (Value.itemTokens vs ++ ts) := by
  cases vs <;> simp [Value.itemTokens, Ends]

lemma ends_memberTokens (ms : List (String × Value)) (ts : List (List Char)) :
    Ends (Value.memberTokens ms ++ ts) := by
  cases ms <;> simp [Value.memberTokens, Ends]

/-- A value of one token is read where that token is. -/
lemma value_of_token {fuel : Nat} {v : Tree} (enough : 0 < fuel) (h : Spaced ((c :: t) :: ts) cs)
    (hc : isSpace c = false) (array : c ≠ '[') (object : c ≠ '\x7b')
    (read : ∀ rest, Spaced ts rest → scalar (c :: (t ++ rest)) = (v, some rest)) :
    ∃ rest, Spaced ts rest ∧ value fuel cs = (v, some rest) := by
  obtain ⟨rest, spaced, found⟩ := h.skipSpace_eq hc
  obtain ⟨fuel, rfl⟩ := Nat.exists_eq_succ_of_ne_zero (Nat.ne_of_gt enough)
  exact ⟨rest, spaced, (value_of_scalar found array object).trans (read rest spaced)⟩

mutual

/-- Where the tokens of a value are, its tree is read. -/
theorem value_tokens (v : Value) {fuel : Nat} {ts : List (List Char)} {cs : List Char}
    (enough : 2 * v.tokens.length ≤ fuel) (h : Spaced (v.tokens ++ ts) cs) (ends : Ends ts) :
    ∃ rest, Spaced ts rest ∧ value fuel cs = (v.tree, some rest) := by
  match v with
  | .null =>
    simp only [Value.tokens, List.length_singleton, List.singleton_append] at enough h
    exact value_of_token (by omega) h rfl (by decide) (by decide) fun _ _ => rfl
  | .flag true =>
    simp only [Value.tokens, List.length_singleton, List.singleton_append] at enough h
    exact value_of_token (by omega) h rfl (by decide) (by decide) fun _ _ => rfl
  | .flag false =>
    simp only [Value.tokens, List.length_singleton, List.singleton_append] at enough h
    exact value_of_token (by omega) h rfl (by decide) (by decide) fun _ _ => rfl
  | .natural n =>
    simp only [Value.tokens, List.length_singleton, List.singleton_append] at enough h
    obtain ⟨d, ds, digits_eq, digit⟩ := Text.exists_digits_eq_cons n
    have read : ∀ rest, Spaced ts rest →
        scalar (d :: (ds ++ rest)) = (Value.tree (.natural n), some rest) := by
      intro rest spaced
      rw [← List.cons_append, ← digits_eq]
      exact scalar_digits (spaced.endsNumber ends)
    rw [digits_eq] at h
    refine value_of_token (by omega) h (isSpace_of_isDigit digit) ?_ ?_ read <;>
      (rintro rfl; exact absurd digit (by decide))
  | .text s =>
    simp only [Value.tokens, List.length_singleton, List.singleton_append] at enough h
    exact value_of_token (by omega) h rfl (by decide) (by decide) fun rest _ => scalar_string s rest
  | .array [] =>
    simp only [Value.tokens, List.length_cons, List.length_nil, List.cons_append,
      List.nil_append] at enough h
    obtain ⟨rest, spaced, found⟩ := h.skipSpace_mark rfl
    obtain ⟨rest, spaced, close⟩ := spaced.skipSpace_mark rfl
    obtain ⟨fuel, rfl⟩ := Nat.exists_eq_add_of_le' (show 2 ≤ fuel by omega)
    refine ⟨rest, spaced, ?_⟩
    rw [value_of_bracket found, items_close close]
    rfl
  | .array (v :: vs) =>
    simp only [Value.tokens, List.length_cons, List.length_append, List.cons_append,
      List.append_assoc] at enough h
    obtain ⟨rest, spaced, found⟩ := h.skipSpace_mark rfl
    obtain ⟨fuel, rfl⟩ := Nat.exists_eq_add_of_le' (show 2 ≤ fuel by omega)
    obtain ⟨c, t, first, close, comma, spaced⟩ := spaced.skip_value
    obtain ⟨rest, spaced, read⟩ :=
      value_tokens v (show _ ≤ fuel by omega) spaced (ends_itemTokens vs ts)
    obtain ⟨rest, spaced, more⟩ := items_tokens vs (show _ ≤ fuel by omega) spaced
    refine ⟨rest, spaced, ?_⟩
    rw [value_of_bracket found, items_first first close comma read, more]
    rfl
  | .object [] =>
    simp only [Value.tokens, List.length_cons, List.length_nil, List.cons_append,
      List.nil_append] at enough h
    obtain ⟨rest, spaced, found⟩ := h.skipSpace_mark rfl
    obtain ⟨rest, spaced, close⟩ := spaced.skipSpace_mark rfl
    obtain ⟨fuel, rfl⟩ := Nat.exists_eq_add_of_le' (show 2 ≤ fuel by omega)
    refine ⟨rest, spaced, ?_⟩
    rw [value_of_brace found, members_close close]
    rfl
  | .object ((k, v) :: ms) =>
    simp only [Value.tokens, List.length_cons, List.length_append, List.cons_append,
      List.append_assoc] at enough h
    obtain ⟨rest, spaced, found⟩ := h.skipSpace_mark rfl
    obtain ⟨fuel, rfl⟩ := Nat.exists_eq_add_of_le' (show 2 ≤ fuel by omega)
    obtain ⟨rest, spaced, quote⟩ := spaced.skipSpace_eq rfl
    obtain ⟨_, spaced, colon⟩ := spaced.skipSpace_mark rfl
    obtain ⟨rest, spaced, read⟩ :=
      value_tokens v (show _ ≤ fuel by omega) spaced (ends_memberTokens ms ts)
    obtain ⟨rest, spaced, more⟩ := members_tokens ms (show _ ≤ fuel by omega) spaced
    refine ⟨rest, spaced, ?_⟩
    rw [value_of_brace found, members_first quote (string?_name k _) colon read, more]
    rfl

theorem items_tokens (vs : List Value) {fuel : Nat} {ts : List (List Char)} {cs : List Char}
    (enough : 2 * (Value.itemTokens vs).length ≤ fuel)
    (h : Spaced (Value.itemTokens vs ++ ts) cs) :
    ∃ rest, Spaced ts rest ∧ items fuel false cs = ((Value.itemTrees vs, true), some rest) := by
  match vs with
  | [] =>
    simp only [Value.itemTokens, List.length_singleton, List.singleton_append] at enough h
    obtain ⟨rest, spaced, found⟩ := h.skipSpace_mark rfl
    obtain ⟨fuel, rfl⟩ := Nat.exists_eq_add_of_le' (show 1 ≤ fuel by omega)
    exact ⟨rest, spaced, items_close found⟩
  | v :: vs =>
    simp only [Value.itemTokens, List.length_cons, List.length_append, List.cons_append,
      List.append_assoc] at enough h
    obtain ⟨rest, spaced, found⟩ := h.skipSpace_mark rfl
    obtain ⟨fuel, rfl⟩ := Nat.exists_eq_add_of_le' (show 1 ≤ fuel by omega)
    obtain ⟨rest, spaced, read⟩ :=
      value_tokens v (show _ ≤ fuel by omega) spaced (ends_itemTokens vs ts)
    obtain ⟨rest, spaced, more⟩ := items_tokens vs (show _ ≤ fuel by omega) spaced
    refine ⟨rest, spaced, ?_⟩
    rw [items_comma found read, more]
    rfl

theorem members_tokens (ms : List (String × Value)) {fuel : Nat} {ts : List (List Char)}
    {cs : List Char} (enough : 2 * (Value.memberTokens ms).length ≤ fuel)
    (h : Spaced (Value.memberTokens ms ++ ts) cs) :
    ∃ rest, Spaced ts rest ∧
      members fuel false cs = ((Value.memberTrees ms, true), some rest) := by
  match ms with
  | [] =>
    simp only [Value.memberTokens, List.length_singleton, List.singleton_append] at enough h
    obtain ⟨rest, spaced, found⟩ := h.skipSpace_mark rfl
    obtain ⟨fuel, rfl⟩ := Nat.exists_eq_add_of_le' (show 1 ≤ fuel by omega)
    exact ⟨rest, spaced, members_close found⟩
  | (k, v) :: ms =>
    simp only [Value.memberTokens, List.length_cons, List.length_append, List.cons_append,
      List.append_assoc] at enough h
    obtain ⟨rest, spaced, found⟩ := h.skipSpace_mark rfl
    obtain ⟨fuel, rfl⟩ := Nat.exists_eq_add_of_le' (show 1 ≤ fuel by omega)
    obtain ⟨_, spaced, quote⟩ := spaced.skipSpace_eq rfl
    obtain ⟨_, spaced, colon⟩ := spaced.skipSpace_mark rfl
    obtain ⟨rest, spaced, read⟩ :=
      value_tokens v (show _ ≤ fuel by omega) spaced (ends_memberTokens ms ts)
    obtain ⟨rest, spaced, more⟩ := members_tokens ms (show _ ≤ fuel by omega) spaced
    refine ⟨rest, spaced, ?_⟩
    rw [members_comma found quote (string?_name k _) colon read, more]
    rfl

end

/-! ### Whole texts -/

lemma Spaced.length_le (h : Spaced ts cs) (nonempty : ∀ t ∈ ts, t ≠ []) :
    ts.length ≤ cs.length := by
  induction h with
  | done => simp
  | token blank rest ih =>
    rw [List.forall_mem_cons] at nonempty
    have pos := List.length_pos_iff.mpr nonempty.1
    have shorter := ih nonempty.2
    simp only [List.length_cons, List.length_append]
    omega

namespace Value

mutual

lemma tokens_nonempty (v : Value) : ∀ t ∈ v.tokens, t ≠ [] := by
  match v with
  | .null | .flag true | .flag false | .natural _ | .text _ | .array [] | .object [] =>
    simp [tokens, string]
  | .array (v :: vs) =>
    have item := tokens_nonempty v
    have rest := itemTokens_nonempty vs
    simp only [tokens, List.mem_cons, List.mem_append]
    rintro t (rfl | ht | ht)
    · simp
    · exact item t ht
    · exact rest t ht
  | .object ((k, v) :: ms) =>
    have member := tokens_nonempty v
    have rest := memberTokens_nonempty ms
    simp only [tokens, List.mem_cons, List.mem_append]
    rintro t (rfl | rfl | rfl | ht | ht)
    · simp
    · simp [string]
    · simp
    · exact member t ht
    · exact rest t ht

lemma itemTokens_nonempty (vs : List Value) : ∀ t ∈ itemTokens vs, t ≠ [] := by
  match vs with
  | [] => simp [itemTokens]
  | v :: vs =>
    have item := tokens_nonempty v
    have rest := itemTokens_nonempty vs
    simp only [itemTokens, List.mem_cons, List.mem_append]
    rintro t (rfl | ht | ht)
    · simp
    · exact item t ht
    · exact rest t ht

lemma memberTokens_nonempty (ms : List (String × Value)) : ∀ t ∈ memberTokens ms, t ≠ [] := by
  match ms with
  | [] => simp [memberTokens]
  | (k, v) :: ms =>
    have member := tokens_nonempty v
    have rest := memberTokens_nonempty ms
    simp only [memberTokens, List.mem_cons, List.mem_append]
    rintro t (rfl | rfl | rfl | ht | ht)
    · simp
    · simp [string]
    · simp
    · exact member t ht
    · exact rest t ht

end

end Value

/-- A text that spaces the tokens of a value holds just that value. -/
theorem Document.ofText_of_spaced {v : Value} {s : String} (h : Spaced v.tokens s.toList) :
    Document.ofText s = ⟨v.tree, true⟩ := by
  have enough := h.length_le v.tokens_nonempty
  rw [← List.append_nil v.tokens] at h
  have fuel : 2 * v.tokens.length ≤ 2 * s.toList.length + 2 := by omega
  obtain ⟨rest, spaced, read⟩ := value_tokens v fuel h (by simp [Ends])
  have ended : skipSpace rest = [] := by
    cases spaced with
    | done blank =>
      rw [← List.append_nil rest, skipSpace_append blank]
      rfl
  simp [Document.ofText, read, ended]

end Quorum.Json
