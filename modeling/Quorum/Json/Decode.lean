import Quorum.Amount
import Quorum.Json.Number
import Quorum.Json.Reader
import Quorum.Text.Quoted

/-!
# From JSON to typed values

A decoder walks a tree in text order and reports the first problem it meets, whether the text stops
being JSON there or holds something else than is wanted.
-/

namespace Quorum.Json

/-- A step from a value to one of its parts. -/
inductive Step where
  | field (name : String)
  | item (index : Nat)
deriving DecidableEq, Repr

/-- The first thing that is wrong with a text. -/
inductive Problem where
  /-- The text is not JSON. -/
  | syntactic
  /-- A value is not what is wanted; `path` leads to it. -/
  | content (path : List Step) (message : String)
deriving DecidableEq, Repr

/-- The same problem, seen from a value that the given step leads down from. -/
def Problem.under (step : Step) : Problem → Problem
  | .syntactic => .syntactic
  | .content path message => .content (step :: path) message

/-- A path in text form: names joined by points, and indices in brackets. -/
def pathText : List Step → String
  | [] => ""
  | .field name :: rest => name ++ tail rest
  | .item index :: rest => s!"[{index}]" ++ tail rest
where
  /-- The steps after the first. -/
  tail : List Step → String
    | [] => ""
    | .field name :: rest => "." ++ name ++ tail rest
    | .item index :: rest => s!"[{index}]" ++ tail rest

abbrev Decoder (α : Type) := Tree → Except Problem α

/-- Something else is wanted than what is there. -/
def refuse {α : Type} (message : String) : Except Problem α :=
  .error (.content [] message)

/-! ### Values without parts -/

/-- The kind of a value, as error texts show it. -/
def describe : Decoder String
  | .broken => .error .syntactic
  | .null => .ok "null"
  | .flag value => .ok s!"boolean `{value}`"
  | .number n => (n.quantity?.map Quantity.describe).elim (.error .syntactic) .ok
  | .text none => .error .syntactic
  | .text (some s) => .ok ("string " ++ Text.quoted s)
  | .array .. => .ok "sequence"
  | .object .. => .ok "map"

/-- Refuses a value of another kind than the wanted one. -/
def mismatch {α : Type} (wanted : String) (t : Tree) : Except Problem α :=
  match describe t with
  | .error p => .error p
  | .ok what => refuse s!"invalid type: {what}, expected {wanted}"

/-- A string, described as wanted. -/
def textAs (wanted : String) : Decoder String
  | .text (some s) => .ok s
  | t => mismatch wanted t

def text : Decoder String :=
  textAs "a string"

def flag : Decoder Bool
  | .flag b => .ok b
  | t => mismatch "a boolean" t

/-- An integer below `2 ^ 64`, described as wanted. -/
def wordAs (wanted : String) : Decoder UInt64
  | .number n =>
    match n.quantity? with
    | some (.natural value) => .ok (UInt64.ofNat value)
    | some (.negative value) => refuse s!"invalid value: integer `-{value}`, expected {wanted}"
    | _ => mismatch wanted (.number n)
  | t => mismatch wanted t

/-- A number that counts requests or records. -/
def word : Decoder UInt64 :=
  wordAs "u64"

/-- A number that counts or indexes things held in memory. -/
def size : Decoder UInt64 :=
  wordAs "usize"

/-- An amount, which must be written in plain digits. -/
def amount : Decoder Amount
  | .number ⟨false, whole, none, none⟩ =>
    (Amount.ofNat? (Text.digitsValue whole)).elim (.error .syntactic) .ok
  | _ => .error .syntactic

/-- A string, described as wanted, that denotes something; with the reason if it does not. -/
def parsedAs {ε α : Type} (wanted : String) (parse : String → Except ε α)
    (message : ε → String) : Decoder α := fun t =>
  match textAs wanted t with
  | .error p => .error p
  | .ok s =>
    match parse s with
    | .ok a => .ok a
    | .error e => refuse (message e)

/-- A string that denotes something, with the reason if it does not. -/
def parsed {ε α : Type} (parse : String → Except ε α) (message : ε → String) : Decoder α :=
  parsedAs "a string" parse message

/-! ### Values with parts -/

/-- A value that may be `null`. -/
def optional {α : Type} (d : Decoder α) : Decoder (Option α)
  | .null => .ok none
  | t => (d t).map some

/-- Items one after the other, the first at position `index`. -/
def itemsFrom {α : Type} (d : Decoder α) (closed : Bool) (index : Nat) :
    List Tree → Except Problem (List α)
  | [] => if closed then .ok [] else .error .syntactic
  | t :: ts =>
    match d t with
    | .error p => .error (p.under (.item index))
    | .ok a => (itemsFrom d closed (index + 1) ts).map (a :: ·)

def list {α : Type} (d : Decoder α) : Decoder (List α)
  | .array items closed => itemsFrom d closed 0 items
  | t => mismatch "a sequence" t

/-- Members one after the other, each with its name read as a key. -/
def entriesFrom {κ α : Type} (key : String → Except Problem κ) (d : Decoder α) (closed : Bool) :
    List (Option String × Tree) → Except Problem (List (κ × α))
  | [] => if closed then .ok [] else .error .syntactic
  | (none, _) :: _ => .error .syntactic
  | (some name, t) :: ms =>
    match key name with
    | .error p => .error p
    | .ok k =>
      match d t with
      | .error p => .error (p.under (.field name))
      | .ok a => (entriesFrom key d closed ms).map ((k, a) :: ·)

/-- A table in text order. -/
def entries {κ α : Type} (key : String → Except Problem κ) (d : Decoder α) :
    Decoder (List (κ × α))
  | .object members closed => entriesFrom key d closed members
  | t => mismatch "a map" t

/-! ### Records

A record is an object with named fields, or an array of the fields in order. Its fields are
gathered in a draft; what the draft lacks is judged at the end. -/

/-- What a record looks like. -/
structure Shape where
  /-- The name of the record, with its kind. -/
  what : String
  fields : List String
  /-- How many of the fields an array must hold; those after have defaults. -/
  needed : Nat := fields.length

/-- How an array of the fields is described. -/
def Shape.arrayForm (s : Shape) : String :=
  let plural := if s.fields.length = 1 then "" else "s"
  s!"{s.what} with {s.fields.length} element{plural}"

/-- Takes in the members of an object; `seen` lists the fields that were there already. -/
def Shape.takeMembers {δ : Type} (s : Shape) (set : Nat → Tree → δ → Except Problem δ)
    (closed : Bool) (seen : List Nat) (draft : δ) :
    List (Option String × Tree) → Except Problem δ
  | [] => if closed then .ok draft else .error .syntactic
  | (none, _) :: _ => .error .syntactic
  | (some name, t) :: ms =>
    match s.fields.idxOf? name with
    | none => if t.isWhole then s.takeMembers set closed seen draft ms else .error .syntactic
    | some i =>
      if i ∈ seen then refuse s!"duplicate field `{name}`"
      else
        match set i t draft with
        | .error p => .error (p.under (.field name))
        | .ok draft => s.takeMembers set closed (i :: seen) draft ms

/-- Takes in the items of an array, the first of which is the field numbered `index`. -/
def Shape.takeItems {δ : Type} (s : Shape) (set : Nat → Tree → δ → Except Problem δ)
    (closed : Bool) (index : Nat) (draft : δ) : List Tree → Except Problem δ
  | [] =>
    if !closed then .error .syntactic
    else if index < s.needed then
      let form := s.arrayForm
      refuse s!"invalid length {index}, expected {form}"
    else .ok draft
  | t :: ts =>
    if s.fields.length ≤ index then .error .syntactic
    else
      match set index t draft with
      | .error p => .error (p.under (.item index))
      | .ok draft => s.takeItems set closed (index + 1) draft ts

/-- A record: `set` puts a field into the draft and `finish` makes the value of the draft. -/
def record {δ α : Type} (s : Shape) (start : δ) (set : Nat → Tree → δ → Except Problem δ)
    (finish : δ → Except Problem α) : Decoder α
  | .object members closed => s.takeMembers set closed [] start members >>= finish
  | .array items closed => s.takeItems set closed 0 start items >>= finish
  | t => mismatch s.what t

theorem exists_of_bind_eq_ok {α β : Type} {a? : Except Problem α} {f : α → Except Problem β}
    {b : β} (h : a? >>= f = .ok b) : ∃ a, a? = .ok a ∧ f a = .ok b := by
  cases a? with
  | error p => cases h
  | ok a => exact ⟨a, rfl, h⟩

/-- A record that was read is what its draft makes up. -/
theorem exists_finish_of_record {δ α : Type} {s : Shape} {start : δ}
    {set : Nat → Tree → δ → Except Problem δ} {finish : δ → Except Problem α} {t : Tree} {a : α}
    (h : record s start set finish t = .ok a) : ∃ draft, finish draft = .ok a := by
  cases t with
  | object members closed =>
    obtain ⟨draft, _, h⟩ := exists_of_bind_eq_ok h
    exact ⟨draft, h⟩
  | array items closed =>
    obtain ⟨draft, _, h⟩ := exists_of_bind_eq_ok h
    exact ⟨draft, h⟩
  | _ =>
    simp only [record, mismatch] at h
    split at h <;> cases h

/-- A field that must be there. -/
def need {α : Type} (name : String) : Option α → Except Problem α
  | some a => .ok a
  | none => refuse s!"missing field `{name}`"

/-! ### Alternatives -/

/-- An object of one member, whose name tells which alternative its value is. -/
def alternative {α : Type} (names : List String) (content : String → Decoder α) : Decoder α
  | .text none => .error .syntactic
  | .text (some name) =>
    if name ∈ names then refuse "invalid type: unit variant, expected struct variant"
    else unknown name
  | .object ((some name, t) :: rest) closed =>
    if name ∈ names then
      match content name t with
      | .error p => .error (p.under (.field name))
      | .ok a => if rest.isEmpty ∧ closed then .ok a else .error .syntactic
    else unknown name
  | _ => .error .syntactic
where
  /-- Refuses a name that is none of those expected. -/
  unknown (name : String) : Except Problem α :=
    let list := ", ".intercalate (names.map fun n => "`" ++ n ++ "`")
    refuse ("unknown variant `" ++ name ++ "`, expected one of " ++ list)

/-! ### Texts -/

/-- Reads a text that holds one value and nothing else. -/
def decodeText {α : Type} (d : Decoder α) (s : String) : Except Problem α :=
  let doc := Document.ofText s
  match d doc.tree with
  | .error p => .error p
  | .ok a => if doc.ended then .ok a else .error .syntactic

/-- The text of a problem for people: what was wrong, without where. -/
def Problem.message : Problem → String
  | .syntactic => "<syntax>"
  | .content _ message => message

end Quorum.Json
