/-!
# Switches

How words say what a command works with. A switch is two dashes and a name, or one dash and a
letter, which may share a word with other letters. A value stands in the next word, or in the same
word behind an equals sign or directly behind the letter; in a word of its own it does not start with
a dash.
-/

namespace Quorum.Command

/-- What a switch takes. -/
inductive Taking where
  /-- No value; given at most once. -/
  | nothing
  /-- One value; given at most once. -/
  | one
  /-- Values separated by commas; given as often as wanted. -/
  | many
  /-- No value; the reading ends here, and it is told how the command is used. -/
  | help
  /-- No value; the reading ends here, and the version is told. -/
  | version
deriving DecidableEq, Repr

structure Switch where
  name : String
  letter : Option Char
  taking : Taking
  /-- What the switch is for. -/
  about : String := ""
  /-- Whether a value will do. -/
  accepts : String → Bool := fun _ => true
  /-- Whether there is no command without the switch. -/
  required : Bool := false
  /-- The value that is taken if none is given. -/
  standard : Option String := none

/-- Whether a value goes with the switch. -/
def Switch.wantsValue (s : Switch) : Bool :=
  s.taking = .one || s.taking = .many

/-- Why the reading of switches ends early. -/
inductive Halt where
  /-- The words do not fit. -/
  | misuse
  | help
  | version
deriving DecidableEq, Repr

/-! ### What was given -/

/-- The switches that were given, each with a value, in the order of the words. -/
abbrev Given := List (String × String)

namespace Given

/-- Notes that a switch was given. -/
def note (given : Given) (s : Switch) (value : String) : Except Halt Given :=
  match s.taking with
  | .help => .error .help
  | .version => .error .version
  | .many => .ok (given ++ (value.splitOn ",").map (s.name, ·))
  | .nothing | .one =>
    if given.any (·.1 = s.name) || !s.accepts value then .error .misuse
    else .ok (given ++ [(s.name, value)])

/-- Notes a switch whose value was a word of its own. That is done only when the next switch or the
end of the words shows that the value is complete. -/
def settle (given : Given) : Option (Switch × String) → Except Halt Given
  | none => .ok given
  | some (s, value) => given.note s value

/-- The value of a switch that may be missing. -/
def one? (given : Given) (name : String) : Option String :=
  (given.find? (·.1 = name)).map (·.2)

/-- All values of a switch. -/
def all (given : Given) (name : String) : List String :=
  (given.filter (·.1 = name)).map (·.2)

def has (given : Given) (name : String) : Bool :=
  (given.one? name).isSome

/-- The value of a switch, or the standard one; none if there is neither. -/
def value? (given : Given) (s : Switch) : Option String :=
  (given.one? s.name).or s.standard

end Given

/-! ### Reading -/

/-- Reads the letters of a word. Yields the switch whose value should be the next word, if any. -/
def readLetters (switches : List Switch) (given : Given) :
    List Char → Except Halt (Given × Option Switch)
  | [] => .ok (given, none)
  | letter :: letters =>
    match switches.find? (·.letter = some letter) with
    | none => .error .misuse
    | some s =>
      if s.wantsValue then
        match letters with
        | [] => .ok (given, some s)
        | '=' :: value => (given.note s (String.ofList value)).map (·, none)
        | value => (given.note s (String.ofList value)).map (·, none)
      else
        match given.note s "" with
        | .error halt => .error halt
        | .ok given => readLetters switches given letters

/-- Reads a name, with its value behind an equals sign. Yields the switch whose value should be the
next word, if any. -/
def readName (switches : List Switch) (given : Given) (word : List Char) :
    Except Halt (Given × Option Switch) :=
  let name := String.ofList (word.takeWhile (· ≠ '='))
  match switches.find? (·.name = name), word.dropWhile (· ≠ '=') with
  | none, _ => .error .misuse
  | some s, [] =>
    if s.wantsValue then .ok (given, some s) else (given.note s "").map (·, none)
  | some s, _ :: value =>
    if s.wantsValue then (given.note s (String.ofList value)).map (·, none) else .error .misuse

/-- What a word says that has to do with switches. -/
inductive Word where
  | name (name : List Char)
  | letters (letters : List Char)
  /-- Two dashes alone: no switches follow. -/
  | finish
  /-- The word names no switch. -/
  | plain

def Word.ofText (text : String) : Word :=
  match text.toList with
  | ['-', '-'] => .finish
  | '-' :: '-' :: rest => .name rest
  | '-' :: first :: rest => .letters (first :: rest)
  | _ => .plain

/-- Whether a word may be a value: it does not start with a dash, or is nothing else. -/
def mayBeValue (text : String) : Bool :=
  match Word.ofText text with
  | .plain => true
  | _ => false

/-- What the reading of switches comes to. -/
structure Reading where
  given : Given
  /-- A switch, with its value, that is yet to be settled. -/
  waiting : Option (Switch × String)
  /-- The first word that is no part of a switch, and those after it. -/
  rest : List String

/-- Reads switches up to the first word that is none. -/
def readSwitches (switches : List Switch) (given : Given) (waiting : Option (Switch × String)) :
    List String → Except Halt Reading
  | [] => .ok ⟨given, waiting, []⟩
  | word :: words =>
    let read (reader : Given → Except Halt (Given × Option Switch)) : Except Halt Reading :=
      match given.settle waiting >>= reader, words with
      | .error halt, _ => .error halt
      | .ok (given, none), words => readSwitches switches given none words
      | .ok (_, some _), [] => .error .misuse
      | .ok (given, some s), value :: words =>
        if mayBeValue value then readSwitches switches given (some (s, value)) words
        else .error .misuse
    match Word.ofText word with
    | .plain => .ok ⟨given, waiting, word :: words⟩
    | .finish => if words.isEmpty then .ok ⟨given, waiting, []⟩ else .error .misuse
    | .name name => read (readName switches · name)
    | .letters letters => read (readLetters switches · letters)

end Quorum.Command
