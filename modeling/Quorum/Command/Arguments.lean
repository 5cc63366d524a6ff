import Quorum.Command
import Quorum.Command.Page

/-!
# Arguments

How the words of a command line make up a command: they lead from page to page, each with its
switches, and what the switches say becomes the command.
-/

namespace Quorum.Command

/-- Why words make up no command. -/
inductive Stop where
  /-- The words do not fit. -/
  | misuse
  /-- The words ask for help, which is given in lines. -/
  | help (lines : List String)
  /-- The words ask for the version. -/
  | version
deriving DecidableEq, Repr

/-! ### From words to a page -/

/-- What comes of an early end on a page. -/
def Page.stop (p : Page) : Halt → Stop
  | .misuse => .misuse
  | .help => .help p.lines
  | .version => .version

/-- What the words after `help` ask for. -/
def Page.stopAtHelp (p : Page) : List String → Stop
  | [] => .help p.lines
  | word :: words =>
    match p.next? word with
    | some q => q.stopAtHelp words
    | none => if word = "help" ∧ p.isGroup ∧ words.isEmpty then .help p.helpLines else .misuse

/-- Reads the words from a page on. A switch that waits for its settlement has to wait until all
that follows is read. -/
def Page.readWords (p : Page) (given : Given) (words : List String) :
    Except Stop (Page × Given) := do
  let reading ← (readSwitches p.allSwitches given none words).mapError p.stop
  let (q, given) ←
    match reading.rest with
    | [] => if p.isGroup then .error .misuse else .ok (p, reading.given)
    | word :: rest =>
      match p.next? word with
      | some q =>
        if _shorter : rest.length < words.length then q.readWords reading.given rest
        else .error .misuse
      | none => .error (if word = "help" ∧ p.isGroup then p.stopAtHelp rest else .misuse)
  let given ← (given.settle reading.waiting).mapError p.stop
  return (q, given)
termination_by words.length

/-! ### From a page to a task -/

/-- What the program is asked to do. -/
inductive Task where
  | command (c : Command)
  /-- Serve requests over the network. -/
  | serve (portNumber : Nat)
deriving DecidableEq

/-- The number of a switch. -/
def Given.number? (given : Given) (name : String) : Option UInt64 :=
  ((given.one? name).bind readNumber?).map UInt64.ofNat

/-- The task that some words lead to, unless something is missing. -/
def Task.ofGiven? (words : List String) (given : Given) : Option Task :=
  match words with
  | ["init"] => do
    let owners := given.all "owners"
    if owners.isEmpty then none
    else some (.command (.init owners (← given.number? "required") (given.has "force")))
  | ["key", "new"] => some (.command (.newKey (given.one? "label")))
  | ["key", "import"] => do
    some (.command (.importKey (← given.one? "private-key") (given.one? "label")))
  | ["key", "list"] => some (.command .listKeys)
  | ["fund"] => do some (.command (.fund (← given.one? "from") (← given.one? "amount")))
  | ["submit"] => do
    some (.command (.submit (← given.one? "from") (← given.one? "to") (← given.one? "value")
      (given.one? "data")))
  | ["confirm"] => do
    some (.command (.confirm (← given.one? "from") (← given.number? "index")))
  | ["revoke"] => do
    some (.command (.revoke (← given.one? "from") (← given.number? "index")))
  | ["show"] => do some (.command (.describe (← given.number? "index")))
  | ["pending"] => some (.command .pending)
  | ["status"] => some (.command .status)
  | ["events"] => do some (.command (.events (← given.number? "limit")))
  | ["restore"] => do some (.command (.restore (← given.number? "backup")))
  | ["api", "start"] => do some (.serve (← (given.one? "port").bind readPortNumber?))
  | _ => none

/-- A task with the data directory that it works on. -/
structure Invocation where
  dataDir : Path
  task : Task
deriving DecidableEq

/-- Reads all words of a command line. -/
def readInvocation (words : List String) : Except Stop Invocation := do
  let (page, given) ← programPage.readWords [] words
  let given := programPage.complete (page.complete given)
  match given.one? "data-dir", Task.ofGiven? page.words given with
  | some dataDir, some task => return ⟨dataDir, task⟩
  | _, _ => .error .misuse

end Quorum.Command
