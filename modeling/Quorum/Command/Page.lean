import Quorum.Command.Switch
import Quorum.Text.Digits

/-!
# Pages

What the program can be asked for, as a table of pages: the words that lead to a command, its
purpose and its switches. Words are read by this table, and it is shown to whoever asks for help.
-/

namespace Quorum.Command

def programName : String := "multisig"

/-! ### Values -/

/-- A number that counts or indexes. -/
def readNumber? (text : String) : Option Nat :=
  Text.readBounded? UInt64.size text.toList

/-- The number of a network port, which may be a zero with a minus sign. -/
def readPortNumber? (text : String) : Option Nat :=
  match text.toList with
  | '-' :: digits => if !digits.isEmpty && digits.all (· = '0') then some 0 else none
  | cs => Text.readBounded? UInt16.size cs

/-! ### The table -/

structure Page where
  /-- The words that lead to the page. -/
  words : List String
  about : String
  switches : List Switch := []

/-- A switch with one value that must be given. -/
def needed (name : String) (letter : Char) (about : String)
    (accepts : String → Bool := fun _ => true) : Switch :=
  { name, letter := some letter, taking := .one, about, accepts, required := true }

/-- A switch with one value, which is taken to be `standard` if it is not given. -/
def standing (name : String) (letter : Char) (about standard : String)
    (accepts : String → Bool := fun _ => true) : Switch :=
  { name, letter := some letter, taking := .one, about, accepts, standard := some standard }

/-- A switch with one value that may be missing. -/
def optional (name : String) (letter : Option Char) (about : String) : Switch :=
  { name, letter, taking := .one, about }

def isNumber (text : String) : Bool :=
  (readNumber? text).isSome

/-- The page of the program itself. -/
def programPage : Page where
  words := []
  about := "An M-of-N multisig transaction ledger in Rust"
  switches :=
    [standing "data-dir" 'd' "Data directory for ledger storage" ".multisig_data" (· ≠ "")]

/-- All other pages. -/
def pages : List Page :=
  [{ words := ["init"], about := "Initialize a new ledger"
     switches :=
       [{ name := "owners", letter := some 'o', taking := .many, required := true
          about := "Owner addresses (comma-separated)" },
        needed "required" 'r' "Confirmations required to execute" isNumber,
        { name := "force", letter := none, taking := .nothing
          about := "Replace an existing ledger" }] },
   { words := ["key"], about := "Owner key operations" },
   { words := ["key", "new"], about := "Create a new owner key"
     switches := [optional "label" (some 'l') "Optional label for the key"] },
   { words := ["key", "import"], about := "Import an owner key from its hex private key"
     switches := [needed "private-key" 'p' "", optional "label" (some 'l') ""] },
   { words := ["key", "list"], about := "List all owner keys" },
   { words := ["fund"], about := "Deposit native funds into the wallet"
     switches :=
       [needed "from" 'f' "Depositor's address",
        needed "amount" 'a' "Amount in whole coins, e.g. 0.5"] },
   { words := ["submit"], about := "Propose a transaction"
     switches :=
       [needed "from" 'f' "Submitting owner's address",
        needed "to" 't' "Destination address",
        standing "value" 'v' "Value in whole coins" "0",
        optional "data" none "Hex call payload"] },
   { words := ["confirm"], about := "Confirm a transaction"
     switches :=
       [needed "from" 'f' "Confirming owner's address",
        needed "index" 'i' "Transaction index" isNumber] },
   { words := ["revoke"], about := "Revoke a confirmation"
     switches :=
       [needed "from" 'f' "Revoking owner's address",
        needed "index" 'i' "Transaction index" isNumber] },
   { words := ["show"], about := "Show a transaction"
     switches := [needed "index" 'i' "Transaction index" isNumber] },
   { words := ["pending"], about := "List pending transactions" },
   { words := ["status"], about := "Display ledger information" },
   { words := ["events"], about := "Show the audit log"
     switches := [standing "limit" 'l' "Number of events to show" "20" isNumber] },
   { words := ["restore"], about := "Restore the ledger from a backup"
     switches := [standing "backup" 'b' "Backup number, 0 is the most recent" "0" isNumber] },
   { words := ["api"], about := "REST API server" },
   { words := ["api", "start"], about := "Start the REST API server"
     switches :=
       [standing "port" 'p' "Port to listen on" "3000" fun text =>
         (readPortNumber? text).isSome] }]

/-- What a page says about the word that leads to help. -/
def aboutHelp : String := "Print this message or the help of the given subcommand(s)"

namespace Page

/-- The pages that one more word leads to. -/
def below (p : Page) : List Page :=
  pages.filter fun q => q.words.dropLast = p.words

/-- Whether more words must follow. -/
def isGroup (p : Page) : Bool :=
  !p.below.isEmpty

/-- The page that one more word leads to. -/
def next? (p : Page) (word : String) : Option Page :=
  p.below.find? (·.words = p.words ++ [word])

/-- The switches of a page with those that every page has. -/
def allSwitches (p : Page) : List Switch :=
  let help : Switch :=
    { name := "help", letter := some 'h', taking := .help, about := "Print help" }
  let version : Switch :=
    { name := "version", letter := some 'V', taking := .version, about := "Print version" }
  p.switches ++ if p.words.isEmpty then [help, version] else [help]

/-- What was given, with the standard values of what was not. -/
def complete (p : Page) (given : Given) : Given :=
  given ++ p.switches.filterMap fun s =>
    if given.has s.name then none else s.standard.map (s.name, ·)

end Page

/-! ### Help -/

/-- The name of a switch with what stands for its value. -/
def Switch.form (s : Switch) : String :=
  let value := (s.name.map fun c => if c = '-' then '_' else c).toUpper
  "--" ++ s.name ++ if s.wantsValue then s!" <{value}>" else ""

/-- The form of a switch behind its letter. -/
def Switch.label (s : Switch) : String :=
  match s.letter with
  | some c => String.ofList ['-', c, ',', ' '] ++ s.form
  | none => "    " ++ s.form

/-- What a switch is for, with its standard value. -/
def Switch.purpose (s : Switch) : String :=
  match s.standard with
  | some value => s!"{s.about} [default: {value}]"
  | none => s.about

/-- Lines of two columns. -/
def columns (rows : List (String × String)) : List String :=
  let width := (rows.map (·.1.length)).foldl max 0
  rows.map fun (left, right) =>
    "  " ++ left ++ String.ofList (List.replicate (width - left.length) ' ') ++ "  " ++ right

namespace Page

def title (p : Page) : String :=
  " ".intercalate (programName :: p.words)

/-- How the words are put together. -/
def usage (p : Page) : String :=
  let (required, others) := p.switches.partition (·.required)
  p.title ++ (if others.isEmpty then "" else " [OPTIONS]")
    ++ String.join (required.map fun s => " " ++ s.form)
    ++ if p.isGroup then " <COMMAND>" else ""

/-- The page as it is shown. -/
def lines (p : Page) : List String :=
  let commands := p.below.map (fun q => (q.words.getLast?.getD "", q.about)) ++ [("help", aboutHelp)]
  [p.about, "", "Usage: " ++ p.usage, ""]
    ++ (if p.isGroup then ["Commands:"] ++ columns commands ++ [""] else [])
    ++ ["Options:"] ++ columns (p.allSwitches.map fun s => (s.label, s.purpose))

/-- The page about the help on what one more word leads to. -/
def helpLines (p : Page) : List String :=
  [aboutHelp, "", s!"Usage: {p.title} help [COMMAND]...", "", "Arguments:"]
    ++ columns [("[COMMAND]...", "Print help for the subcommand(s)")]

end Page

end Quorum.Command
