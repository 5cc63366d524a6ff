import Quorum.Command.Arguments
import Quorum.Server

/-!
# The program

A run of the program on a disk: from the words of the command line to what is printed and the exit
code. The code is zero for success, one for a command that failed and two for words that make up no
command.
-/

namespace Quorum

open Command (Failure Stop Invocation)

/-- What a run printed, and its exit code. -/
structure Ending where
  code : Nat
  out : String
  err : String
deriving DecidableEq

/-- How a run goes on after the words are read and carried out. -/
inductive Outcome where
  | ended (ending : Ending)
  /-- Requests are served from here on, with the lock held. -/
  | serving (server : Server) (out : String)

namespace Program

/-- Lines as they are printed. -/
def printed (lines : List String) : String :=
  String.join (lines.map (· ++ "\n"))

/-- The end of a run that printed some lines before it failed. -/
def failed (lines : List String) (cause : Failure) : Ending :=
  ⟨1, printed lines, printed ["Error: " ++ cause.dump]⟩

/-- The end of a run whose words make up no command. -/
def stopped : Stop → Ending
  | .misuse =>
    ⟨2, "", printed ["error: the arguments do not fit", "",
      "Usage: " ++ Command.programPage.usage, "", "For more information, try '--help'."]⟩
  | .help lines => ⟨0, printed lines, ""⟩
  | .version => ⟨0, printed [Command.programName ++ " 0.1.0"], ""⟩

/-! ### Serving -/

/-- The line that is printed before the ledger is read. -/
def loadingLine : String := "📂 Loading ledger..."

/-- The lines that tell what is served where. -/
def servingLines (server : Server) (portNumber : Nat) : List String :=
  let wallet := server.wallet
  [loadingLine,
   "   " ++ wallet.ledger.owners.description ++ " wallet at " ++ wallet.address.render,
   s!"🚀 REST API server starting on http://localhost:{portNumber}",
   "",
   "📖 Available endpoints:",
   "   GET  /health                                 - Health check",
   "   GET  /api/ledger                             - Ledger info",
   "   GET  /api/events                             - Audit log",
   "   POST /api/deposit                            - Fund the wallet",
   "   GET  /api/transactions                       - List transactions",
   "   GET  /api/transactions/pending               - Pending transactions",
   "   GET  /api/transactions/\x7bindex\x7d               - Get transaction",
   "   GET  /api/transactions/\x7bindex\x7d/confirmations - Confirming owners",
   "   POST /api/transactions                       - Submit (signed)",
   "   POST /api/transactions/\x7bindex\x7d/confirm       - Confirm (signed)",
   "   POST /api/transactions/\x7bindex\x7d/revoke        - Revoke (signed)",
   ""]

/-- Takes the lock and loads the ledger to be served; the lock is kept unless that fails. -/
def serve (env : Environment) (dataDir : Path) (portNumber : Nat) (d : Disk) : Outcome × Disk :=
  match (Lock.acquire env.processes dataDir).mapError .storage d with
  | (.error e, d) => (.ended (failed [] e), d)
  | (.ok (), d) =>
    match Workspace.findLedger dataDir d with
    | (.error e, d) => (.ended (failed [] e), Lock.release dataDir d)
    | (.ok storage, d) =>
      match Server.start storage d with
      | .error e => (.ended (failed [loadingLine] (.storage e)), Lock.release dataDir d)
      | .ok server => (.serving server (printed (servingLines server portNumber)), d)

/-! ### Running -/

/-- Carries out what is asked for. -/
def carryOut (env : Environment) (i : Invocation) (d : Disk) : Outcome × Disk :=
  match i.task with
  | .serve portNumber => serve env i.dataDir portNumber d
  | .command c =>
    match c.run env i.dataDir d with
    | (.error e, d) => (.ended (failed [] e), d)
    | (.ok lines, d) => (.ended ⟨0, printed lines, ""⟩, d)

/-- Reads the words of a command line and carries out what they ask for. -/
def run (env : Environment) (words : List String) (d : Disk) : Outcome × Disk :=
  match Command.readInvocation words with
  | .error stop => (.ended (stopped stop), d)
  | .ok i => carryOut env i d

end Program

end Quorum
