import BridgeLedger.Machine
import BridgeLedger.Session
import BridgeLedger.Setup

/-!
# Maintenance

The program prepares a database for the ledger and says what is in it. It goes through stages, each of which is reached
only if all before it succeeded: it understands its arguments, reads the settings, sets itself up, opens the log,
creates the tables, and counts the rows over a second connection. Then it prints a summary. A stage that fails is
complained about, and the program exits with code 1.

Names in the file tree are texts, and the user always has a home. So two complaints of the program are never due here
and are left out: that the path of the log is not valid Unicode, and that no home is known in which to look for the
settings or to put the data directory.
-/

namespace BridgeLedger

namespace Maintenance

def programName : String := "deposit_ledger"

/-- The part of the program that talks to the server, as the log names it. -/
def connectionName : String := programName ++ "::db"

structure Run where
  machine : Machine
  stdout : List String := []
  stderr : List String := []
  connections : Nat := 0
  code : Nat := 0
deriving DecidableEq

def Run.fail (run : Run) (complaints : List String) : Run :=
  { run with stderr := run.stderr ++ complaints, code := 1 }

def Run.withTree (run : Run) (tree : FileTree) : Run := { run with machine := { run.machine with tree } }

/-! ## The log -/

structure Log where
  limit : LogLevel
  /-- The place of the file; without one the lines are printed. -/
  file : Option Place
deriving DecidableEq, Repr

/-- Opens the log, which makes its file if there is none. -/
def Log.ofSetup (setup : Setup) (tree : FileTree) (here : Place) : Except FileError (Log × FileTree) :=
  if setup.logToFile then do
    let (place, tree) ← tree.openFile here setup.logFile.text
    return (⟨setup.logLimit, some place⟩, tree)
  else .ok (⟨setup.logLimit, none⟩, tree)

def Run.log (run : Run) (log : Log) (origin : String) (line : LogLine) : Run :=
  if log.limit.keeps line.level then
    let text := s!"{run.machine.now.stamp}[{origin}][{line.level.name}] {line.message}"
    match log.file with
    | none => { run with stdout := run.stdout ++ [text] }
    | some place => run.withTree (run.machine.tree.append place (text ++ "\n"))
  else run

/-! ## The database -/

/-- Opens a connection, holds a conversation over it, and logs what the conversation logs. -/
def Run.converse {α : Type} (run : Run) (log : Log) (c : Conninfo) (conversation : Server → Report α × Server) :
    Except LedgerError α × Run :=
  let (dialled, machine) := run.machine.dial c
  let run := { run with machine, connections := run.connections + 1 }
  match dialled with
  | .error cause => (.error (.server cause), run)
  | .ok () =>
    let (report, machine) := run.machine.talk c conversation
    (report.answer, report.log.foldl (fun run line => run.log log connectionName line) { run with machine })

def countTables (server : Server) : Report Counts × Server :=
  let (report, line) := Plan.counts.carryOut { server }
  (report, line.server)

def Run.initialise (run : Run) (log : Log) (c : Conninfo) : Except LedgerError Counts × Run :=
  match run.converse log c Server.createTables with
  | (.error cause, run) => (.error cause, run)
  | (.ok (), run) =>
    let run := run.log log programName ⟨.info, s!"Database is ready (schema version {schemaVersion})"⟩
    match run.converse log c countTables with
    | (.error cause, run) => (.error cause, run)
    | (.ok counts, run) => (.ok counts, run.log log programName ⟨.debug, "Ledger content: " ++ counts.text⟩)

/-! ## The stages -/

def summary (counts : Counts) : List String :=
  ["\x7b",
    s!"  \"deposit_move_txs\": {counts.moveTxs},",
    s!"  \"new_deposit_requests\": {counts.depositRequests},",
    s!"  \"schema_version\": {schemaVersion},",
    s!"  \"withdrawal_sigs\": {counts.withdrawalSigs}",
    "\x7d"]

def Run.serve (run : Run) (log : Log) (setup : Setup) : Run :=
  let run := run.log log programName ⟨.debug, s!"Using data directory '{quoted setup.dataDir.text}'"⟩
  match run.initialise log setup.conninfo with
  | (.ok counts, run) => { run with stdout := run.stdout ++ summary counts }
  | (.error cause, run) =>
    let complaint := "Error initializing the ledger: " ++ cause.message
    (run.log log programName ⟨.error, complaint⟩).fail [complaint]

def Run.prepare (run : Run) (settings : Settings) : Run :=
  match settings.setUp run.machine.home run.machine.here run.machine.tree with
  | (.error cause, tree) => (run.withTree tree).fail ["Error creating global state: " ++ cause.message]
  | (.ok setup, tree) =>
    match Log.ofSetup setup tree run.machine.here with
    | .error cause =>
      (run.withTree tree).fail ["Error setting up logger: IO Error initializing logger: " ++ cause.message]
    | .ok (log, tree) => (run.withTree tree).serve log setup

/-- The path of the file with the settings, if the arguments are understood: there are none, or they name it. -/
def settingsPath? (home : String) : List String → Option String
  | [] => some (Settings.defaultFile home)
  | ["--conf", path] => some path
  | _ => none

def run (machine : Machine) (arguments : List String) : Run :=
  let run : Run := { machine }
  match settingsPath? machine.home arguments with
  | none =>
    run.fail
      [s!"Unknown arguments '{quotedList (programName :: arguments)}'.",
        "Only '--conf <configuration file path>' is supported."]
  | some path =>
    match Settings.read machine.tree machine.here path with
    | .error cause => run.fail ["Error parsing config: " ++ cause.message]
    | .ok settings => run.prepare settings

end Maintenance

end BridgeLedger
