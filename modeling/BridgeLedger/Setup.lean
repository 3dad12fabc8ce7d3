import BridgeLedger.Conninfo
import BridgeLedger.Settings

/-!
# Setup

Before the ledger starts, its settings are made definite: the limit on the log becomes a level, the connection string
its options, and the path of the data directory a canonical place. If nothing is there, the directory is created, for
its owner alone.

The level is judged first, the directory is created next and the connection string is read last. So a setup that fails
may leave a directory behind, but only if it knew the level.
-/

namespace BridgeLedger

structure Setup where
  dataDir : Place
  logLimit : LogLevel
  logToFile : Bool
  conninfo : Conninfo
deriving DecidableEq, Repr

def Setup.logFile (setup : Setup) : Place := setup.dataDir ++ ["log"]

inductive SetupError where
  | config (cause : ConfigError)
  | file (cause : FileError)
deriving DecidableEq, Repr

def SetupError.message : SetupError → String
  | .config cause => cause.message
  | .file cause => cause.message

/-- Creates the directory that the path names, unless the path leads to something already. -/
def FileTree.ensureDataDir (tree : FileTree) (here : Place) (path : String) : Except ConfigError Unit × FileTree :=
  if tree.exists? here path then (.ok (), tree)
  else
    let (answer, tree) := tree.makeDirectories 0o700 here path
    (answer.mapError (.noDataDir path), tree)

namespace Settings

def limit (settings : Settings) : Except ConfigError LogLevel :=
  match settings.logLevel with
  | none => .ok .info
  | some name =>
    match LogLevel.ofName? name with
    | none => .error (.unknownLevel name)
    | some level => .ok level

def dataPath (settings : Settings) (home : String) : String := settings.dataDir.getD (defaultDirectory home)

/-- The setup with the data directory at that path, which leads somewhere. -/
def settle (settings : Settings) (limit : LogLevel) (tree : FileTree) (here : Place) (path : String) :
    Except SetupError Setup :=
  match tree.canonical here path with
  | .error cause => .error (.file cause)
  | .ok dataDir =>
    match Conninfo.parse? settings.postgresUri with
    | none => .error (.config .invalidUri)
    | some conninfo => .ok ⟨dataDir, limit, settings.logToFile.getD false, conninfo⟩

/-- Makes the settings definite for the user with that home, working in the directory `here`. -/
def setUp (settings : Settings) (home : String) (here : Place) (tree : FileTree) :
    Except SetupError Setup × FileTree :=
  match settings.limit with
  | .error cause => (.error (.config cause), tree)
  | .ok limit =>
    let path := settings.dataPath home
    match tree.ensureDataDir here path with
    | (.error cause, tree) => (.error (.config cause), tree)
    | (.ok (), tree) => (settings.settle limit tree here path, tree)

end Settings

end BridgeLedger
