import BridgeLedger.FileTree
import BridgeLedger.LogLevel
import BridgeLedger.Quoted
import BridgeLedger.Toml.Document

/-!
# Settings

The settings are read from a TOML document. Its entries are taken in the order in which they appear: a known key must
not come a second time and must have a value of its kind, and any other key is ignored. Only when all entries were
taken is the one mandatory key missed. So the first entry that is wrong decides which error is reported, and a
repeated key is reported as such whatever its value.

The document is read from a file, by default the file `config.toml` in the directory `.deposit_ledger` in the user's
home.
-/

namespace BridgeLedger

namespace Settings

inductive Key where
  | postgresUri | dataDir | logLevel | logToFile
deriving DecidableEq, Repr

namespace Key

def all : List Key := [postgresUri, dataDir, logLevel, logToFile]

def name : Key → String
  | postgresUri => "postgres_uri"
  | dataDir => "data_dir"
  | logLevel => "log_level"
  | logToFile => "log_to_file"

def ofName? (name : String) : Option Key := all.find? fun key => key.name == name

def expected : Key → String
  | postgresUri => "a string"
  | dataDir => "path string"
  | logLevel => "a string"
  | logToFile => "a boolean"

end Key

end Settings

/-- The settings as they were given. The address of the server is never empty. -/
structure Settings where
  postgresUri : String
  dataDir : Option String := none
  logLevel : Option String := none
  logToFile : Option Bool := none
deriving DecidableEq, Repr

/-! ## What can go wrong -/

def Toml.Item.kind : Toml.Item → String
  | .value (.string text) => "string " ++ quoted text
  | .value (.boolean b) => s!"boolean `{b}`"
  | .value (.integer n) => s!"integer `{n}`"
  | .value (.float x) => "floating point `" ++ x.text ++ "`"
  | .value .date => "map"
  | .value (.array _) => "sequence"
  | .value (.table _ _) => "map"
  | .sections true _ => "sequence"
  | .sections false _ => "map"

inductive DocumentError where
  | malformed
  | duplicate (key : Settings.Key)
  | wrongKind (key : Settings.Key) (kind : String)
  | missing (key : Settings.Key)
deriving DecidableEq, Repr

def DocumentError.message : DocumentError → String
  | .malformed => "<toml>"
  | .duplicate key => "duplicate field `" ++ key.name ++ "`"
  | .wrongKind key kind => s!"invalid type: {kind}, expected {key.expected} for key `{key.name}`"
  | .missing key => "missing field `" ++ key.name ++ "`"

inductive ConfigError where
  | unreadable (cause : FileError)
  | document (cause : DocumentError)
  | emptyUri
  | unknownLevel (name : String)
  | noDataDir (path : String) (cause : FileError)
  | invalidUri
deriving DecidableEq, Repr

def ConfigError.message (e : ConfigError) : String :=
  "Configuration error: " ++
    match e with
    | .unreadable cause => "Reading configuration file: " ++ cause.message
    | .document cause => "Parsing configuration file: " ++ cause.message
    | .emptyUri => "'postgres_uri' must not be empty"
    | .unknownLevel name =>
      s!"Invalid log level '{name}': attempted to convert a string that doesn't match an existing log level"
    | .noDataDir path cause => s!"Could not create data dir '{quoted path}': {cause.message}."
    | .invalidUri => "Invalid 'postgres_uri': invalid connection string"

namespace Settings

/-! ## Taking the entries -/

/-- What the entries taken so far have set. -/
structure Draft where
  postgresUri : Option String := none
  dataDir : Option String := none
  logLevel : Option String := none
  logToFile : Option Bool := none
deriving DecidableEq, Repr

namespace Draft

def has (draft : Draft) : Key → Bool
  | .postgresUri => draft.postgresUri.isSome
  | .dataDir => draft.dataDir.isSome
  | .logLevel => draft.logLevel.isSome
  | .logToFile => draft.logToFile.isSome

def set (draft : Draft) : Key → Toml.Item → Except DocumentError Draft
  | .postgresUri, .value (.string text) => .ok { draft with postgresUri := some text }
  | .dataDir, .value (.string text) => .ok { draft with dataDir := some text }
  | .logLevel, .value (.string text) => .ok { draft with logLevel := some text }
  | .logToFile, .value (.boolean value) => .ok { draft with logToFile := some value }
  | key, item => .error (.wrongKind key item.kind)

/-- Takes an entry. Sections under an unknown key are ignored, unless a table is defined twice among them. -/
def add (draft : Draft) (entry : Toml.Entry) : Except DocumentError Draft :=
  match Key.ofName? entry.key with
  | some key => if draft.has key then .error (.duplicate key) else draft.set key entry.item
  | none =>
    match entry.item with
    | .sections _ false => .error .malformed
    | _ => .ok draft

def finish (draft : Draft) : Except DocumentError Settings :=
  match draft.postgresUri with
  | none => .error (.missing .postgresUri)
  | some uri => .ok ⟨uri, draft.dataDir, draft.logLevel, draft.logToFile⟩

end Draft

def ofEntries (entries : List Toml.Entry) : Except DocumentError Settings := do
  (← entries.foldlM Draft.add {}).finish

/-! ## Reading -/

def ofText (text : String) : Except DocumentError Settings :=
  match Toml.Document.parse text.toList with
  | none => .error .malformed
  | some document => ofEntries document.entries

/-- The settings in a file of that content, which must be UTF-8. -/
def ofBytes (content : List UInt8) : Except ConfigError Settings :=
  match Utf8.decode? content with
  | none => .error (.document .malformed)
  | some text =>
    match ofText text with
    | .error cause => .error (.document cause)
    | .ok settings => if settings.postgresUri.isEmpty then .error .emptyUri else .ok settings

def defaultDirectory (home : String) : String := FileTree.join home ".deposit_ledger"

def defaultFile (home : String) : String := FileTree.join (defaultDirectory home) "config.toml"

def read (tree : FileTree) (here : Place) (path : String) : Except ConfigError Settings :=
  match tree.read here path with
  | .error cause => .error (.unreadable cause)
  | .ok content => ofBytes content

end Settings

end BridgeLedger
