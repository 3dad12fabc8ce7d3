import BridgeLedger.Database

/-!
# The schema

The text that creates the tables and their indexes. Each column that a record fills has a check of its own: free text
must not be empty, and hexadecimal text must match a pattern from its first character to its last (`Check.Holds`).
-/

namespace BridgeLedger

/-! ## Patterns -/

inductive Pattern where
  | oneOf (ranges : List (Char × Char))
  | times (p : Pattern) (n : Nat)

namespace Pattern

def text : Pattern → String
  | oneOf ranges => "[" ++ String.ofList (ranges.flatMap fun range => [range.1, '-', range.2]) ++ "]"
  | times p n => p.text ++ "\x7b" ++ toString n ++ "\x7d"

inductive Matches : Pattern → List Char → Prop
  | oneOf {ranges : List (Char × Char)} {c : Char} (within : ∃ range ∈ ranges, range.1 ≤ c ∧ c ≤ range.2) :
      Matches (.oneOf ranges) [c]
  | zero (p : Pattern) : Matches (.times p 0) []
  | succ {p : Pattern} {n : Nat} {first rest : List Char} (once : Matches p first) (more : Matches (.times p n) rest) :
      Matches (.times p (n + 1)) (first ++ rest)

def hexDigit : Pattern := .oneOf [('a', 'f'), ('A', 'F'), ('0', '9')]

end Pattern

/-! ## Columns -/

inductive Check where
  | notEmpty
  | hexDigits (length : Nat)

namespace Check

def text (column : String) : Check → String
  | notEmpty => column ++ " <> ''"
  | hexDigits length => column ++ " ~ '^" ++ (Pattern.times .hexDigit length).text ++ "$'"

def Holds (value : String) : Check → Prop
  | notEmpty => value ≠ ""
  | hexDigits length => (Pattern.times .hexDigit length).Matches value.toList

end Check

/-- A column that a record fills. -/
structure Column where
  name : String
  unique : Bool := false
  check : Check

namespace Column

def text (column : Column) : String :=
  column.name ++ " TEXT " ++ (if column.unique then "UNIQUE " else "") ++ "NOT NULL CHECK (" ++
    column.check.text column.name ++ ")"

def freeText (name : String) : Column := { name, check := .notEmpty }

def hex (name : String) (length : Nat) : Column := { name, check := .hexDigits length }

end Column

/-! ## Tables -/

namespace TableName

/-- The columns that a record fills, in the order in which their values are sent. -/
def columns : TableName → List Column
  | version => []
  | depositRequests => [.freeText "start_utxo", .freeText "recovery_taproot_address", .hex "evm_address" 40]
  | moveTxs =>
    [.freeText "start_utxo", .freeText "recovery_taproot_address", .hex "evm_address" 40,
      { Column.hex "move_txid" 64 with unique := true }]
  | withdrawalSigs => [.hex "bridge_fund_txid" 64, .hex "sig" 128]

def keyColumn : TableName → String
  | version => "version"
  | depositRequests | moveTxs => "id"
  | withdrawalSigs => "idx"

def columnsText : TableName → String
  | version => "    version INTEGER UNIQUE NOT NULL\n"
  | table =>
    "    " ++ table.keyColumn ++ " SERIAL PRIMARY KEY,\n" ++
      String.join (table.columns.map fun column => "    " ++ column.text ++ ",\n") ++
      "    created_at TIMESTAMP NOT NULL DEFAULT NOW()\n"

def declaration (table : TableName) : String :=
  "CREATE TABLE IF NOT EXISTS " ++ table.text ++ " (\n" ++ table.columnsText ++ ");\n"

def index (table : TableName) (name column : String) : String :=
  "CREATE INDEX IF NOT EXISTS " ++ name ++ " ON " ++ table.text ++ " (" ++ column ++ ");\n"

end TableName

/-! ## The whole schema -/

def schemaVersion : Int := 1

def schemaText : String :=
  TableName.version.declaration ++ "\n" ++ TableName.depositRequests.declaration ++ "\n" ++
    TableName.moveTxs.declaration ++ "\n" ++ TableName.withdrawalSigs.declaration ++ "\n" ++
    TableName.depositRequests.index "deposit_requests_evm_address" "evm_address" ++
    TableName.depositRequests.index "deposit_requests_start_utxo" "start_utxo" ++
    TableName.moveTxs.index "move_txs_evm_address" "evm_address" ++
    TableName.moveTxs.index "move_txs_start_utxo" "start_utxo" ++
    TableName.withdrawalSigs.index "withdrawal_sigs_bridge_fund_txid" "bridge_fund_txid"

end BridgeLedger
