import BridgeLedger.Field
import BridgeLedger.Timestamp

/-!
# Records of the ledger

The ledger keeps three collections: the deposits that users announced, the transactions that moved deposits to the
bridge, and the signatures gathered for withdrawals. Each row carries the key that the server gave it and the instant
at which it was recorded.
-/

namespace BridgeLedger

structure DepositRequest where
  id : Int
  startUtxo : String
  recoveryTaprootAddress : String
  evmAddress : String
  createdAt : Timestamp
deriving DecidableEq, Repr

/-- A transaction that moved a deposit. No two rows have the same `moveTxid`. -/
structure MoveTx where
  id : Int
  startUtxo : String
  recoveryTaprootAddress : String
  evmAddress : String
  moveTxid : String
  createdAt : Timestamp
deriving DecidableEq, Repr

structure WithdrawalSig where
  idx : Int
  bridgeFundTxid : String
  sig : String
  createdAt : Timestamp
deriving DecidableEq, Repr

structure Counts where
  depositRequests : Nat
  moveTxs : Nat
  withdrawalSigs : Nat
deriving DecidableEq, Repr

def Counts.text (counts : Counts) : String :=
  s!"LedgerCounts \x7b deposit_requests: {counts.depositRequests}, move_txs: {counts.moveTxs}, " ++
    s!"withdrawal_sigs: {counts.withdrawalSigs} \x7d"

/-! ## What can go wrong -/

/-- A five-character condition code of the server. -/
abbrev SqlState := String

def SqlState.undefinedTable : SqlState := "42P01"

def SqlState.uniqueViolation : SqlState := "23505"

def SqlState.sequenceExhausted : SqlState := "2200H"

def SqlState.unknownDatabase : SqlState := "3D000"

def SqlState.duplicateDatabase : SqlState := "42P04"

inductive ServerError where
  | refused (code : SqlState)
  | closed
  /-- A query for one row was answered with another number of rows. -/
  | rowCount
  | misconfigured
  | unreachable
  | unencrypted
  | unsendable
  /-- The server did not bind the authentication to the channel. -/
  | unauthenticated
  /-- The server allows writes and must not, or the other way round. -/
  | unfit
deriving DecidableEq, Repr

def ServerError.message : ServerError → String
  | .refused _ => "db error"
  | .closed => "connection closed"
  | .rowCount => "query returned an unexpected number of rows"
  | .misconfigured => "invalid configuration"
  | .unreachable => "error connecting to server"
  | .unencrypted => "error performing TLS handshake"
  | .unsendable => "error encoding message to server"
  | .unauthenticated => "authentication error"
  | .unfit => "error connecting to server"

def ServerError.code? : ServerError → Option SqlState
  | .refused code => some code
  | _ => none

inductive LedgerError where
  | server (cause : ServerError)
  | invalid (cause : FieldError)
  | alreadyRecorded (moveTxid : String)
  | wrongVersion (expected found : Int)
deriving DecidableEq, Repr

def LedgerError.message : LedgerError → String
  | .server cause => cause.message
  | .invalid cause => "Invalid record: " ++ cause.message
  | .alreadyRecorded moveTxid => s!"Move transaction '{moveTxid}' is already recorded"
  | .wrongVersion expected found => s!"Unexpected database version: expected {expected}, found {found}"

end BridgeLedger
