import BridgeLedger.Server

/-!
# Operations of the ledger

Before anything is sent, the arguments of an operation settle what it comes to: either its answer, or one query and
the way in which the query's outcome is reported. `Plan` says which. A record with a bad field is rejected, with a
trace in the log; a lookup of a value that no row can have finds nothing, silently. All hexadecimal arguments are
checked first and used in lower case only, so that neither uniqueness nor a lookup depends on their case.

Records are only ever added: there is no operation that changes or removes one.
-/

namespace BridgeLedger

inductive Plan (α : Type) where
  | decided (answer : Except LedgerError α) (log : List LogLine)
  /-- One query, and what the outcome of its execution means. -/
  | ask (query : Query α) (conclude : Except ServerError α → Except LedgerError α × List LogLine)

namespace Plan

def lookup {α : Type} (query : Query α) : Plan α :=
  .ask query fun outcome => (outcome.mapError .server, [])

def reject {α : Type} (record : String) (cause : FieldError) : Plan α :=
  .decided (.error (.invalid cause)) [⟨.debug, s!"Rejecting {record}: {cause.message}"⟩]

/-! ## Recording -/

/-- The normalised account address of a record that has these three fields. -/
def checkDeposit (startUtxo recoveryTaprootAddress evmAddress : String) : Except FieldError String := do
  checkText "start_utxo" startUtxo
  checkText "recovery_taproot_address" recoveryTaprootAddress
  checkEvmAddress evmAddress

def recordDepositRequest (startUtxo recoveryTaprootAddress evmAddress : String) : Plan Int :=
  match checkDeposit startUtxo recoveryTaprootAddress evmAddress with
  | .error cause => .reject "deposit request" cause
  | .ok evmAddress =>
    .ask (insertDepositRequest startUtxo recoveryTaprootAddress evmAddress) fun
      | .ok id =>
        (.ok id,
          [⟨.debug, s!"Recorded deposit request #{id} for EVM address '{evmAddress}' (start utxo '{startUtxo}')"⟩])
      | .error cause => (.error (.server cause), [])

def checkMove (startUtxo recoveryTaprootAddress evmAddress moveTxid : String) :
    Except FieldError (String × String) := do
  let evmAddress ← checkDeposit startUtxo recoveryTaprootAddress evmAddress
  let moveTxid ← checkTxid "move_txid" moveTxid
  return (evmAddress, moveTxid)

/-- Records a move transaction, once; the answer is the key of the new row. The server checks uniqueness within the
insertion, and whatever violation of it the server reports counts as a repetition. -/
def recordMoveTx (startUtxo recoveryTaprootAddress evmAddress moveTxid : String) : Plan Int :=
  match checkMove startUtxo recoveryTaprootAddress evmAddress moveTxid with
  | .error cause => .reject "move tx" cause
  | .ok (evmAddress, moveTxid) =>
    .ask (insertMoveTx startUtxo recoveryTaprootAddress evmAddress moveTxid) fun
      | .ok id => (.ok id, [⟨.debug, s!"Recorded move tx '{moveTxid}' as #{id} for EVM address '{evmAddress}'"⟩])
      | .error cause =>
        if cause = .refused .uniqueViolation then
          (.error (.alreadyRecorded moveTxid), [⟨.debug, s!"Refusing to record move tx '{moveTxid}' twice"⟩])
        else (.error (.server cause), [])

def checkWithdrawal (bridgeFundTxid sig : String) : Except FieldError (String × String) := do
  let bridgeFundTxid ← checkTxid "bridge_fund_txid" bridgeFundTxid
  let sig ← checkSignature sig
  return (bridgeFundTxid, sig)

/-- Records a signature, any number of times; the answer is the key of the new row. -/
def recordWithdrawalSig (bridgeFundTxid sig : String) : Plan Int :=
  match checkWithdrawal bridgeFundTxid sig with
  | .error cause => .reject "withdrawal signature" cause
  | .ok (bridgeFundTxid, sig) =>
    .ask (insertWithdrawalSig bridgeFundTxid sig) fun
      | .ok idx =>
        (.ok idx, [⟨.debug, s!"Recorded withdrawal signature #{idx} for bridge fund tx '{bridgeFundTxid}'"⟩])
      | .error cause => (.error (.server cause), [])

/-! ## Looking up -/

/-- A query about a value that has passed its check; of any other value there is nothing to find. -/
def lookupChecked {α κ : Type} (key : Except FieldError κ) (nothing : α) (query : κ → Query α) : Plan α :=
  match key with
  | .error _ => .decided (.ok nothing) []
  | .ok key => .lookup (query key)

def depositRequest (id : Int) : Plan (Option DepositRequest) := .lookup (depositRequestById id)

def depositRequestsFor (evmAddress : String) : Plan (List DepositRequest) :=
  .lookupChecked (checkEvmAddress evmAddress) [] depositRequestsByEvmAddress

def depositRequestsSpending (startUtxo : String) : Plan (List DepositRequest) :=
  .lookupChecked (checkText "start_utxo" startUtxo) [] fun _ => depositRequestsByStartUtxo startUtxo

def moveTx (id : Int) : Plan (Option MoveTx) := .lookup (moveTxById id)

def moveTxWithTxid (moveTxid : String) : Plan (Option MoveTx) :=
  .lookupChecked (checkTxid "move_txid" moveTxid) none moveTxByTxid

def moveTxsFor (evmAddress : String) : Plan (List MoveTx) :=
  .lookupChecked (checkEvmAddress evmAddress) [] moveTxsByEvmAddress

def moveTxsSpending (startUtxo : String) : Plan (List MoveTx) :=
  .lookupChecked (checkText "start_utxo" startUtxo) [] fun _ => moveTxsByStartUtxo startUtxo

def withdrawalSig (idx : Int) : Plan (Option WithdrawalSig) := .lookup (withdrawalSigByIdx idx)

def withdrawalSigsFor (bridgeFundTxid : String) : Plan (List WithdrawalSig) :=
  .lookupChecked (checkTxid "bridge_fund_txid" bridgeFundTxid) [] withdrawalSigsByTxid

def counts : Plan Counts := .lookup countRows

/-! ## Carrying out a plan -/

def askOver {α : Type} (query : Query α) (conclude : Except ServerError α → Except LedgerError α × List LogLine)
    (line : Line) : Except LedgerError α × List LogLine × Line :=
  match line.prepare query with
  | (.error cause, line) => (.error (.server cause), [], line)
  | (.ok (), line) =>
    let (outcome, line) := line.execute query
    let (answer, log) := conclude outcome
    (answer, log, line)

/-- Carries out the plan over the line. If the server closes the connection meanwhile, the log says so. -/
def carryOut {α : Type} (plan : Plan α) (line : Line) : Report α × Line :=
  match plan with
  | .decided answer log => ({ answer, log }, line)
  | .ask query conclude =>
    let (answer, log, after) := askOver query conclude { line with sent := [] }
    let lost := if line.isOpen && !after.isOpen then [connectionLost] else []
    ({ answer, log := lost ++ log, sent := after.sent }, after)

end Plan

end BridgeLedger
