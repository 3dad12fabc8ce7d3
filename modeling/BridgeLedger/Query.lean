import BridgeLedger.Schema

/-!
# Queries

A query is a statement with parameters: the text that the server is sent, the tables that the text names, which must
exist when the server prepares it, and what its execution does to the database. This module holds every query of the
ledger.

One refusal is left out: once the server has taken the next key, it turns away (54000) a row with a text that is too
long for the index on its column. Here an insertion is refused only for a row that it clashes with, or for want of a
key.
-/

namespace BridgeLedger

inductive Parameter where
  | text (value : String)
  | int (value : Int)
deriving DecidableEq, Repr

structure Query (α : Type) where
  text : String
  parameters : List Parameter
  tables : List TableName
  /-- What the execution answers, and the database after it, given the server's present instant. -/
  effect : Timestamp → Database → Except ServerError α × Database

/-! ## Rows -/

def Query.insert {ρ : Type} (collection : Collection ρ) (text : String) (parameters : List Parameter)
    (row : Timestamp → Int → ρ) : Query Int where
  text
  parameters
  tables := [collection.name]
  effect now db :=
    match collection.table db with
    | none => (.error (.refused .undefinedTable), db)
    | some t =>
      let (answer, t) := t.insert collection.clash (row now)
      (answer.mapError .refused, collection.withTable db t)

def Query.rows {ρ : Type} (collection : Collection ρ) (text : String) (parameter : Parameter) (p : ρ → Bool) :
    Query (List ρ) where
  text
  parameters := [parameter]
  tables := [collection.name]
  effect _ db :=
    match collection.table db with
    | none => (.error (.refused .undefinedTable), db)
    | some t => (.ok (t.select collection.key p), db)

/-- Answers the row with the property, if there is one, and fails if there are more. -/
def Query.row? {ρ : Type} (collection : Collection ρ) (text : String) (parameter : Parameter) (p : ρ → Bool) :
    Query (Option ρ) where
  text
  parameters := [parameter]
  tables := [collection.name]
  effect _ db :=
    match collection.table db with
    | none => (.error (.refused .undefinedTable), db)
    | some t =>
      match t.rows.filter p with
      | [] => (.ok none, db)
      | [row] => (.ok (some row), db)
      | _ => (.error .rowCount, db)

/-! ## Deposit requests -/

def insertDepositRequest (startUtxo recoveryTaprootAddress evmAddress : String) : Query Int :=
  .insert depositRequests
    ("INSERT INTO new_deposit_requests (start_utxo, recovery_taproot_address, evm_address) " ++
      "VALUES ($1, $2, $3) RETURNING id")
    [.text startUtxo, .text recoveryTaprootAddress, .text evmAddress]
    fun createdAt id => { id, startUtxo, recoveryTaprootAddress, evmAddress, createdAt }

def depositRequestById (id : Int) : Query (Option DepositRequest) :=
  .row? depositRequests "SELECT * FROM new_deposit_requests WHERE id = $1" (.int id) (·.id == id)

def depositRequestsByEvmAddress (evmAddress : String) : Query (List DepositRequest) :=
  .rows depositRequests "SELECT * FROM new_deposit_requests WHERE evm_address = $1 ORDER BY id"
    (.text evmAddress) (·.evmAddress == evmAddress)

def depositRequestsByStartUtxo (startUtxo : String) : Query (List DepositRequest) :=
  .rows depositRequests "SELECT * FROM new_deposit_requests WHERE start_utxo = $1 ORDER BY id"
    (.text startUtxo) (·.startUtxo == startUtxo)

/-! ## Move transactions -/

def insertMoveTx (startUtxo recoveryTaprootAddress evmAddress moveTxid : String) : Query Int :=
  .insert moveTxs
    ("INSERT INTO deposit_move_txs (start_utxo, recovery_taproot_address, evm_address, move_txid) " ++
      "VALUES ($1, $2, $3, $4) RETURNING id")
    [.text startUtxo, .text recoveryTaprootAddress, .text evmAddress, .text moveTxid]
    fun createdAt id => { id, startUtxo, recoveryTaprootAddress, evmAddress, moveTxid, createdAt }

def moveTxById (id : Int) : Query (Option MoveTx) :=
  .row? moveTxs "SELECT * FROM deposit_move_txs WHERE id = $1" (.int id) (·.id == id)

def moveTxByTxid (moveTxid : String) : Query (Option MoveTx) :=
  .row? moveTxs "SELECT * FROM deposit_move_txs WHERE move_txid = $1" (.text moveTxid) (·.moveTxid == moveTxid)

def moveTxsByEvmAddress (evmAddress : String) : Query (List MoveTx) :=
  .rows moveTxs "SELECT * FROM deposit_move_txs WHERE evm_address = $1 ORDER BY id"
    (.text evmAddress) (·.evmAddress == evmAddress)

def moveTxsByStartUtxo (startUtxo : String) : Query (List MoveTx) :=
  .rows moveTxs "SELECT * FROM deposit_move_txs WHERE start_utxo = $1 ORDER BY id"
    (.text startUtxo) (·.startUtxo == startUtxo)

/-! ## Withdrawal signatures -/

def insertWithdrawalSig (bridgeFundTxid sig : String) : Query Int :=
  .insert withdrawalSigs "INSERT INTO withdrawal_sigs (bridge_fund_txid, sig) VALUES ($1, $2) RETURNING idx"
    [.text bridgeFundTxid, .text sig]
    fun createdAt idx => { idx, bridgeFundTxid, sig, createdAt }

def withdrawalSigByIdx (idx : Int) : Query (Option WithdrawalSig) :=
  .row? withdrawalSigs "SELECT * FROM withdrawal_sigs WHERE idx = $1" (.int idx) (·.idx == idx)

def withdrawalSigsByTxid (bridgeFundTxid : String) : Query (List WithdrawalSig) :=
  .rows withdrawalSigs "SELECT * FROM withdrawal_sigs WHERE bridge_fund_txid = $1 ORDER BY idx"
    (.text bridgeFundTxid) (·.bridgeFundTxid == bridgeFundTxid)

/-! ## The whole ledger -/

def countRows : Query Counts where
  text := "SELECT (SELECT COUNT(*) FROM new_deposit_requests), (SELECT COUNT(*) FROM deposit_move_txs), " ++
    "(SELECT COUNT(*) FROM withdrawal_sigs)"
  parameters := []
  tables := [.depositRequests, .moveTxs, .withdrawalSigs]
  effect _ db :=
    match db.depositRequests, db.moveTxs, db.withdrawalSigs with
    | some requests, some txs, some sigs =>
      (.ok { depositRequests := requests.rows.length, moveTxs := txs.rows.length, withdrawalSigs := sigs.rows.length },
        db)
    | _, _, _ => (.error (.refused .undefinedTable), db)

/-! ## Creating the tables -/

/-- The number under which processes that create the tables wait for one another. -/
def schemaLock : Int := 7234312000420541555

/-- Waits for the schema lock, which lasts as long as the transaction. -/
def lockSchema : Query Unit where
  text := "SELECT pg_advisory_xact_lock($1)"
  parameters := [.int schemaLock]
  tables := []
  effect _ db := (.ok (), db)

def recordVersion : Query Unit where
  text := "INSERT INTO version (version) SELECT $1::INTEGER WHERE NOT EXISTS (SELECT 1 FROM version)"
  parameters := [.int schemaVersion]
  tables := [.version]
  effect _ db :=
    match db.versions with
    | none => (.error (.refused .undefinedTable), db)
    | some [] => (.ok (), { db with versions := some [schemaVersion] })
    | some (_ :: _) => (.ok (), db)

def readVersion : Query Int where
  text := "SELECT version FROM version"
  parameters := []
  tables := [.version]
  effect _ db :=
    match db.versions with
    | none => (.error (.refused .undefinedTable), db)
    | some [version] => (.ok version, db)
    | some _ => (.error .rowCount, db)

end BridgeLedger
