import BridgeLedger.Record

/-!
# The tables of the ledger

A table keeps its rows in the order of insertion, beside the key that its next row takes. An insertion takes that key
first, and a row that is then refused has still used it up; so keys tell the order of insertion but may leave gaps.
Nothing here changes or removes a row.
-/

namespace BridgeLedger

structure Table (ρ : Type) where
  rows : List ρ := []
  nextKey : Int := 1
deriving DecidableEq, Repr

def maxKey : Int := 2147483647

/-- Inserts the row that `row` makes of the next key, unless the keys are used up or the row clashes with another. -/
def Table.insert {ρ : Type} (t : Table ρ) (clash : ρ → ρ → Bool) (row : Int → ρ) : Except SqlState Int × Table ρ :=
  if maxKey < t.nextKey then (.error .sequenceExhausted, t)
  else if t.rows.any (clash (row t.nextKey)) then (.error .uniqueViolation, { t with nextKey := t.nextKey + 1 })
  else (.ok t.nextKey, { rows := t.rows ++ [row t.nextKey], nextKey := t.nextKey + 1 })

def Table.select {ρ : Type} (t : Table ρ) (key : ρ → Int) (p : ρ → Bool) : List ρ :=
  (t.rows.filter p).mergeSort fun a b => key a ≤ key b

/-! ## The database -/

inductive TableName where
  | version | depositRequests | moveTxs | withdrawalSigs
deriving DecidableEq, Repr

def TableName.text : TableName → String
  | version => "version"
  | depositRequests => "new_deposit_requests"
  | moveTxs => "deposit_move_txs"
  | withdrawalSigs => "withdrawal_sigs"

/-- The four tables, each of which may be missing. The version table lists the versions of the schema that were
recorded; a sound ledger has one. -/
structure Database where
  versions : Option (List Int) := none
  depositRequests : Option (Table DepositRequest) := none
  moveTxs : Option (Table MoveTx) := none
  withdrawalSigs : Option (Table WithdrawalSig) := none
deriving DecidableEq, Repr

namespace Database

def has (db : Database) : TableName → Bool
  | .version => db.versions.isSome
  | .depositRequests => db.depositRequests.isSome
  | .moveTxs => db.moveTxs.isSome
  | .withdrawalSigs => db.withdrawalSigs.isSome

def createMissing (db : Database) : Database where
  versions := some (db.versions.getD [])
  depositRequests := some (db.depositRequests.getD {})
  moveTxs := some (db.moveTxs.getD {})
  withdrawalSigs := some (db.withdrawalSigs.getD {})

def drop (db : Database) : TableName → Database
  | .version => { db with versions := none }
  | .depositRequests => { db with depositRequests := none }
  | .moveTxs => { db with moveTxs := none }
  | .withdrawalSigs => { db with withdrawalSigs := none }

def setNextKey (db : Database) (key : Int) : TableName → Database
  | .version => db
  | .depositRequests => { db with depositRequests := db.depositRequests.map ({ · with nextKey := key }) }
  | .moveTxs => { db with moveTxs := db.moveTxs.map ({ · with nextKey := key }) }
  | .withdrawalSigs => { db with withdrawalSigs := db.withdrawalSigs.map ({ · with nextKey := key }) }

end Database

/-! ## Collections -/

/-- A kind of row: its table, its key, and when two rows may not stand together, which rows with one key never may. -/
structure Collection (ρ : Type) where
  name : TableName
  table : Database → Option (Table ρ)
  withTable : Database → Table ρ → Database
  key : ρ → Int
  clash : ρ → ρ → Bool
  has_name : ∀ db, db.has name = (table db).isSome := by intro db; rfl
  table_withTable : ∀ db t, table (withTable db t) = some t := by intro db t; rfl
  clash_of_key : ∀ a b, key a = key b → clash a b = true := by intro a b h; simp_all
  clash_comm : ∀ a b, clash a b = clash b a := by intro a b; simp [BEq.comm]

def depositRequests : Collection DepositRequest where
  name := .depositRequests
  table := Database.depositRequests
  withTable db t := { db with depositRequests := some t }
  key := DepositRequest.id
  clash a b := a.id == b.id

def moveTxs : Collection MoveTx where
  name := .moveTxs
  table := Database.moveTxs
  withTable db t := { db with moveTxs := some t }
  key := MoveTx.id
  clash a b := a.id == b.id || a.moveTxid == b.moveTxid

def withdrawalSigs : Collection WithdrawalSig where
  name := .withdrawalSigs
  table := Database.withdrawalSigs
  withTable db t := { db with withdrawalSigs := some t }
  key := WithdrawalSig.idx
  clash a b := a.idx == b.idx

@[simp] theorem depositRequests_table (db : Database) : depositRequests.table db = db.depositRequests := rfl

@[simp] theorem moveTxs_table (db : Database) : moveTxs.table db = db.moveTxs := rfl

@[simp] theorem withdrawalSigs_table (db : Database) : withdrawalSigs.table db = db.withdrawalSigs := rfl

@[simp] theorem depositRequests_withTable (db : Database) (t : Table DepositRequest) :
    depositRequests.withTable db t = { db with depositRequests := some t } := rfl

@[simp] theorem moveTxs_withTable (db : Database) (t : Table MoveTx) :
    moveTxs.withTable db t = { db with moveTxs := some t } := rfl

@[simp] theorem withdrawalSigs_withTable (db : Database) (t : Table WithdrawalSig) :
    withdrawalSigs.withTable db t = { db with withdrawalSigs := some t } := rfl

end BridgeLedger
