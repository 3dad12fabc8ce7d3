import BridgeLedger.Provision

/-!
# Sessions

A session is a server and the one connection that its user keeps to it. A run is a list of steps: calls of the ledger,
and interventions from outside that set the clock, tamper with a table or prepare a fault.

The connection is opened when a call first needs it. If that fails, the failure is the call's answer and the next call
tries again. A connection that the server closed stays closed until the user connects anew.
-/

namespace BridgeLedger

inductive Connection where
  | absent | live | lost
deriving DecidableEq, Repr

structure Session where
  server : Server := {}
  connection : Connection := .absent
deriving DecidableEq, Repr

/-! ## Steps -/

inductive Operation where
  | recordDepositRequest (startUtxo recoveryTaprootAddress evmAddress : String)
  | recordMoveTx (startUtxo recoveryTaprootAddress evmAddress moveTxid : String)
  | recordWithdrawalSig (bridgeFundTxid sig : String)
  | depositRequest (id : Int)
  | depositRequestsFor (evmAddress : String)
  | depositRequestsSpending (startUtxo : String)
  | moveTx (id : Int)
  | moveTxWithTxid (moveTxid : String)
  | moveTxsFor (evmAddress : String)
  | moveTxsSpending (startUtxo : String)
  | withdrawalSig (idx : Int)
  | withdrawalSigsFor (bridgeFundTxid : String)
  | counts
deriving DecidableEq, Repr

/-- An intervention from outside, which always succeeds. -/
inductive Intervention where
  | setClock (now : Timestamp)
  /-- Replaces the recorded versions of the schema, creating their table if need be. -/
  | setVersions (versions : List Int)
  | setNextKey (table : TableName) (key : Int)
  | dropTable (table : TableName)
  | prepareFault (fault : Fault)
deriving DecidableEq, Repr

inductive Step where
  /-- Creates the tables, over a connection of its own. -/
  | provision
  /-- Drops the user's connection, if there is one, and opens another. -/
  | connect
  | operation (call : Operation)
  | intervention (what : Intervention)
deriving DecidableEq, Repr

inductive Reply where
  | done
  | key (key : Int)
  | depositRequest (row : Option DepositRequest)
  | depositRequests (rows : List DepositRequest)
  | moveTx (row : Option MoveTx)
  | moveTxs (rows : List MoveTx)
  | withdrawalSig (row : Option WithdrawalSig)
  | withdrawalSigs (rows : List WithdrawalSig)
  | counts (counts : Counts)
deriving DecidableEq, Repr

/-! ## Running -/

def Intervention.apply (server : Server) : Intervention → Server
  | setClock now => { server with clock := now }
  | setVersions versions => { server with database := { server.database with versions := some versions } }
  | setNextKey table key => { server with database := server.database.setNextKey key table }
  | dropTable table => { server with database := server.database.drop table }
  | prepareFault fault => { server with faults := server.faults ++ [fault] }

namespace Session

def connect (session : Session) : Except ServerError Unit × Session :=
  match session.server.accept with
  | (.error cause, server) => (.error cause, { server, connection := .absent })
  | (.ok (), server) => (.ok (), { server, connection := .live })

def carryOut {α : Type} (session : Session) (plan : Plan α) : Report α × Session :=
  let (report, line) := plan.carryOut { server := session.server, isOpen := session.connection == .live }
  (report, { server := line.server, connection := if line.isOpen then .live else .lost })

/-- Carries out the plan, opening a connection first if there is none. -/
def perform {α : Type} (session : Session) (wrap : α → Reply) (plan : Plan α) : Report Reply × Session :=
  match session.connection with
  | .absent =>
    match session.connect with
    | (.error cause, session) => ({ answer := .error (.server cause) }, session)
    | (.ok (), session) =>
      let (report, session) := session.carryOut plan
      (report.map wrap, session)
  | _ =>
    let (report, session) := session.carryOut plan
    (report.map wrap, session)

def operate (session : Session) : Operation → Report Reply × Session
  | .recordDepositRequest utxo recovery evm => session.perform .key (.recordDepositRequest utxo recovery evm)
  | .recordMoveTx utxo recovery evm txid => session.perform .key (.recordMoveTx utxo recovery evm txid)
  | .recordWithdrawalSig txid sig => session.perform .key (.recordWithdrawalSig txid sig)
  | .depositRequest id => session.perform .depositRequest (.depositRequest id)
  | .depositRequestsFor evm => session.perform .depositRequests (.depositRequestsFor evm)
  | .depositRequestsSpending utxo => session.perform .depositRequests (.depositRequestsSpending utxo)
  | .moveTx id => session.perform .moveTx (.moveTx id)
  | .moveTxWithTxid txid => session.perform .moveTx (.moveTxWithTxid txid)
  | .moveTxsFor evm => session.perform .moveTxs (.moveTxsFor evm)
  | .moveTxsSpending utxo => session.perform .moveTxs (.moveTxsSpending utxo)
  | .withdrawalSig idx => session.perform .withdrawalSig (.withdrawalSig idx)
  | .withdrawalSigsFor txid => session.perform .withdrawalSigs (.withdrawalSigsFor txid)
  | .counts => session.perform .counts .counts

def step (session : Session) : Step → Report Reply × Session
  | .provision =>
    let (report, server) := session.server.provision
    (report.map fun () => .done, { session with server })
  | .connect =>
    let (answer, session) := session.connect
    ({ answer := (answer.mapError .server).map fun () => .done }, session)
  | .operation call => session.operate call
  | .intervention what => ({ answer := .ok .done }, { session with server := what.apply session.server })

def run (session : Session) : List Step → List (Report Reply) × Session
  | [] => ([], session)
  | step :: rest =>
    let (report, session) := session.step step
    let (reports, session) := session.run rest
    (report :: reports, session)

end Session

end BridgeLedger
