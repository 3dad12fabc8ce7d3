import BridgeLedger.Session

/-!
# Databases side by side

A cluster is a server with several databases, one clock and one list of faults. A conversation is with one of the
databases: it sees that database as the server's only one, and leaves all others as they are.
-/

namespace BridgeLedger

structure Cluster where
  databases : List (String × Database) := []
  clock : Timestamp := ⟨0⟩
  faults : List Fault := []
deriving DecidableEq, Repr

namespace Cluster

def names (cluster : Cluster) : List String := cluster.databases.map Prod.fst

def server (cluster : Cluster) (name : String) : Server where
  database := (cluster.databases.lookup name).getD {}
  clock := cluster.clock
  faults := cluster.faults

def absorb (cluster : Cluster) (name : String) (server : Server) : Cluster where
  databases := cluster.databases.map fun entry => if entry.1 == name then (name, server.database) else entry
  clock := server.clock
  faults := server.faults

def visit {α : Type} (cluster : Cluster) (name : String) (talk : Server → α × Server) : α × Cluster :=
  let (a, server) := talk (cluster.server name)
  (a, cluster.absorb name server)

def accept (cluster : Cluster) (name : String) : Except ServerError Unit × Cluster :=
  match cluster.visit name Server.accept with
  | (.error cause, cluster) => (.error cause, cluster)
  | (.ok (), cluster) =>
    (if name ∈ cluster.names then .ok () else .error (.refused .unknownDatabase), cluster)

/-! ## Administration -/

/-- Connects to the database `admin` and sends one statement about the databases. -/
def administer (cluster : Cluster) (admin text : String) (effect : Cluster → Except SqlState Cluster) :
    Except ServerError Unit × List Sent × Cluster :=
  match cluster.accept admin with
  | (.error cause, cluster) => (.error cause, [], cluster)
  | (.ok (), cluster) =>
    match cluster.visit admin (·.send text) with
    | ((.error cause, sent), cluster) => (.error cause, sent, cluster)
    | ((.ok (), sent), cluster) =>
      match effect cluster with
      | .error code => (.error (.refused code), sent, cluster)
      | .ok cluster => (.ok (), sent, cluster)

def dropDatabase (cluster : Cluster) (name : String) : Cluster :=
  { cluster with databases := cluster.databases.filter fun entry => entry.1 != name }

def createDatabase (cluster : Cluster) (name : String) : Except SqlState Cluster :=
  if name ∈ cluster.names then .error .duplicateDatabase
  else .ok { cluster with databases := cluster.databases ++ [(name, {})] }

def provision (cluster : Cluster) (name : String) : Report Unit × Cluster :=
  match cluster.accept name with
  | (.error cause, cluster) => ({ answer := .error (.server cause) }, cluster)
  | (.ok (), cluster) => cluster.visit name Server.createTables

end Cluster

end BridgeLedger
