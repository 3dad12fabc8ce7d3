import BridgeLedger.Cluster

/-!
# Throwaway databases

A throwaway database is created beside another one, used, and dropped again, whatever became of it in between: also
when its tables could not be created. It is left over only if the statement that drops it fails.
-/

namespace BridgeLedger

namespace Throwaway

inductive Kind where
  | empty
  | provisioned
deriving DecidableEq, Repr

inductive Outcome where
  | failed (cluster : Cluster)
  /-- The database was made by sending `created`, which made it one of `databases`; it was used, and then dropped by
  sending `dropped`. -/
  | finished (created : List Sent) (databases : Nat) (reports : List (Report Reply)) (dropped : List Sent)
      (cluster : Cluster)

def Outcome.cluster : Outcome → Cluster
  | failed cluster => cluster
  | finished _ _ _ _ cluster => cluster

def databaseName (tag : String) : String := "deposit_ledger_test_" ++ tag

def create (cluster : Cluster) (admin name : String) : Except ServerError Unit × List Sent × Cluster :=
  match cluster.administer admin s!"DROP DATABASE IF EXISTS {name}" fun c => .ok (c.dropDatabase name) with
  | (.error cause, sent, cluster) => (.error cause, sent, cluster)
  | (.ok (), dropped, cluster) =>
    let (answer, created, cluster) :=
      cluster.administer admin s!"CREATE DATABASE {name}" fun c => c.createDatabase name
    (answer, dropped ++ created, cluster)

/-- Drops the database, with whatever connections it still has. A failure is not an error. -/
def discard (cluster : Cluster) (admin name : String) : List Sent × Cluster :=
  let (_, sent, cluster) :=
    cluster.administer admin s!"DROP DATABASE IF EXISTS {name} WITH (FORCE)" fun c => .ok (c.dropDatabase name)
  (sent, cluster)

def finish (cluster : Cluster) (admin name : String) (created : List Sent) (steps : List Step) : Outcome :=
  let databases := cluster.databases.length
  let (reports, cluster) := cluster.visit name fun server =>
    let (reports, session) := Session.run { server } steps
    (reports, session.server)
  let (dropped, cluster) := discard cluster admin name
  .finished created databases reports dropped cluster

def use (kind : Kind) (cluster : Cluster) (admin name : String) (steps : List Step) : Outcome :=
  match create cluster admin name with
  | (.error _, _, cluster) => .failed cluster
  | (.ok (), created, cluster) =>
    match kind with
    | .empty => finish cluster admin name created steps
    | .provisioned =>
      match cluster.provision name with
      | ({ answer := .error _, .. }, cluster) => .failed (discard cluster admin name).2
      | ({ answer := .ok (), sent, .. }, cluster) => finish cluster admin name (created ++ sent) steps

end Throwaway

end BridgeLedger
