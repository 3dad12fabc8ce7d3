import BridgeLedger.Operation

/-!
# Creating the tables

The tables are created in one transaction, over a connection of its own. It takes a lock that keeps other processes
out, creates what is missing, records the version of the schema if none is recorded, and reads it back. Only if
exactly the expected version is found is the transaction committed. Whatever fails before, it is rolled back, and
whatever fails at all, the database stays as it was.
-/

namespace BridgeLedger

/-- A statement of the transaction, and what it does to the transaction's copy of the database. -/
structure Stage where
  message : Sent
  effect : Database → Except LedgerError Database

namespace Stage

def simple (text : String) (effect : Database → Database) : Stage :=
  ⟨.simple text, fun db => .ok (effect db)⟩

/-- The two stages of a query, the second of which also judges its answer. -/
def query {α : Type} (query : Query α) (now : Timestamp) (judge : α → Except LedgerError Unit) : List Stage :=
  [⟨.prepare query.text, fun db =>
      if query.tables.all db.has then .ok db else .error (.server (.refused .undefinedTable))⟩,
    ⟨.execute query.text query.parameters, fun db =>
      match query.effect now db with
      | (.ok answer, db) => (judge answer).map fun () => db
      | (.error cause, _) => .error (.server cause)⟩]

end Stage

def judgeVersion (found : Int) : Except LedgerError Unit :=
  if found = schemaVersion then .ok () else .error (.wrongVersion schemaVersion found)

def schemaStages (now : Timestamp) : List Stage :=
  [.simple "START TRANSACTION" id] ++
    Stage.query lockSchema now (fun _ => .ok ()) ++
    [.simple schemaText Database.createMissing] ++
    Stage.query recordVersion now (fun _ => .ok ()) ++
    Stage.query readVersion now judgeVersion

def Line.follow (line : Line) : List Stage → Except LedgerError Unit × Line
  | [] => (.ok (), line)
  | stage :: rest =>
    match line.deliver stage.message with
    | (.error cause, line) => (.error (.server cause), line)
    | (.ok (), line) =>
      match stage.effect line.server.database with
      | .error cause => (.error cause, line)
      | .ok database => (line.withDatabase database).follow rest

/-- Runs the transaction over an open line. The end of the transaction puts the database back unless it is a commit
that succeeds. -/
def Line.createTables (line : Line) : Except LedgerError Unit × Line :=
  match line.follow (schemaStages line.server.clock) with
  | (.ok (), after) =>
    match after.deliver (.simple "COMMIT") with
    | (.ok (), committed) => (.ok (), committed)
    | (.error cause, after) => (.error (.server cause), after.withDatabase line.server.database)
  | (.error cause, after) =>
    let (_, after) := after.deliver (.simple "ROLLBACK")
    (.error cause, after.withDatabase line.server.database)

def Server.createTables (server : Server) : Report Unit × Server :=
  let (answer, line) := Line.createTables { server }
  ({ answer, log := if line.isOpen then [] else [connectionLost], sent := line.sent }, line.server)

/-- Creates the tables that are missing, unless they belong to another version of the schema. -/
def Server.provision (server : Server) : Report Unit × Server :=
  match server.accept with
  | (.error cause, server) => ({ answer := .error (.server cause) }, server)
  | (.ok (), server) => server.createTables

end BridgeLedger
