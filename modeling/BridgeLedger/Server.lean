import BridgeLedger.LogLevel
import BridgeLedger.Occurrence
import BridgeLedger.Query

/-!
# Conversations with the server

The server holds one database, a clock, and the faults that are still to happen. A fault waits for an event of its
kind: the first that fits either is answered with an error, or ends the connection. Everything else of a conversation
goes through one operation, `Line.deliver`: a message on a lost connection is not sent at all; any other is sent,
and then the oldest fault that fits it strikes.

A query is delivered twice, first to be prepared and then to be executed, and it has no effect before both deliveries
have succeeded.
-/

namespace BridgeLedger

/-! ## Messages and faults -/

/-- What reaches the server: the wish to connect, a statement without parameters, or one with parameters that is
prepared or executed. -/
inductive EventKind where
  | connect | simple | prepare | execute
deriving DecidableEq, Repr

inductive Sent where
  | simple (text : String)
  | prepare (text : String)
  | execute (text : String) (parameters : List Parameter)
deriving DecidableEq, Repr

def Sent.kind : Sent → EventKind
  | simple _ => .simple
  | prepare _ => .prepare
  | execute _ _ => .execute

def Sent.text : Sent → String
  | simple text => text
  | prepare text => text
  | execute text _ => text

/-- A fault that is still to happen, at an event whose text contains `pattern`. The server answers the code, or closes
the connection if there is none. -/
structure Fault where
  kind : EventKind
  code : Option SqlState := none
  pattern : String := ""
deriving DecidableEq, Repr

def Fault.fits (kind : EventKind) (text : String) (fault : Fault) : Bool :=
  fault.kind == kind && occursIn fault.pattern.toList text.toList

def Fault.error (fault : Fault) : ServerError :=
  match fault.code with
  | some code => .refused code
  | none => .closed

/-! ## The server -/

structure Server where
  database : Database := {}
  clock : Timestamp := ⟨0⟩
  faults : List Fault := []
deriving DecidableEq, Repr

/-- The oldest fault that fits the event, and the server without it. -/
def Server.strike (server : Server) (kind : EventKind) (text : String) : Option Fault × Server :=
  (server.faults.find? (Fault.fits kind text), { server with faults := server.faults.eraseP (Fault.fits kind text) })

def Server.accept (server : Server) : Except ServerError Unit × Server :=
  match server.strike .connect "" with
  | (some fault, server) => (.error fault.error, server)
  | (none, server) => (.ok (), server)

/-! ## One conversation -/

structure Line where
  server : Server
  isOpen : Bool := true
  sent : List Sent := []
deriving DecidableEq, Repr

namespace Line

/-- Sends a statement, which either reaches the server unharmed or meets a fault. -/
def deliver (line : Line) (message : Sent) : Except ServerError Unit × Line :=
  if line.isOpen then
    let sent := line.sent ++ [message]
    match line.server.strike message.kind message.text with
    | (some fault, server) => (.error fault.error, { server, isOpen := fault.code.isSome, sent })
    | (none, server) => (.ok (), { server, isOpen := true, sent })
  else (.error .closed, line)

def withDatabase (line : Line) (database : Database) : Line :=
  { line with server := { line.server with database } }

/-- Has the query prepared, for which the server must know all its tables. -/
def prepare {α : Type} (line : Line) (query : Query α) : Except ServerError Unit × Line :=
  match line.deliver (.prepare query.text) with
  | (.error cause, line) => (.error cause, line)
  | (.ok (), line) =>
    (if query.tables.all line.server.database.has then .ok () else .error (.refused .undefinedTable), line)

def execute {α : Type} (line : Line) (query : Query α) : Except ServerError α × Line :=
  match line.deliver (.execute query.text query.parameters) with
  | (.error cause, line) => (.error cause, line)
  | (.ok (), line) =>
    let (answer, database) := query.effect line.server.clock line.server.database
    (answer, line.withDatabase database)

end Line

/-- Sends one statement over a connection that was just opened; the answer comes with what was sent. -/
def Server.send (server : Server) (text : String) : (Except ServerError Unit × List Sent) × Server :=
  let (answer, line) := Line.deliver { server } (.simple text)
  ((answer, line.sent), line.server)

/-! ## What a conversation leaves behind -/

structure Report (α : Type) where
  answer : Except LedgerError α
  log : List LogLine := []
  sent : List Sent := []

def Report.map {α β : Type} (f : α → β) (report : Report α) : Report β :=
  { report with answer := report.answer.map f }

def connectionLost : LogLine := ⟨.error, "Database connection error: " ++ ServerError.closed.message⟩

end BridgeLedger
