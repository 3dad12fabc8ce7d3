import BridgeLedger.Proofs.Delivery

/-!
# The transaction that creates the tables

Without faults the stages compute one function of the database (`Stage.runAll`), which depends on the recorded
versions alone (`runAll_schemaStages`). The transaction stores what that function answers, once it is committed, and
otherwise leaves the database as it was: `Server.provision_cases`. When no fault interferes, its answer is that of the
function (`provision_of_undisturbed`).
-/

namespace BridgeLedger

/-! ## Following stages -/

def Stage.runAll : List Stage → Database → Except LedgerError Database
  | [], db => .ok db
  | stage :: rest, db =>
    match stage.effect db with
    | .ok db => Stage.runAll rest db
    | .error cause => .error cause

theorem Server.Spent.swap {before after : Server} (hs : before.Spent after) (db : Database) :
    Server.Spent { before with database := db } { after with database := db } :=
  ⟨rfl, hs.clock, hs.faults⟩

/-- Stages that all succeed have computed `Stage.runAll`; otherwise an error is answered, over whatever copy of the
database. -/
theorem Line.follow_cases : ∀ (stages : List Stage) (line : Line),
    (∃ after db, line.follow stages = (.ok (), after) ∧ Stage.runAll stages line.server.database = .ok db ∧
      Server.Spent { line.server with database := db } after.server) ∨
      ∃ cause after db, line.follow stages = (.error cause, after) ∧
        Server.Spent { line.server with database := db } after.server
  | [], line => .inl ⟨line, line.server.database, rfl, rfl, Server.Spent.refl _⟩
  | stage :: rest, line => by
    rcases line.deliver_cases stage.message with ⟨_, hdeliver⟩ | ⟨_, cause, after, hdeliver, hspent, _⟩
    · cases heffect : stage.effect line.server.database with
      | error cause =>
        refine .inr ⟨cause, { line with sent := line.sent ++ [stage.message] }, line.server.database, ?_, ?_⟩
        · simp only [Line.follow, hdeliver, heffect]
        · exact Server.Spent.refl _
      | ok db =>
        have hrest := Line.follow_cases rest (Line.withDatabase { line with sent := line.sent ++ [stage.message] } db)
        simpa only [Line.follow, Stage.runAll, hdeliver, heffect, Line.withDatabase] using hrest
    · refine .inr ⟨.server cause, after, line.server.database, ?_, hspent⟩
      simp only [Line.follow, hdeliver]

theorem Line.follow_of_quiet : ∀ (stages : List Stage) (line : Line), line.isOpen = true →
    (∀ stage ∈ stages, line.server.quiet stage.message.kind stage.message.text = true) →
    ∃ after, line.follow stages = ((Stage.runAll stages line.server.database).map fun _ => (), after) ∧
      after.isOpen = true ∧ after.server.faults = line.server.faults
  | [], line, hopen, _ => ⟨line, rfl, hopen, rfl⟩
  | stage :: rest, line, hopen, hquiet => by
    have hclear : line.clear stage.message := by
      simp only [Line.clear, hopen, hquiet stage (List.mem_cons_self ..), Bool.and_self]
    cases heffect : stage.effect line.server.database with
    | error cause =>
      refine ⟨{ line with sent := line.sent ++ [stage.message] }, ?_, hopen, rfl⟩
      simp only [Line.follow, Stage.runAll, Line.deliver_of_clear hclear, heffect]
      rfl
    | ok db =>
      obtain ⟨after, hfollow, hstill, hfaults⟩ :=
        Line.follow_of_quiet rest (Line.withDatabase { line with sent := line.sent ++ [stage.message] } db) hopen
          fun stage hmem => hquiet stage (List.mem_cons_of_mem _ hmem)
      refine ⟨after, ?_, hstill, hfaults⟩
      simpa only [Line.follow, Stage.runAll, Line.deliver_of_clear hclear, heffect, Line.withDatabase] using hfollow

def Line.resume (stage : Stage) (rest : List Stage) (line : Line) : Except LedgerError Unit × Line :=
  match stage.effect line.server.database with
  | .error cause => (.error cause, line)
  | .ok database => (line.withDatabase database).follow rest

theorem Line.follow_cons_ok {line after : Line} {stage : Stage} {rest : List Stage}
    (h : line.deliver stage.message = (.ok (), after)) : line.follow (stage :: rest) = after.resume stage rest := by
  rw [Line.follow, h]
  rfl

theorem Line.follow_cons_error {line after : Line} {stage : Stage} {rest : List Stage} {cause : ServerError}
    (h : line.deliver stage.message = (.error cause, after)) :
    line.follow (stage :: rest) = (.error (.server cause), after) := by
  simp only [Line.follow, h]

/-! ## The stages of the schema -/

def Database.provisioned (db : Database) : Database :=
  { db.createMissing with versions := some [schemaVersion] }

def Database.Compatible (db : Database) : Prop :=
  db.versions = none ∨ db.versions = some [] ∨ db.versions = some [schemaVersion]

def Database.verdict (db : Database) : Except LedgerError Database :=
  match db.versions.getD [] with
  | [] => .ok db.provisioned
  | [found] => if found = schemaVersion then .ok db.provisioned else .error (.wrongVersion schemaVersion found)
  | _ :: _ :: _ => .error (.server .rowCount)

theorem Database.verdict_of_other {db : Database} {found : Int} (hv : db.versions = some [found])
    (hne : found ≠ schemaVersion) : db.verdict = .error (.wrongVersion schemaVersion found) := by
  simp only [Database.verdict, hv, Option.getD_some, if_neg hne]

theorem runAll_schemaStages (now : Timestamp) (db : Database) :
    Stage.runAll (schemaStages now) db = db.verdict := by
  obtain ⟨versions, requests, txs, sigs⟩ := db
  rcases versions with _ | (_ | ⟨found, _ | ⟨other, rest⟩⟩)
  · rfl
  · rfl
  · by_cases hfound : found = schemaVersion
    · subst hfound
      rfl
    · have hjudge : judgeVersion found = .error (.wrongVersion schemaVersion found) := if_neg hfound
      rw [Database.verdict_of_other rfl hfound]
      simp [Stage.runAll, schemaStages, Stage.query, Stage.simple, lockSchema, recordVersion, readVersion,
        Database.createMissing, Database.has, hjudge, Except.map]
  · rfl

theorem Database.verdict_cases (db : Database) :
    (db.Compatible ∧ db.verdict = .ok db.provisioned) ∨
      (∃ found, found ≠ schemaVersion ∧ db.versions = some [found] ∧
        db.verdict = .error (.wrongVersion schemaVersion found)) ∨
      ∃ first second rest, db.versions = some (first :: second :: rest) ∧ db.verdict = .error (.server .rowCount) := by
  obtain ⟨versions, requests, txs, sigs⟩ := db
  rcases versions with _ | (_ | ⟨found, _ | ⟨other, rest⟩⟩)
  · exact .inl ⟨.inl rfl, rfl⟩
  · exact .inl ⟨.inr (.inl rfl), rfl⟩
  · by_cases hfound : found = schemaVersion
    · subst hfound
      exact .inl ⟨.inr (.inr rfl), rfl⟩
    · exact .inr (.inl ⟨found, hfound, rfl, Database.verdict_of_other rfl hfound⟩)
  · exact .inr (.inr ⟨found, other, rest, rfl, rfl⟩)

theorem Database.compatible_of_verdict {db stored : Database} (hv : db.verdict = .ok stored) :
    db.Compatible ∧ stored = db.provisioned := by
  rcases db.verdict_cases with ⟨hcompatible, h⟩ | ⟨_, _, _, h⟩ | ⟨_, _, _, _, h⟩ <;> rw [h] at hv
  · exact ⟨hcompatible, (Except.ok.inj hv).symm⟩
  · cases hv
  · cases hv

/-! ## All or nothing -/

def Line.conclude (stored : Database) (outcome : Except LedgerError Unit) (line : Line) :
    Except LedgerError Unit × Line :=
  match outcome with
  | .error cause => (.error cause, (line.deliver (.simple "ROLLBACK")).2.withDatabase stored)
  | .ok () =>
    match line.deliver (.simple "COMMIT") with
    | (.ok (), committed) => (.ok (), committed)
    | (.error cause, after) => (.error (.server cause), after.withDatabase stored)

theorem Line.createTables_eq (line : Line) :
    line.createTables = (line.follow (schemaStages line.server.clock)).2.conclude line.server.database
      (line.follow (schemaStages line.server.clock)).1 := by
  unfold Line.createTables
  rcases line.follow (schemaStages line.server.clock) with ⟨outcome, after⟩
  cases outcome <;> rfl

theorem Line.createTables_cases (line : Line) :
    ((line.createTables).1 = .ok () ∧ ∃ db, line.server.database.verdict = .ok db ∧
      Server.Spent { line.server with database := db } line.createTables.2.server) ∨
      ((∃ cause, line.createTables.1 = .error cause) ∧ line.server.Spent line.createTables.2.server) := by
  rcases Line.follow_cases (schemaStages line.server.clock) line with
    ⟨after, db, hfollow, hall, hspent⟩ | ⟨cause, after, db, hfollow, hspent⟩
  · rw [runAll_schemaStages] at hall
    rcases after.deliver_cases (.simple "COMMIT") with ⟨_, hcommit⟩ | ⟨_, cause, last, hcommit, hlast, _⟩
    · refine .inl ⟨?_, db, hall, ?_⟩ <;> simp only [Line.createTables, hfollow, hcommit]
      exact hspent
    · refine .inr ⟨⟨.server cause, ?_⟩, ?_⟩ <;> simp only [Line.createTables, hfollow, hcommit, Line.withDatabase]
      exact (hspent.trans hlast).swap line.server.database
  · refine .inr ⟨⟨cause, ?_⟩, ?_⟩ <;> simp only [Line.createTables, hfollow, Line.withDatabase]
    rcases after.deliver_cases (.simple "ROLLBACK") with ⟨_, hback⟩ | ⟨_, _, last, hback, hlast, _⟩
    · rw [hback]
      exact hspent.swap line.server.database
    · rw [hback]
      exact (hspent.trans hlast).swap line.server.database

theorem Server.provision_cases (server : Server) :
    (server.provision.1.answer = .ok () ∧ server.database.Compatible ∧
      Server.Spent { server with database := server.database.provisioned } server.provision.2) ∨
      ((∃ cause, server.provision.1.answer = .error cause) ∧ server.Spent server.provision.2) := by
  rcases server.accept_cases with ⟨_, haccept⟩ | ⟨_, cause, after, haccept, hspent, _⟩
  · have hprovision : server.provision = server.createTables := by simp only [Server.provision, haccept]
    rw [hprovision]
    rcases Line.createTables_cases { server } with ⟨hok, db, hverdict, hspent⟩ | ⟨⟨cause, herror⟩, hspent⟩
    · obtain ⟨hcompatible, rfl⟩ := Database.compatible_of_verdict hverdict
      exact .inl ⟨hok, hcompatible, hspent⟩
    · exact .inr ⟨⟨cause, herror⟩, hspent⟩
  · refine .inr ⟨⟨.server cause, ?_⟩, ?_⟩ <;> simp only [Server.provision, haccept]
    exact hspent

/-! ## Without interference -/

def Server.Undisturbed (server : Server) : Prop :=
  server.quiet .connect "" = true ∧ server.quiet .simple "COMMIT" = true ∧
    ∀ stage ∈ schemaStages server.clock, server.quiet stage.message.kind stage.message.text = true

theorem Server.provision_of_undisturbed {server : Server} (hu : server.Undisturbed) :
    server.provision.1.answer = server.database.verdict.map fun _ => () := by
  obtain ⟨hconnect, hcommit, hstages⟩ := hu
  obtain ⟨after, hfollow, hopen, hfaults⟩ :=
    Line.follow_of_quiet (schemaStages server.clock) { server } rfl hstages
  rw [runAll_schemaStages] at hfollow
  have haccept : server.accept = (.ok (), server) := by simp only [Server.accept, Server.strike_of_quiet hconnect]
  have hclear : after.clear (.simple "COMMIT") := by
    simpa only [Line.clear, hopen, Server.quiet, hfaults, Sent.kind, Sent.text, Bool.true_and] using hcommit
  simp only [Server.provision, haccept, Server.createTables, Line.createTables, hfollow]
  cases hverdict : server.database.verdict with
  | error cause => simp only [Except.map]
  | ok db => simp only [Except.map, Line.deliver_of_clear hclear]

/-! ## What the caller sees -/

/-- The table as it was, or, if it was missing, an empty one whose first key is 1. -/
def Table.Completed {ρ : Type} (before after : Option (Table ρ)) : Prop :=
  (∀ t, before = some t → after = some t) ∧ (before = none → after = some { rows := [], nextKey := 1 })

theorem Table.completed_getD {ρ : Type} (before : Option (Table ρ)) :
    Table.Completed before (some (before.getD {})) := by
  cases before with
  | none => exact ⟨fun t ht => (by cases ht), fun _ => rfl⟩
  | some t => exact ⟨fun _ ht => ht, fun hn => (by cases hn)⟩

theorem Database.verdict_ok_iff (db : Database) : (db.verdict.map fun _ => ()) = .ok () ↔ db.Compatible := by
  rcases db.verdict_cases with ⟨hcompatible, h⟩ | ⟨found, hne, hversions, h⟩ | ⟨_, _, _, hversions, h⟩ <;> rw [h]
  · exact iff_of_true rfl hcompatible
  · simp [Database.Compatible, Except.map, hversions, hne]
  · simp [Database.Compatible, Except.map, hversions]

theorem Database.verdict_wrongVersion_iff (db : Database) (expected found : Int) :
    (db.verdict.map fun _ => ()) = .error (.wrongVersion expected found) ↔
      expected = schemaVersion ∧ found ≠ schemaVersion ∧ db.versions = some [found] := by
  rcases db.verdict_cases with ⟨hcompatible, h⟩ | ⟨version, hne, hversions, h⟩ | ⟨_, _, _, hversions, h⟩ <;> rw [h]
  · refine iff_of_false (fun h => nomatch h) ?_
    rintro ⟨_, hne, hfound⟩
    simp_all [Database.Compatible]
  · rw [hversions]
    constructor
    · rintro ⟨⟩
      exact ⟨rfl, hne, rfl⟩
    · rintro ⟨rfl, _, ⟨⟩⟩
      rfl
  · simp [Except.map, hversions]

theorem Database.verdict_server_iff (db : Database) (cause : ServerError) :
    (db.verdict.map fun _ => ()) = .error (.server cause) ↔
      cause = .rowCount ∧ ∃ first second rest, db.versions = some (first :: second :: rest) := by
  rcases db.verdict_cases with ⟨hcompatible, h⟩ | ⟨version, _, hversions, h⟩ | ⟨first, second, rest, hversions, h⟩ <;>
    rw [h]
  · refine iff_of_false (fun h => nomatch h) ?_
    rintro ⟨_, first, second, rest, hrows⟩
    simp [Database.Compatible, hrows] at hcompatible
  · simp [Except.map, hversions]
  · simp [Except.map, hversions, eq_comm]

/-- Creating the tables is all or nothing, whatever the database holds and whatever goes wrong. If it succeeds, the
database is complete, with version 1, and no table that was there has changed; if it fails, nothing has changed at
all. Where nothing interferes, the recorded versions alone decide between success and the two ways to fail. -/
theorem Server.provision_all_or_nothing (server : Server) :
    ((server.provision.1.answer = .ok () ∧
          (server.database.versions = none ∨ server.database.versions = some [] ∨
            server.database.versions = some [1]) ∧
          Table.Completed server.database.depositRequests server.provision.2.database.depositRequests ∧
          Table.Completed server.database.moveTxs server.provision.2.database.moveTxs ∧
          Table.Completed server.database.withdrawalSigs server.provision.2.database.withdrawalSigs ∧
          server.provision.2.database.versions = some [1]) ∨
        ((∃ cause, server.provision.1.answer = .error cause) ∧ server.provision.2.database = server.database)) ∧
      (server.Undisturbed →
        (server.provision.1.answer = .ok () ↔
          server.database.versions = none ∨ server.database.versions = some [] ∨
            server.database.versions = some [1]) ∧
        (∀ expected found, server.provision.1.answer = .error (.wrongVersion expected found) ↔
          expected = 1 ∧ found ≠ 1 ∧ server.database.versions = some [found]) ∧
        (∀ cause, server.provision.1.answer = .error (.server cause) ↔
          (cause = .rowCount ∧ cause.code? = none) ∧
            ∃ first second rest, server.database.versions = some (first :: second :: rest))) := by
  constructor
  · rcases server.provision_cases with ⟨hok, hcompatible, hspent⟩ | ⟨herror, hspent⟩
    · refine .inl ⟨hok, hcompatible, ?_⟩
      rw [hspent.database]
      exact ⟨Table.completed_getD _, Table.completed_getD _, Table.completed_getD _, rfl⟩
    · exact .inr ⟨herror, hspent.database⟩
  · intro hu
    rw [Server.provision_of_undisturbed hu]
    refine ⟨server.database.verdict_ok_iff, server.database.verdict_wrongVersion_iff, fun cause => ?_⟩
    rw [server.database.verdict_server_iff]
    constructor
    · rintro ⟨rfl, hrows⟩
      exact ⟨⟨rfl, rfl⟩, hrows⟩
    · rintro ⟨⟨hcause, _⟩, hrows⟩
      exact ⟨hcause, hrows⟩

/-- A ledger of version 2, with one table and a fault that waits for a later insertion, is refused and kept. -/
def laterLedger : Server where
  database := { versions := some [2], moveTxs := some { nextKey := 7 } }
  faults := [{ kind := .execute, pattern := "INSERT INTO deposit_move_txs" }]

theorem laterLedger_refused :
    laterLedger.Undisturbed ∧ laterLedger.provision.1.answer = .error (.wrongVersion 1 2) ∧
      laterLedger.provision.2.database = laterLedger.database := by
  have hu : laterLedger.Undisturbed := by
    refine ⟨rfl, rfl, ?_⟩
    decide +kernel
  obtain ⟨hcases, hquiet⟩ := Server.provision_all_or_nothing laterLedger
  have herror : laterLedger.provision.1.answer = .error (.wrongVersion 1 2) :=
    ((hquiet hu).2.1 1 2).mpr ⟨rfl, by decide, rfl⟩
  refine ⟨hu, herror, ?_⟩
  rcases hcases with ⟨hok, _⟩ | ⟨_, hkept⟩
  · rw [herror] at hok
    cases hok
  · exact hkept

end BridgeLedger
