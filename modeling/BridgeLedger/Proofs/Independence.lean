import BridgeLedger.Proofs.LostConnection

/-!
# Independence of the collections

Without the tables of the other collections, a database still holds the recorded versions and one table
(`Database.only`). A query about that table does there what it does in the whole database (`Query.Confined`). So calls
that concern one table cannot tell what the others hold (`Session.operate_only`), and steps that concern another table
leave no trace in it (`Session.agreeOn_of_abroad`). Creating the tables depends on the recorded versions alone
(`Server.provision_versions`). Hence all steps that concern other collections may be left out of a run without faults:
`Session.collections_independent`.
-/

namespace BridgeLedger

/-! ## One table of the database -/

def Database.only (name : TableName) (db : Database) : Database where
  versions := db.versions
  depositRequests := if name = .depositRequests then db.depositRequests else none
  moveTxs := if name = .moveTxs then db.moveTxs else none
  withdrawalSigs := if name = .withdrawalSigs then db.withdrawalSigs else none

section
variable (name table : TableName) (db : Database)

theorem Database.has_only : (db.only name).has name = db.has name := by
  cases name <;> rfl

theorem Database.only_setNextKey (key : Int) :
    (db.setNextKey key table).only name = (db.only name).setNextKey key table := by
  cases name <;> cases table <;> rfl

theorem Database.only_drop : (db.drop table).only name = (db.only name).drop table := by
  cases name <;> cases table <;> rfl

theorem Database.only_provisioned : db.provisioned.only name = (db.only name).provisioned.only name := by
  cases name <;> rfl

variable {name table}

theorem Database.only_setNextKey_other (key : Int) (hne : table ≠ name) :
    (db.setNextKey key table).only name = db.only name := by
  cases name <;> cases table <;> first | rfl | exact absurd rfl hne

theorem Database.only_drop_other (hne : table ≠ name) (hversion : table ≠ .version) :
    (db.drop table).only name = db.only name := by
  cases name <;> cases table <;> first | rfl | exact absurd rfl hne | exact absurd rfl hversion

end

/-- The collection keeps its rows in its own table and nowhere else. -/
structure Collection.Separate {ρ : Type} (c : Collection ρ) : Prop where
  table_only : ∀ db, c.table (db.only c.name) = c.table db
  only_withTable : ∀ db t, (c.withTable db t).only c.name = c.withTable (db.only c.name) t
  only_withTable_other : ∀ db t name, name ≠ c.name → (c.withTable db t).only name = db.only name

theorem depositRequests_separate : depositRequests.Separate where
  table_only _ := rfl
  only_withTable _ _ := rfl
  only_withTable_other _ _ name hne := by cases name <;> first | rfl | exact absurd rfl hne

theorem moveTxs_separate : moveTxs.Separate where
  table_only _ := rfl
  only_withTable _ _ := rfl
  only_withTable_other _ _ name hne := by cases name <;> first | rfl | exact absurd rfl hne

theorem withdrawalSigs_separate : withdrawalSigs.Separate where
  table_only _ := rfl
  only_withTable _ _ := rfl
  only_withTable_other _ _ name hne := by cases name <;> first | rfl | exact absurd rfl hne

/-! ## Queries about one table -/

/-- The query does without the other tables what it does with them. -/
structure Query.Confined {α : Type} (name : TableName) (query : Query α) : Prop where
  tables : query.tables = [name]
  effect_only : ∀ now db,
    query.effect now (db.only name) = ((query.effect now db).1, (query.effect now db).2.only name)

section
variable {ρ : Type} {c : Collection ρ} (hc : c.Separate) (text : String)
include hc

theorem Query.insert_confined (parameters : List Parameter) (row : Timestamp → Int → ρ) :
    (Query.insert c text parameters row).Confined c.name where
  tables := rfl
  effect_only now db := by
    simp only [Query.insert, hc.table_only]
    cases c.table db with
    | none => rfl
    | some t => simp only [hc.only_withTable]

theorem Query.rows_confined (parameter : Parameter) (p : ρ → Bool) :
    (Query.rows c text parameter p).Confined c.name where
  tables := rfl
  effect_only now db := by
    simp only [Query.rows, hc.table_only]
    cases c.table db <;> rfl

theorem Query.row?_confined (parameter : Parameter) (p : ρ → Bool) :
    (Query.row? c text parameter p).Confined c.name where
  tables := rfl
  effect_only now db := by
    simp only [Query.row?, hc.table_only]
    cases c.table db with
    | none => rfl
    | some t =>
      simp only
      split <;> rfl

end

def Plan.Confined {α : Type} (name : TableName) : Plan α → Prop
  | .decided _ _ => True
  | .ask query _ => query.Confined name

theorem Plan.lookupChecked_confined {α κ : Type} {name : TableName} (key : Except FieldError κ) (nothing : α)
    {query : κ → Query α} (hquery : ∀ k, (query k).Confined name) :
    (Plan.lookupChecked key nothing query).Confined name := by
  cases key with
  | error _ => exact True.intro
  | ok k => exact hquery k

/-! ## Calls about one table -/

def Operation.table? : Operation → Option TableName
  | .recordDepositRequest _ _ _ | .depositRequest _ | .depositRequestsFor _ | .depositRequestsSpending _ =>
    some .depositRequests
  | .recordMoveTx _ _ _ _ | .moveTx _ | .moveTxWithTxid _ | .moveTxsFor _ | .moveTxsSpending _ => some .moveTxs
  | .recordWithdrawalSig _ _ | .withdrawalSig _ | .withdrawalSigsFor _ => some .withdrawalSigs
  | .counts => none

theorem Operation.Records.separate {call : Operation} {ρ : Type} {c : Collection ρ} {row : Timestamp → Int → ρ}
    (hrecords : call.Records c row) : c.Separate ∧ call.table? = some c.name := by
  cases hrecords with
  | depositRequest => exact ⟨depositRequests_separate, rfl⟩
  | moveTx => exact ⟨moveTxs_separate, rfl⟩
  | withdrawalSig => exact ⟨withdrawalSigs_separate, rfl⟩

theorem Plan.Inserts.confined {call : Operation} {plan : Plan Int} (hinserts : plan.Inserts call) {name : TableName}
    (htable : call.table? = some name) : plan.Confined name := by
  cases hinserts with
  | rejected => exact True.intro
  | asked _ _ _ _ _ hrecords _ =>
    obtain ⟨hseparate, hname⟩ := hrecords.separate
    cases htable.symm.trans hname
    exact Query.insert_confined hseparate _ _ _

theorem Operation.confined {call : Operation} {name : TableName} (htable : call.table? = some name) :
    call.planned.plan.Confined name := by
  cases call with
  | counts => cases htable
  | recordDepositRequest => exact (Plan.recordDepositRequest_inserts ..).confined htable
  | recordMoveTx => exact (Plan.recordMoveTx_inserts ..).confined htable
  | recordWithdrawalSig => exact (Plan.recordWithdrawalSig_inserts ..).confined htable
  | depositRequest =>
    cases htable
    exact Query.row?_confined depositRequests_separate _ _ _
  | moveTx =>
    cases htable
    exact Query.row?_confined moveTxs_separate _ _ _
  | withdrawalSig =>
    cases htable
    exact Query.row?_confined withdrawalSigs_separate _ _ _
  | depositRequestsFor | depositRequestsSpending =>
    cases htable
    exact Plan.lookupChecked_confined _ _ fun _ => Query.rows_confined depositRequests_separate _ _ _
  | moveTxsFor | moveTxsSpending =>
    cases htable
    exact Plan.lookupChecked_confined _ _ fun _ => Query.rows_confined moveTxs_separate _ _ _
  | moveTxWithTxid =>
    cases htable
    exact Plan.lookupChecked_confined _ _ fun _ => Query.row?_confined moveTxs_separate _ _ _
  | withdrawalSigsFor =>
    cases htable
    exact Plan.lookupChecked_confined _ _ fun _ => Query.rows_confined withdrawalSigs_separate _ _ _

/-! ## Seen from one table -/

def Server.only (name : TableName) (server : Server) : Server :=
  { server with database := server.database.only name }

def Line.only (name : TableName) (line : Line) : Line := { line with server := line.server.only name }

def Session.only (name : TableName) (session : Session) : Session :=
  { session with server := session.server.only name }

section
variable {α : Type} {name : TableName} {query : Query α} (line : Line)

theorem Line.deliver_only (message : Sent) :
    (line.only name).deliver message = ((line.deliver message).1, (line.deliver message).2.only name) := by
  obtain ⟨server, isOpen, sent⟩ := line
  cases isOpen with
  | false => rfl
  | true =>
    have hstrike : (server.only name).strike message.kind message.text =
        ((server.strike message.kind message.text).1, (server.strike message.kind message.text).2.only name) := rfl
    simp only [Line.deliver, Line.only, ite_true, hstrike]
    rcases server.strike message.kind message.text with ⟨struck, left⟩
    cases struck <;> rfl

theorem Line.prepare_only (hquery : query.Confined name) :
    (line.only name).prepare query = ((line.prepare query).1, (line.prepare query).2.only name) := by
  have hhas : ∀ after : Line, query.tables.all (after.only name).server.database.has =
      query.tables.all after.server.database.has := by
    intro after
    rw [hquery.tables]
    exact congrArg (· && true) (Database.has_only name after.server.database)
  simp only [Line.prepare, Line.deliver_only]
  rcases line.deliver (.prepare query.text) with ⟨outcome, after⟩
  cases outcome with
  | error cause => rfl
  | ok _ => simp only [hhas]

theorem Line.execute_only (hquery : query.Confined name) :
    (line.only name).execute query = ((line.execute query).1, (line.execute query).2.only name) := by
  simp only [Line.execute, Line.deliver_only]
  rcases line.deliver (.execute query.text query.parameters) with ⟨outcome, after⟩
  cases outcome with
  | error cause => rfl
  | ok _ =>
    have heffect := hquery.effect_only after.server.clock after.server.database
    simp only [Line.only, Server.only, heffect, Line.withDatabase]

theorem Plan.askOver_only (hquery : query.Confined name)
    (conclude : Except ServerError α → Except LedgerError α × List LogLine) :
    Plan.askOver query conclude (line.only name) =
      ((Plan.askOver query conclude line).1, (Plan.askOver query conclude line).2.1,
        (Plan.askOver query conclude line).2.2.only name) := by
  simp only [Plan.askOver, line.prepare_only hquery]
  rcases line.prepare query with ⟨outcome, after⟩
  cases outcome with
  | error cause => rfl
  | ok _ => simp only [after.execute_only hquery]

theorem Plan.carryOut_only {plan : Plan α} (hplan : plan.Confined name) :
    plan.carryOut (line.only name) = ((plan.carryOut line).1, (plan.carryOut line).2.only name) := by
  cases plan with
  | decided answer log => rfl
  | ask query conclude =>
    have hask := Plan.askOver_only { line with sent := [] } hplan conclude
    have hsent : { line.only name with sent := [] } = Line.only name { line with sent := [] } := rfl
    simp only [Plan.carryOut, hsent, hask]
    rfl

theorem Session.carryOut_only (session : Session) {plan : Plan α} (hplan : plan.Confined name) :
    (session.only name).carryOut plan = ((session.carryOut plan).1, (session.carryOut plan).2.only name) := by
  have hline := Plan.carryOut_only { server := session.server, isOpen := session.connection == .live } hplan
  unfold Line.only at hline
  simp only [Session.carryOut, Session.only, hline]

end

theorem Session.operate_only {session : Session} (hpresent : session.connection ≠ .absent) {call : Operation}
    {name : TableName} (htable : call.table? = some name) :
    (session.only name).operate call = ((session.operate call).1, (session.operate call).2.only name) := by
  have hcarry := session.carryOut_only (Operation.confined htable)
  obtain ⟨server, connection⟩ := session
  simp only [Session.operate_eq]
  cases connection with
  | absent => exact absurd rfl hpresent
  | live | lost =>
    unfold Session.only at hcarry
    simp only [Session.perform, Session.only, hcarry]

/-! ## Sessions that agree -/

/-- The two sessions differ at most in other tables, and in whether the connection is open yet. -/
structure Session.AgreeOn (name : TableName) (session other : Session) : Prop where
  database : session.server.database.only name = other.server.database.only name
  clock : session.server.clock = other.server.clock
  faults : session.server.faults = other.server.faults
  lost : session.connection = .lost ↔ other.connection = .lost

theorem Session.AgreeOn.refl (name : TableName) (session : Session) : session.AgreeOn name session :=
  ⟨rfl, rfl, rfl, Iff.rfl⟩

theorem Session.AgreeOn.trans {name : TableName} {session other third : Session} (hfirst : session.AgreeOn name other)
    (hsecond : other.AgreeOn name third) : session.AgreeOn name third where
  database := hfirst.database.trans hsecond.database
  clock := hfirst.clock.trans hsecond.clock
  faults := hfirst.faults.trans hsecond.faults
  lost := hfirst.lost.trans hsecond.lost

def Session.opened (session : Session) : Session :=
  { session with connection := if session.connection = .lost then .lost else .live }

theorem Session.opened_present (session : Session) : session.opened.connection ≠ .absent := by
  unfold Session.opened
  split <;> simp

theorem Session.operate_opened {session : Session} (hnone : session.server.faults = []) (call : Operation) :
    session.opened.operate call = session.operate call := by
  obtain ⟨⟨database, clock, faults⟩, connection⟩ := session
  cases (show faults = [] from hnone)
  rw [Session.operate_eq, Session.operate_eq]
  cases connection <;> rfl

theorem Session.step_faultless {session : Session} (hnone : session.server.faults = []) {step : Step}
    (hfault : ∀ fault, step ≠ .intervention (.prepareFault fault)) : (session.step step).2.server.faults = [] := by
  apply List.eq_nil_iff_forall_not_mem.mpr
  intro fault hmem
  rcases session.step_faults step fault hmem with hpending | hprepared
  · rw [hnone] at hpending
    cases hpending
  · exact hfault fault hprepared

theorem Session.operate_lost_iff {session : Session} (hnone : session.server.faults = []) (call : Operation) :
    (session.operate call).2.connection = .lost ↔ session.connection = .lost := by
  by_cases hlost : session.connection = .lost
  · rw [(Session.operate_lost hlost call).2.2]
  · refine iff_of_false ?_ hlost
    intro hafter
    -- only a fault could have cut the connection
    obtain ⟨_, _, _, _, older, newer, hfaults, _⟩ := (show session.Loses call from ⟨hlost, hafter⟩).struck
    rw [hnone] at hfaults
    cases older <;> cases hfaults

/-! ## Steps that concern another collection -/

def Step.table? : Step → Option TableName
  | .operation call => call.table?
  | .intervention (.setNextKey table _) => some table
  | .intervention (.dropTable table) => some table
  | _ => none

/-- The step concerns the table of another collection than the one named. -/
def Step.isAbroad (name : TableName) (step : Step) : Bool :=
  step.table?.any fun table => table != name && table != .version

theorem Step.isAbroad_iff {name : TableName} {step : Step} :
    step.isAbroad name = true ↔ ∃ table, step.table? = some table ∧ table ≠ name ∧ table ≠ .version := by
  simp [Step.isAbroad, Option.any_eq_true]

theorem Session.step_only_other {session : Session} {name : TableName} {step : Step}
    (habroad : step.isAbroad name = true) :
    (session.step step).2.server.database.only name = session.server.database.only name := by
  have halters := session.step_alters step
  generalize (session.step step).2.server.database = after at halters ⊢
  cases halters with
  | kept => rfl
  | provisioned | versions => cases habroad
  | inserted records _ =>
    obtain ⟨hseparate, hname⟩ := records.separate
    obtain ⟨_, htable, hne, _⟩ := Step.isAbroad_iff.mp habroad
    cases hname.symm.trans htable
    exact hseparate.only_withTable_other _ _ _ hne.symm
  | nextKey table key =>
    obtain ⟨_, htable, hne, _⟩ := Step.isAbroad_iff.mp habroad
    cases htable
    exact Database.only_setNextKey_other _ key hne
  | dropped table =>
    obtain ⟨_, htable, hne, hversion⟩ := Step.isAbroad_iff.mp habroad
    cases htable
    exact Database.only_drop_other _ hne hversion

theorem Session.agreeOn_of_abroad {session : Session} (hnone : session.server.faults = []) {name : TableName}
    {step : Step} (habroad : step.isAbroad name = true) : (session.step step).2.AgreeOn name session := by
  refine ⟨Session.step_only_other habroad, ?_, ?_, ?_⟩
  · cases step with
    | provision | connect => cases habroad
    | operation call => exact session.operate_clock call
    | intervention what =>
      cases what with
      | setClock | setVersions | prepareFault => cases habroad
      | setNextKey | dropTable => rfl
  · rw [hnone]
    apply Session.step_faultless hnone
    rintro fault rfl
    cases habroad
  · cases step with
    | provision | connect => cases habroad
    | operation call => exact Session.operate_lost_iff hnone call
    | intervention what => exact Iff.rfl

/-! ## Steps that concern this collection, or none -/

section
variable {name : TableName} {session other : Session}

theorem Session.AgreeOn.only_opened (hagree : session.AgreeOn name other) :
    session.opened.only name = other.opened.only name := by
  obtain ⟨⟨database, clock, faults⟩, connection⟩ := session
  obtain ⟨⟨database', clock', faults'⟩, connection'⟩ := other
  obtain ⟨hdatabase, hclock, hfaults, hlost⟩ := hagree
  simp only at hdatabase hclock hfaults hlost
  simp only [Session.only, Server.only, Session.opened, hdatabase, hclock, hfaults, hlost]

theorem Session.AgreeOn.of_only (hsame : session.only name = other.only name) : session.AgreeOn name other where
  database := congrArg (·.server.database) hsame
  clock := congrArg (·.server.clock) hsame
  faults := congrArg (·.server.faults) hsame
  lost := by
    have hconnection : session.connection = other.connection := congrArg (·.connection) hsame
    rw [hconnection]

theorem Session.AgreeOn.operate (hagree : session.AgreeOn name other) (hnone : session.server.faults = [])
    {call : Operation} (htable : call.table? = some name) :
    (session.operate call).1 = (other.operate call).1 ∧
      (session.operate call).2.AgreeOn name (other.operate call).2 := by
  have hnone' : other.server.faults = [] := hagree.faults.symm.trans hnone
  -- opened, and without the other tables, the two sessions are one
  have hsession := Session.operate_only session.opened_present htable
  have hother := Session.operate_only other.opened_present htable
  rw [hagree.only_opened, hother, Session.operate_opened hnone, Session.operate_opened hnone'] at hsession
  obtain ⟨hreport, hafter⟩ := Prod.mk.inj hsession
  exact ⟨hreport.symm, .of_only hafter.symm⟩

theorem Server.provision_versions {server other : Server} (hnone : server.faults = []) (hnone' : other.faults = [])
    (hversions : server.database.versions = other.database.versions) : server.provision.1 = other.provision.1 := by
  obtain ⟨⟨versions, requests, txs, sigs⟩, clock, faults⟩ := server
  obtain ⟨⟨versions', requests', txs', sigs'⟩, clock', faults'⟩ := other
  cases (show faults = [] from hnone)
  cases (show faults' = [] from hnone')
  cases (show versions = versions' from hversions)
  rcases versions with _ | (_ | ⟨found, _ | ⟨second, rest⟩⟩)
  · rfl
  · rfl
  · by_cases hfound : found = schemaVersion
    · subst hfound
      rfl
    · have hjudge : judgeVersion found = .error (.wrongVersion schemaVersion found) := if_neg hfound
      simp [Server.provision, Server.accept, Server.createTables, Line.createTables, Line.follow, schemaStages,
        Stage.query, Stage.simple, Line.deliver, Server.strike, lockSchema, recordVersion, readVersion,
        Database.createMissing, Database.has, hjudge, Line.withDatabase, Except.map]
  · rfl

theorem Server.provision_clock (server : Server) : server.provision.2.clock = server.clock := by
  rcases server.provision_cases with ⟨_, _, hspent⟩ | ⟨_, hspent⟩
  · exact hspent.clock
  · exact hspent.clock

theorem Server.provision_only {server other : Server} (hreport : server.provision.1 = other.provision.1)
    (hdatabase : server.database.only name = other.database.only name) :
    server.provision.2.database.only name = other.provision.2.database.only name := by
  rcases server.provision_cases with ⟨hok, _, hspent⟩ | ⟨⟨cause, herror⟩, hspent⟩ <;>
    rcases other.provision_cases with ⟨hok', _, hspent'⟩ | ⟨⟨cause', herror'⟩, hspent'⟩
  -- both report the same, so either both succeed or both fail
  · rw [hspent.database, hspent'.database, Database.only_provisioned, hdatabase, ← Database.only_provisioned]
  · rw [hreport, herror'] at hok
    cases hok
  · rw [hreport, hok'] at herror
    cases herror
  · rw [hspent.database, hspent'.database, hdatabase]

theorem Session.AgreeOn.provision (hagree : session.AgreeOn name other) (hnone : session.server.faults = []) :
    (session.step .provision).1 = (other.step .provision).1 ∧
      (session.step .provision).2.AgreeOn name (other.step .provision).2 := by
  have hnone' : other.server.faults = [] := hagree.faults.symm.trans hnone
  have hreport : session.server.provision.1 = other.server.provision.1 :=
    Server.provision_versions hnone hnone' (congrArg (·.versions) hagree.database)
  have hleft : (session.step .provision).2.server.faults = [] := Session.step_faultless hnone fun _ h => nomatch h
  have hleft' : (other.step .provision).2.server.faults = [] := Session.step_faultless hnone' fun _ h => nomatch h
  constructor
  · show session.server.provision.1.map _ = other.server.provision.1.map _
    rw [hreport]
  · refine ⟨Server.provision_only hreport hagree.database, ?_, hleft.trans hleft'.symm, hagree.lost⟩
    show session.server.provision.2.clock = other.server.provision.2.clock
    rw [Server.provision_clock, hagree.clock, Server.provision_clock]

theorem Session.AgreeOn.connect (hagree : session.AgreeOn name other) (hnone : session.server.faults = []) :
    (session.step .connect).1 = (other.step .connect).1 ∧
      (session.step .connect).2.AgreeOn name (other.step .connect).2 := by
  obtain ⟨⟨database, clock, faults⟩, connection⟩ := session
  obtain ⟨⟨database', clock', faults'⟩, connection'⟩ := other
  cases (show faults = [] from hnone)
  cases hagree.faults
  exact ⟨rfl, hagree.database, hagree.clock, rfl, Iff.rfl⟩

theorem Session.AgreeOn.intervene (hagree : session.AgreeOn name other) (what : Intervention) :
    (session.step (.intervention what)).2.AgreeOn name (other.step (.intervention what)).2 := by
  obtain ⟨hdatabase, hclock, hfaults, hlost⟩ := hagree
  cases what with
  | setClock now => exact ⟨hdatabase, rfl, hfaults, hlost⟩
  | setVersions versions =>
    exact ⟨congrArg (fun db => { db with versions := some versions }) hdatabase, hclock, hfaults, hlost⟩
  | setNextKey table key =>
    refine ⟨?_, hclock, hfaults, hlost⟩
    show (session.server.database.setNextKey key table).only name = _
    rw [Database.only_setNextKey, hdatabase, ← Database.only_setNextKey]
    rfl
  | dropTable table =>
    refine ⟨?_, hclock, hfaults, hlost⟩
    show (session.server.database.drop table).only name = _
    rw [Database.only_drop, hdatabase, ← Database.only_drop]
    rfl
  | prepareFault fault => exact ⟨hdatabase, hclock, congrArg (· ++ [fault]) hfaults, hlost⟩

theorem Operation.table?_of_home {call : Operation} (hcounts : call ≠ .counts)
    (hhome : Step.isAbroad name (.operation call) = false) : call.table? = some name := by
  cases call with
  | counts => exact absurd rfl hcounts
  | _ => cases name <;> first | rfl | cases hhome

theorem Session.AgreeOn.step (hagree : session.AgreeOn name other) (hnone : session.server.faults = []) {step : Step}
    (hcounts : step ≠ .operation .counts) (hhome : step.isAbroad name = false) :
    (session.step step).1 = (other.step step).1 ∧ (session.step step).2.AgreeOn name (other.step step).2 := by
  cases step with
  | provision => exact hagree.provision hnone
  | connect => exact hagree.connect hnone
  | intervention what => exact ⟨rfl, hagree.intervene what⟩
  | operation call =>
    have hcall : call ≠ .counts := by
      rintro rfl
      exact hcounts rfl
    exact hagree.operate hnone (Operation.table?_of_home hcall hhome)

end

/-! ## Runs without the steps that concern other collections -/

/-- In a run without faults and counts, the steps that concern other collections may be left out: the steps that are
left report the same, and the collection ends up with the same rows and the same next key. -/
theorem Session.collections_independent (start : Session) (hfresh : start.server.faults = []) (steps : List Step)
    (hfaults : ∀ fault, .intervention (.prepareFault fault) ∉ steps) (hcounts : .operation .counts ∉ steps)
    (name : TableName) :
    let marked := MarkedRun.without (Step.isAbroad name) steps
    marked.whole = steps ∧ marked.shortened = (steps.filter fun step => !step.isAbroad name) ∧
      start.SameReports start marked ∧
      (start.run marked.whole).2.server.database.only name =
        (start.run marked.shortened).2.server.database.only name := by
  intro marked
  have hunwind := Session.unwinding (fun s t => s.AgreeOn name t ∧ s.server.faults = []) marked ?_ ?_
    ⟨.refl name start, hfresh⟩
  · obtain ⟨last, last', hparallel, hagree, _⟩ := hunwind
    refine ⟨MarkedRun.whole_without, MarkedRun.shortened_without, hparallel.reports, ?_⟩
    rw [hparallel.whole, hparallel.shortened]
    exact hagree.database
  · intro step s t hmem ⟨hagree, hnone⟩
    obtain ⟨hmem, hhome⟩ := MarkedRun.mem_without hmem
    have hnot : step ≠ .operation .counts := by
      rintro rfl
      exact hcounts hmem
    obtain ⟨hreport, hafter⟩ := hagree.step hnone hnot hhome
    refine ⟨hreport, hafter, Session.step_faultless hnone ?_⟩
    rintro fault rfl
    exact hfaults fault hmem
  · intro step s t hmem ⟨hagree, hnone⟩
    obtain ⟨hmem, habroad⟩ := MarkedRun.mem_without hmem
    refine ⟨(Session.agreeOn_of_abroad hnone habroad).trans hagree, Session.step_faultless hnone ?_⟩
    rintro fault rfl
    exact hfaults fault hmem

def moveCall : Operation :=
  .recordMoveTx "utxo" "recovery" (String.ofList (List.replicate 40 'a')) (String.ofList (List.replicate 64 'b'))

def interleavedRun : List Step :=
  [.provision, .operation (.recordWithdrawalSig "none" "none"), .intervention (.setNextKey .depositRequests 9),
    .intervention (.setClock ⟨5⟩), .operation moveCall, .intervention (.dropTable .withdrawalSigs),
    .operation (.depositRequest 1), .provision, .operation (.moveTx 1)]

theorem interleavedRun_independent :
    (∀ fault, .intervention (.prepareFault fault) ∉ interleavedRun) ∧ .operation .counts ∉ interleavedRun ∧
      ∃ marked : MarkedRun, marked.whole = interleavedRun ∧
        marked.shortened =
          [.provision, .intervention (.setClock ⟨5⟩), .operation moveCall, .provision, .operation (.moveTx 1)] ∧
        Session.SameReports {} {} marked ∧
        (Session.run {} marked.whole).2.server.database.only .moveTxs =
          (Session.run {} marked.shortened).2.server.database.only .moveTxs := by
  have hfaults : ∀ fault, .intervention (.prepareFault fault) ∉ interleavedRun := by
    intro fault
    simp [interleavedRun]
  have hcounts : .operation .counts ∉ interleavedRun := by
    simp [interleavedRun, moveCall]
  obtain ⟨hwhole, hshortened, hreports, hend⟩ :=
    Session.collections_independent {} rfl interleavedRun hfaults hcounts .moveTxs
  exact ⟨hfaults, hcounts, _, hwhole, hshortened, hreports, hend⟩

end BridgeLedger
