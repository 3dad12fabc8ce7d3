import BridgeLedger.Proofs.Dialling
import BridgeLedger.Proofs.InvisibleSteps
import BridgeLedger.Proofs.Phases

/-!
# What the program counts

The program creates the missing tables over one connection and counts the rows over another. If both succeed, the counts
are those of the database as it was before, the database is the one before made complete, and all others are untouched
(`Maintenance.initialised_ok`). Without faults both do succeed where a connection can be opened and the database is of
the right version (`Maintenance.initialised_of_offers`).
-/

namespace BridgeLedger

/-! ## Counts -/

def Table.count {ρ : Type} (table : Option (Table ρ)) : Nat := (table.map fun t => t.rows.length).getD 0

def Database.counts (db : Database) : Counts where
  depositRequests := Table.count db.depositRequests
  moveTxs := Table.count db.moveTxs
  withdrawalSigs := Table.count db.withdrawalSigs

theorem Table.count_completed {ρ : Type} (table : Option (Table ρ)) :
    Table.count (some (table.getD {})) = Table.count table := by
  cases table <;> rfl

theorem Database.counts_provisioned (db : Database) : db.provisioned.counts = db.counts := by
  simp only [Database.counts, Database.provisioned, Database.createMissing, Table.count_completed]

theorem Database.isComplete_provisioned (db : Database) : db.provisioned.isComplete = true := by
  simp [Database.isComplete, Database.provisioned, Database.createMissing]

theorem Database.compatible_provisioned (db : Database) : db.provisioned.Compatible := .inr (.inr rfl)

theorem countRows_effect {db : Database} (hcomplete : db.isComplete = true) (now : Timestamp) :
    countRows.effect now db = (.ok db.counts, db) := by
  obtain ⟨versions, requests, txs, sigs⟩ := db
  simp only [Database.isComplete, Bool.and_eq_true, Option.isSome_iff_exists] at hcomplete
  obtain ⟨⟨⟨⟨_, rfl⟩, _, rfl⟩, _, rfl⟩, _⟩ := hcomplete
  rfl

/-! ## The two conversations -/

theorem Server.createTables_ok {server : Server} (h : server.createTables.1.answer = .ok ()) :
    server.database.Compatible ∧
      Server.Spent { server with database := server.database.provisioned } server.createTables.2 := by
  rcases Line.createTables_cases { server } with ⟨_, db, hverdict, hspent⟩ | ⟨⟨cause, hfails⟩, _⟩
  · obtain ⟨hcompatible, rfl⟩ := Database.compatible_of_verdict hverdict
    exact ⟨hcompatible, hspent⟩
  · cases h.symm.trans hfails

theorem Server.createTables_of_faultless {server : Server} (hfaultless : server.faults = [])
    (hcompatible : server.database.Compatible) : server.createTables.1.answer = .ok () := by
  have hquiet := Server.quiet_of_faultless hfaultless
  have hanswer := Server.provision_of_undisturbed ⟨hquiet _ _, hquiet _ _, fun _ _ => hquiet _ _⟩
  simp only [Server.provision, Server.accept, Server.strike_of_quiet (hquiet .connect "")] at hanswer
  rw [hanswer, Database.verdict_ok_iff]
  exact hcompatible

namespace Maintenance

theorem countTables_ok {server : Server} {counts : Counts} (hcomplete : server.database.isComplete = true)
    (h : (countTables server).1.answer = .ok counts) :
    counts = server.database.counts ∧ server.Spent (countTables server).2 := by
  unfold countTables Plan.counts Plan.lookup at h ⊢
  by_cases hreaches : Line.reaches { server } countRows = true
  · simp only [Plan.carryOut_of_reaches _ hreaches, countRows_effect hcomplete] at h ⊢
    exact ⟨(Except.ok.inj h).symm, .refl server⟩
  · obtain ⟨_, cause, _, hfails⟩ := Plan.carryOut_of_not_reaches (fun outcome => (outcome.mapError .server, []))
      (Bool.eq_false_iff.mpr hreaches)
    rcases hfails with hfails | ⟨hfails, _⟩ <;> cases h.symm.trans hfails

theorem countTables_of_faultless {server : Server} (hfaultless : server.faults = [])
    (hcomplete : server.database.isComplete = true) : (countTables server).1.answer = .ok server.database.counts := by
  have htables : countRows.tables.all server.database.has = true := by
    simp only [Database.isComplete, Bool.and_eq_true] at hcomplete
    obtain ⟨⟨⟨hrequests, htxs⟩, hsigs⟩, _⟩ := hcomplete
    show [TableName.depositRequests, .moveTxs, .withdrawalSigs].all server.database.has = true
    simp only [List.all_cons, List.all_nil, Database.has, hrequests, htxs, hsigs, Bool.and_self]
  have hreaches : Line.reaches { server } countRows = true := by
    simp only [Line.reaches, Server.quiet_of_faultless hfaultless, htables, Bool.and_self]
  unfold countTables Plan.counts Plan.lookup
  simp only [Plan.carryOut_of_reaches _ hreaches, countRows_effect hcomplete]
  rfl

end Maintenance

/-! ## Conversations from a machine -/

theorem Machine.Spent.user {before after : Machine} (h : before.Spent after) : after.user = before.user := by
  rw [h.rest]

section
variable {α : Type} {machine after : Machine} {c : Conninfo} {conversation : Server → Report α × Server} {a : α}

theorem Machine.converse_ok (h : machine.converse c conversation = (.ok a, after)) :
    machine.Offers c ∧ ∃ dialled : Machine, machine.Spent dialled ∧
      (conversation (dialled.cluster.server (c.databaseName machine.user))).1.answer = .ok a ∧
      after = (dialled.talk c conversation).2 := by
  have hspent := machine.dial_spent c
  unfold Machine.converse at h
  cases hdial : machine.dial c with
  | mk answer dialled =>
    rw [hdial] at h hspent
    cases answer with
    | error => cases h
    | ok =>
      obtain ⟨hanswer, rfl⟩ := Prod.mk.inj h
      refine ⟨Machine.offers_of_dial (congrArg Prod.fst hdial), dialled, hspent, ?_, rfl⟩
      rw [← Machine.Spent.user hspent]
      exact hanswer

variable (conversation)

theorem Machine.converse_of_offers (hfaultless : machine.cluster.faults = []) (hoffers : machine.Offers c) :
    ∃ dialled : Machine, machine.Spent dialled ∧ machine.converse c conversation =
      ((conversation (machine.cluster.server (c.databaseName machine.user))).1.answer,
        (dialled.talk c conversation).2) := by
  have hspent := machine.dial_spent c
  have hok := Machine.dial_of_offers hfaultless hoffers
  unfold Machine.converse
  cases hdial : machine.dial c with
  | mk answer dialled =>
    rw [hdial] at hok hspent
    cases hok
    have hserver : dialled.cluster.server (c.databaseName dialled.user) =
        machine.cluster.server (c.databaseName machine.user) := by
      rw [Machine.Spent.user hspent, Cluster.server, Cluster.server, hspent.cluster.databases, hspent.cluster.clock,
        hspent.faultless hfaultless, hfaultless]
    refine ⟨dialled, hspent, ?_⟩
    rw [← hserver]
    rfl

end

theorem Machine.lookup_talk {α : Type} {machine dialled : Machine} (hspent : machine.Spent dialled) (c : Conninfo)
    (conversation : Server → α × Server) (other : String) :
    (dialled.talk c conversation).2.cluster.databases.lookup other =
      if other = c.databaseName machine.user then
        (machine.cluster.databases.lookup other).map fun _ =>
          (conversation (dialled.cluster.server (c.databaseName machine.user))).2.database
      else machine.cluster.databases.lookup other := by
  rw [← hspent.user, ← hspent.cluster.databases]
  exact dialled.cluster.lookup_visit (c.databaseName dialled.user) conversation other

theorem Machine.faults_talk {α : Type} {machine dialled : Machine} (hspent : machine.Spent dialled) (c : Conninfo)
    (conversation : Server → α × Server) : (dialled.talk c conversation).2.cluster.faults =
      (conversation (dialled.cluster.server (c.databaseName machine.user))).2.faults := by
  rw [← hspent.user]
  rfl

theorem Machine.talk_rest {α : Type} {machine dialled : Machine} (hspent : machine.Spent dialled) (c : Conninfo)
    (conversation : Server → α × Server) :
    (dialled.talk c conversation).2 = { machine with cluster := (dialled.talk c conversation).2.cluster } := by
  rw [hspent.rest]
  rfl

theorem Machine.server_database {machine dialled : Machine} (hspent : machine.Spent dialled) {name : String}
    {db : Database} (hdb : machine.cluster.databases.lookup name = some db) :
    (dialled.cluster.server name).database = db := by
  rw [Cluster.server, hspent.cluster.databases, hdb]
  rfl

/-! ## Creating and counting -/

namespace Maintenance

/-- The database `db` to which the options lead has been made complete; apart from that, only faults were used up. -/
structure Provisioned (machine : Machine) (c : Conninfo) (db : Database) (after : Machine) : Prop where
  offers : machine.Offers c
  known : machine.cluster.databases.lookup (c.databaseName machine.user) = some db
  compatible : db.Compatible
  databases : ∀ other, after.cluster.databases.lookup other =
    if other = c.databaseName machine.user then some db.provisioned else machine.cluster.databases.lookup other
  faults : after.cluster.faults.Sublist machine.cluster.faults
  rest : after = { machine with cluster := after.cluster }

section
variable {machine middle after : Machine} {c : Conninfo} {db : Database} {counts : Counts}

theorem Provisioned.known_after (h : Provisioned machine c db after) :
    after.cluster.databases.lookup (c.databaseName after.user) = some db.provisioned := by
  have huser : after.user = machine.user := by rw [h.rest]
  rw [huser, h.databases, if_pos rfl]

theorem Provisioned.offers_after (h : Provisioned machine c db after) : after.Offers c := by
  have hnames : ∀ name ∈ machine.cluster.names, name ∈ after.cluster.names := by
    intro name hname
    rw [Cluster.mem_names_iff, h.databases]
    split
    · rfl
    · exact Cluster.mem_names_iff.mp hname
  exact (Machine.resembles_of_rest h.rest hnames).offers h.offers

theorem Provisioned.spent (h : Provisioned machine c db middle) (hspent : middle.Spent after) :
    Provisioned machine c db after where
  offers := h.offers
  known := h.known
  compatible := h.compatible
  databases other := (hspent.cluster.databases other).trans (h.databases other)
  faults := hspent.cluster.faults.trans h.faults
  rest := by rw [hspent.rest, h.rest]

theorem created_ok (h : machine.converse c Server.createTables = (.ok (), after)) :
    ∃ db, Provisioned machine c db after := by
  obtain ⟨hoffers, dialled, hspent, hcreated, rfl⟩ := Machine.converse_ok h
  obtain ⟨db, hdb⟩ := Option.isSome_iff_exists.mp (Cluster.mem_names_iff.mp hoffers.known)
  obtain ⟨hcompatible, hstored⟩ := Server.createTables_ok hcreated
  rw [Machine.server_database hspent hdb] at hcompatible hstored
  refine ⟨db, hoffers, hdb, hcompatible, fun other => ?_, ?_, Machine.talk_rest hspent c _⟩
  · rw [Machine.lookup_talk hspent, hstored.database]
    split
    · next hother => rw [hother, hdb, Option.map_some]
    · rfl
  · rw [Machine.faults_talk hspent]
    exact hstored.faults.trans hspent.cluster.faults

theorem created_of_offers (hfaultless : machine.cluster.faults = []) (hoffers : machine.Offers c)
    (hdb : machine.cluster.databases.lookup (c.databaseName machine.user) = some db) (hcompatible : db.Compatible) :
    ∃ after, machine.converse c Server.createTables = (.ok (), after) := by
  have hserver := Machine.server_database (.refl machine) hdb
  obtain ⟨_, _, hcreate⟩ := Machine.converse_of_offers Server.createTables hfaultless hoffers
  rw [Server.createTables_of_faultless hfaultless (by rwa [hserver])] at hcreate
  exact ⟨_, hcreate⟩

section
variable (hdb : machine.cluster.databases.lookup (c.databaseName machine.user) = some db)
  (hcomplete : db.isComplete = true)
include hdb hcomplete

theorem counted_ok (h : machine.converse c countTables = (.ok counts, after)) :
    counts = db.counts ∧ machine.Spent after := by
  obtain ⟨-, dialled, hspent, hcounted, rfl⟩ := Machine.converse_ok h
  have hserver := Machine.server_database hspent hdb
  obtain ⟨rfl, hkept⟩ := countTables_ok (hserver ▸ hcomplete) hcounted
  rw [← Machine.Spent.user hspent] at hkept
  exact ⟨by rw [hserver], hspent.trans ⟨dialled.cluster.visit_spent _ hkept, rfl⟩⟩

theorem counted_of_offers (hfaultless : machine.cluster.faults = []) (hoffers : machine.Offers c) :
    ∃ after, machine.converse c countTables = (.ok db.counts, after) := by
  have hserver := Machine.server_database (.refl machine) hdb
  obtain ⟨_, _, hcount⟩ := Machine.converse_of_offers countTables hfaultless hoffers
  rw [countTables_of_faultless hfaultless (hserver ▸ hcomplete), hserver] at hcount
  exact ⟨_, hcount⟩

end

theorem counted_ok_iff : counted machine c = (.ok counts, after) ↔
    machine.converse c countTables = (.ok counts, after) := by
  unfold counted Machine.converse
  rcases machine.dial c with ⟨cause | ⟨⟩, dialled⟩
  · simp
  · simp only [Prod.mk.injEq]
    refine and_congr_left fun _ => ?_
    cases (dialled.talk c countTables).1.answer with
    | error cause => exact ⟨nofun, nofun⟩
    | ok counted => exact ⟨fun h => congrArg _ (Except.ok.inj h), fun h => congrArg _ (Except.ok.inj h)⟩

theorem initialised_ok_iff : initialised machine c = (.ok counts, after) ↔
    ∃ middle, machine.converse c Server.createTables = (.ok (), middle) ∧
      middle.converse c countTables = (.ok counts, after) := by
  unfold initialised
  rcases machine.converse c Server.createTables with ⟨cause | ⟨⟩, middle⟩
  · simp
  · simp [counted_ok_iff]

theorem initialised_ok (h : initialised machine c = (.ok counts, after)) :
    ∃ db, counts = db.counts ∧ Provisioned machine c db after := by
  obtain ⟨middle, hcreate, hcount⟩ := initialised_ok_iff.mp h
  obtain ⟨db, hmiddle⟩ := created_ok hcreate
  obtain ⟨rfl, hspent⟩ := counted_ok hmiddle.known_after db.isComplete_provisioned hcount
  exact ⟨db, db.counts_provisioned, hmiddle.spent hspent⟩

theorem initialised_of_offers (hfaultless : machine.cluster.faults = []) (hoffers : machine.Offers c)
    (hdb : machine.cluster.databases.lookup (c.databaseName machine.user) = some db) (hcompatible : db.Compatible) :
    ∃ counts after, initialised machine c = (.ok counts, after) := by
  obtain ⟨middle, hcreate⟩ := created_of_offers hfaultless hoffers hdb hcompatible
  obtain ⟨_, hmiddle⟩ := created_ok hcreate
  have hfaultless' : middle.cluster.faults = [] := List.sublist_nil.mp (hfaultless ▸ hmiddle.faults)
  obtain ⟨after, hcount⟩ :=
    counted_of_offers hmiddle.known_after (Database.isComplete_provisioned _) hfaultless' hmiddle.offers_after
  exact ⟨_, after, initialised_ok_iff.mpr ⟨middle, hcreate, hcount⟩⟩

end

end Maintenance

end BridgeLedger
