import BridgeLedger.Proofs.Footprints
import BridgeLedger.Proofs.Runs

/-!
# The ledger as a journal

A journal is kept by looking at the steps and their answers alone: it notes the clock, and a row for every record call
that answered a key. The rows in the database are at every point of a run those of the journal, as long as no table is
dropped: each step changes the database as its entry changes the journal (`Session.step_journal`).
-/

namespace BridgeLedger

/-! ## Plain lists of rows -/

structure Ledger where
  depositRequests : List DepositRequest := []
  moveTxs : List MoveTx := []
  withdrawalSigs : List WithdrawalSig := []
deriving DecidableEq, Repr

def Ledger.counts (ledger : Ledger) : Counts where
  depositRequests := ledger.depositRequests.length
  moveTxs := ledger.moveTxs.length
  withdrawalSigs := ledger.withdrawalSigs.length

def Database.ledger (db : Database) : Ledger where
  depositRequests := (db.depositRequests.map Table.rows).getD []
  moveTxs := (db.moveTxs.map Table.rows).getD []
  withdrawalSigs := (db.withdrawalSigs.map Table.rows).getD []

/-- The ledger with the row that the call stands for: its texts as they are, its hexadecimal arguments in lower case. -/
def Ledger.add (ledger : Ledger) (createdAt : Timestamp) (key : Int) : Operation → Ledger
  | .recordDepositRequest utxo recovery evm =>
    { ledger with
      depositRequests := ledger.depositRequests ++
        [{ id := key, startUtxo := utxo, recoveryTaprootAddress := recovery, evmAddress := Hex.lowercase evm,
           createdAt }] }
  | .recordMoveTx utxo recovery evm txid =>
    { ledger with
      moveTxs := ledger.moveTxs ++
        [{ id := key, startUtxo := utxo, recoveryTaprootAddress := recovery, evmAddress := Hex.lowercase evm,
           moveTxid := Hex.lowercase txid, createdAt }] }
  | .recordWithdrawalSig txid sig =>
    { ledger with
      withdrawalSigs := ledger.withdrawalSigs ++
        [{ idx := key, bridgeFundTxid := Hex.lowercase txid, sig := Hex.lowercase sig, createdAt }] }
  | _ => ledger

/-! ## Keeping the journal -/

structure Journal where
  now : Timestamp
  ledger : Ledger := {}
deriving DecidableEq, Repr

/-- Notes a step: a clock that is set, or a row for a call that answered a key. -/
def Journal.note (journal : Journal) (entry : Entry) : Journal :=
  match entry.step, entry.answer with
  | .intervention (.setClock now), _ => { journal with now }
  | .operation call, .ok (.key key) => { journal with ledger := journal.ledger.add journal.now key call }
  | _, _ => journal

def Session.journal (session : Session) : Journal := ⟨session.server.clock, session.server.database.ledger⟩

theorem Session.journal_of_spent {before after : Session} (hs : before.server.Spent after.server) :
    after.journal = before.journal := by
  simp only [Session.journal, hs.clock, hs.database]

theorem Ledger.add_of_not_record (ledger : Ledger) (now : Timestamp) (key : Int) {call : Operation}
    (hc : call.isRecord = false) : ledger.add now key call = ledger := by
  cases call with
  | recordDepositRequest | recordMoveTx | recordWithdrawalSig => cases hc
  | _ => rfl

theorem Database.ledger_insert {call : Operation} {ρ : Type} {c : Collection ρ} {row : Timestamp → Int → ρ}
    (hrecords : call.Records c row) {db : Database} {t : Table ρ} (ht : c.table db = some t) (now : Timestamp)
    (key : Int) :
    (c.withTable db { rows := t.rows ++ [row now key], nextKey := key + 1 }).ledger = db.ledger.add now key call := by
  cases hrecords with
  | depositRequest | moveTx | withdrawalSig =>
    simp only [depositRequests_table, moveTxs_table, withdrawalSigs_table] at ht
    simp [Database.ledger, Ledger.add, ht]

theorem Database.ledger_withTable {ρ : Type} {call : Operation} {c : Collection ρ} {row : Timestamp → Int → ρ}
    (hrecords : call.Records c row) {db : Database} {t t' : Table ρ} (ht : c.table db = some t)
    (hrows : t'.rows = t.rows) : (c.withTable db t').ledger = db.ledger := by
  cases hrecords with
  | depositRequest | moveTx | withdrawalSig =>
    simp only [depositRequests_table, moveTxs_table, withdrawalSigs_table] at ht
    simp [Database.ledger, ht, hrows]

theorem Database.ledger_provisioned (db : Database) : db.provisioned.ledger = db.ledger := by
  obtain ⟨versions, requests, txs, sigs⟩ := db
  cases requests <;> cases txs <;> cases sigs <;> rfl

theorem Database.ledger_setNextKey (db : Database) (key : Int) (table : TableName) :
    (db.setNextKey key table).ledger = db.ledger := by
  obtain ⟨versions, requests, txs, sigs⟩ := db
  cases table <;> cases requests <;> cases txs <;> cases sigs <;> rfl

/-! ## Each step, and each run -/

theorem Journal.note_failed (journal : Journal) (call : Operation) (cause : LedgerError) (executed : Bool) :
    journal.note ⟨.operation call, .error cause, executed⟩ = journal := rfl

theorem Journal.note_key (journal : Journal) (call : Operation) (key : Int) (executed : Bool) :
    journal.note ⟨.operation call, .ok (.key key), executed⟩ =
      { journal with ledger := journal.ledger.add journal.now key call } := rfl

theorem Journal.note_of_not_record (journal : Journal) {call : Operation} (hc : call.isRecord = false)
    (answer : Except LedgerError Reply) (executed : Bool) :
    journal.note ⟨.operation call, answer, executed⟩ = journal := by
  rcases answer with cause | reply
  · rfl
  · cases reply with
    | key key => rw [Journal.note_key, Ledger.add_of_not_record _ _ _ hc]
    | _ => rfl

theorem Session.operate_journal (session : Session) (call : Operation) :
    (session.operate call).2.journal = session.journal.note (session.entry (.operation call)) := by
  have hentry : session.entry (.operation call) =
      ⟨.operation call, (session.operate call).1.answer, session.executes call⟩ := rfl
  have hfootprint := session.operate_footprint call
  simp only [hentry, Session.journal, session.operate_clock]
  generalize (session.operate call).1.answer = answer, (session.operate call).2.server.database = after
    at hfootprint ⊢
  cases hfootprint with
  | read reads _ => rw [Journal.note_of_not_record _ reads]
  | failed => rw [Journal.note_failed]
  | @refused _ _ _ t records present _ =>
    obtain ⟨cause, hcause, _⟩ := call.verdict_error (.refused .uniqueViolation)
    have hrows : (Table.mk t.rows (t.nextKey + 1)).rows = t.rows := rfl
    rw [hcause, Journal.note_failed, Database.ledger_withTable records present hrows]
  | stored records present _ _ => rw [Journal.note_key, Database.ledger_insert records present]

theorem Session.step_journal (session : Session) {step : Step}
    (hkeep : ∀ name, step ≠ .intervention (.dropTable name)) :
    (session.step step).2.journal = session.journal.note (session.entry step) := by
  cases step with
  | provision =>
    have hnote : session.journal.note (session.entry .provision) = session.journal := rfl
    rw [hnote]
    show Session.journal ⟨session.server.provision.2, _⟩ = _
    rcases session.server.provision_cases with ⟨_, _, hspent⟩ | ⟨_, hspent⟩
    · simp only [Session.journal, hspent.clock, hspent.database, Database.ledger_provisioned]
    · simp only [Session.journal, hspent.clock, hspent.database]
  | connect =>
    have hnote : session.journal.note (session.entry .connect) = session.journal := rfl
    rw [hnote]
    exact Session.journal_of_spent session.connect_spent
  | operation call => exact session.operate_journal call
  | intervention what =>
    cases what with
    | setClock | setVersions | prepareFault => rfl
    | setNextKey table key =>
      show Journal.mk session.server.clock (session.server.database.setNextKey key table).ledger = session.journal
      rw [Database.ledger_setNextKey]
      rfl
    | dropTable name => exact absurd rfl (hkeep name)

def Journal.tell (start : Timestamp) (history : List Entry) : Journal := history.foldl Journal.note { now := start }

theorem Journal.tell_append (start : Timestamp) (past : List Entry) (entry : Entry) :
    Journal.tell start (past ++ [entry]) = (Journal.tell start past).note entry := by
  simp only [Journal.tell, List.foldl_append, List.foldl_cons, List.foldl_nil]

theorem Session.run_journal {session : Session} (hempty : session.server.database = {}) {steps : List Step}
    (hkeep : ∀ name, .intervention (.dropTable name) ∉ steps) :
    (session.run steps).2.journal = Journal.tell session.server.clock (session.history steps) := by
  refine Session.run_induction steps
    (P := fun past here => here.journal = Journal.tell session.server.clock past) ?_ ?_
  · simp only [Session.journal, hempty]
    rfl
  · intro past here step hmem hp
    have hdrop : ∀ name, step ≠ .intervention (.dropTable name) := by
      rintro name rfl
      exact hkeep name hmem
    rw [here.step_journal hdrop, hp, Journal.tell_append]

/-! ## Counting -/

theorem Session.counts_answer {session : Session} {counts : Counts}
    (h : (session.operate .counts).1.answer = .ok (.counts counts)) :
    counts = session.server.database.ledger.counts := by
  have hoperate : session.operate .counts = session.perform .counts (Plan.lookup countRows) := rfl
  rw [hoperate] at h
  obtain ⟨found, _, hfound, hreply⟩ := Session.lookup_ok h
  cases hreply
  obtain ⟨⟨⟨versions, requests, txs, sigs⟩, clock, faults⟩, connection⟩ := session
  cases requests <;> cases txs <;> cases sigs <;> cases hfound
  rfl

def okCalls (history : List Entry) : Counts where
  depositRequests := history.countP fun
    | ⟨.operation (.recordDepositRequest _ _ _), .ok _, _⟩ => true
    | _ => false
  moveTxs := history.countP fun
    | ⟨.operation (.recordMoveTx _ _ _ _), .ok _, _⟩ => true
    | _ => false
  withdrawalSigs := history.countP fun
    | ⟨.operation (.recordWithdrawalSig _ _), .ok _, _⟩ => true
    | _ => false

theorem Session.operate_record_ok (session : Session) {call : Operation} (hc : call.isRecord = true) {reply : Reply}
    (h : (session.operate call).1.answer = .ok reply) : ∃ key, reply = .key key := by
  have hstores := (session.operate_footprint call).of_ok hc h
  generalize (session.operate call).2.server.database = after at hstores
  cases hstores with
  | appended => exact ⟨_, rfl⟩

theorem okCalls_append (past : List Entry) (entry : Entry) :
    okCalls (past ++ [entry]) =
      { depositRequests := (okCalls past).depositRequests + (okCalls [entry]).depositRequests
        moveTxs := (okCalls past).moveTxs + (okCalls [entry]).moveTxs
        withdrawalSigs := (okCalls past).withdrawalSigs + (okCalls [entry]).withdrawalSigs } := by
  simp only [okCalls, List.countP_append]

theorem Session.note_counts (session : Session) (step : Step) (journal : Journal) :
    (journal.note (session.entry step)).ledger.counts =
      { depositRequests := journal.ledger.counts.depositRequests + (okCalls [session.entry step]).depositRequests
        moveTxs := journal.ledger.counts.moveTxs + (okCalls [session.entry step]).moveTxs
        withdrawalSigs := journal.ledger.counts.withdrawalSigs + (okCalls [session.entry step]).withdrawalSigs } := by
  cases step with
  | provision | connect => rfl
  | intervention what => cases what <;> rfl
  | operation call =>
    have hentry : session.entry (.operation call) =
        ⟨.operation call, (session.operate call).1.answer, session.executes call⟩ := rfl
    rw [hentry]
    cases hanswer : (session.operate call).1.answer with
    | error cause =>
      rw [Journal.note_failed]
      cases call <;> rfl
    | ok reply =>
      cases hc : call.isRecord with
      | false =>
        rw [Journal.note_of_not_record _ hc]
        cases call with
        | recordDepositRequest | recordMoveTx | recordWithdrawalSig => cases hc
        | _ => rfl
      | true =>
        obtain ⟨key, rfl⟩ := session.operate_record_ok hc hanswer
        rw [Journal.note_key]
        cases call with
        | recordDepositRequest | recordMoveTx | recordWithdrawalSig =>
          simp [Ledger.add, Ledger.counts, okCalls]
        | _ => cases hc

theorem Session.history_counts (session : Session) (start : Timestamp) (steps : List Step) :
    (Journal.tell start (session.history steps)).ledger.counts = okCalls (session.history steps) := by
  refine Session.run_induction steps (P := fun past _ => (Journal.tell start past).ledger.counts = okCalls past) rfl ?_
  intro past here step _ hp
  rw [okCalls_append, ← hp, ← here.note_counts step, Journal.tell_append]

/-! ## The ledger -/

/-- At every point of a run that starts without tables and drops none, the rows of the three tables are those of the
journal that the steps and answers so far tell, and counting, where it succeeds, counts the record calls that answered
ok. -/
theorem Session.ledger_is_journal (session : Session) (hempty : session.server.database = {}) (steps : List Step)
    (hkeep : ∀ name, .intervention (.dropTable name) ∉ steps) (n : Nat) :
    (session.run (steps.take n)).2.server.database.ledger =
        (Journal.tell session.server.clock ((session.history steps).take n)).ledger ∧
      ∀ counts, ((session.run (steps.take n)).2.operate .counts).1.answer = .ok (.counts counts) →
        counts = okCalls ((session.history steps).take n) := by
  have hprefix : ∀ name, .intervention (.dropTable name) ∉ steps.take n :=
    fun name hmem => hkeep name (List.mem_of_mem_take hmem)
  have hjournal := congrArg Journal.ledger (Session.run_journal hempty hprefix)
  rw [session.history_take]
  refine ⟨hjournal, fun counts hcounts => ?_⟩
  rw [Session.counts_answer hcounts, ← session.history_counts session.server.clock]
  exact congrArg Ledger.counts hjournal

/-- Two requests for one account, in two cases, are recorded; one between them is lost with its connection. -/
def interruptedRun : List Step :=
  [.provision, .intervention (.setClock ⟨7⟩),
    .operation (.recordDepositRequest "utxo" "recovery" (String.ofList (List.replicate 40 'A'))),
    .intervention (.prepareFault { kind := .execute }),
    .operation (.recordDepositRequest "utxo" "recovery" (String.ofList (List.replicate 40 'B'))), .connect,
    .operation (.recordDepositRequest "utxo" "recovery" (String.ofList (List.replicate 40 'a'))), .operation .counts]

theorem interruptedRun_ledger :
    (∀ name, .intervention (.dropTable name) ∉ interruptedRun) ∧
      (Session.run {} (interruptedRun.take 7)).2.server.database.ledger =
        { depositRequests := [⟨1, "utxo", "recovery", String.ofList (List.replicate 40 'a'), ⟨7⟩⟩,
            ⟨2, "utxo", "recovery", String.ofList (List.replicate 40 'a'), ⟨7⟩⟩] } ∧
      okCalls ((Session.history {} interruptedRun).take 7) = ⟨2, 0, 0⟩ := by
  have hkeep : ∀ name, .intervention (.dropTable name) ∉ interruptedRun := by simp [interruptedRun]
  obtain ⟨hledger, _⟩ := Session.ledger_is_journal {} rfl interruptedRun hkeep 7
  exact ⟨hkeep, hledger.trans (by decide +kernel), by decide +kernel⟩

end BridgeLedger
