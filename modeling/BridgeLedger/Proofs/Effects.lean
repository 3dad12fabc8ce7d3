import BridgeLedger.Proofs.Forms
import BridgeLedger.Proofs.SchemaTransaction
import BridgeLedger.Proofs.Tables

/-!
# What a step does

A call is a plan carried out (`Session.operate_eq`). Lookups and counts leave the server as it is, but for faults
(`operate_reads`). A record call either inserts the row that its valid arguments make (`Operation.Records`) and answers
the outcome of that insertion, or does not get that far, stores nothing and answers an error (`Session.Outcome`). From
this, and from what creating the tables does, follows everything that one step can do to the database:
`Session.step_alters`.
-/

namespace BridgeLedger

/-! ## Calls and their plans -/

structure Planned where
  {α : Type}
  wrap : α → Reply
  plan : Plan α

def Operation.planned : Operation → Planned
  | .recordDepositRequest utxo recovery evm => ⟨.key, .recordDepositRequest utxo recovery evm⟩
  | .recordMoveTx utxo recovery evm txid => ⟨.key, .recordMoveTx utxo recovery evm txid⟩
  | .recordWithdrawalSig txid sig => ⟨.key, .recordWithdrawalSig txid sig⟩
  | .depositRequest id => ⟨.depositRequest, .depositRequest id⟩
  | .depositRequestsFor evm => ⟨.depositRequests, .depositRequestsFor evm⟩
  | .depositRequestsSpending utxo => ⟨.depositRequests, .depositRequestsSpending utxo⟩
  | .moveTx id => ⟨.moveTx, .moveTx id⟩
  | .moveTxWithTxid txid => ⟨.moveTx, .moveTxWithTxid txid⟩
  | .moveTxsFor evm => ⟨.moveTxs, .moveTxsFor evm⟩
  | .moveTxsSpending utxo => ⟨.moveTxs, .moveTxsSpending utxo⟩
  | .withdrawalSig idx => ⟨.withdrawalSig, .withdrawalSig idx⟩
  | .withdrawalSigsFor txid => ⟨.withdrawalSigs, .withdrawalSigsFor txid⟩
  | .counts => ⟨.counts, .counts⟩

theorem Session.operate_eq (session : Session) (call : Operation) :
    session.operate call = session.perform call.planned.wrap call.planned.plan := by
  cases call <;> rfl

def Session.executesPlan {α : Type} (session : Session) : Plan α → Bool
  | .decided _ _ => false
  | .ask query _ => session.reaches query

/-- The arguments of the call pass their checks, and its query reaches the execution (`Session.executes_iff`). -/
def Session.executes (session : Session) (call : Operation) : Bool :=
  session.executesPlan call.planned.plan

/-! ## Reading -/

def Plan.Reads {α : Type} : Plan α → Prop
  | .decided _ _ => True
  | .ask query _ => query.Reads

theorem Plan.lookup_reads {α : Type} {query : Query α} (hq : query.Reads) : (Plan.lookup query).Reads := hq

theorem Plan.lookupChecked_reads {α κ : Type} (key : Except FieldError κ) (nothing : α) {query : κ → Query α}
    (hq : ∀ k, (query k).Reads) : (Plan.lookupChecked key nothing query).Reads := by
  cases key with
  | error _ => exact True.intro
  | ok k => exact hq k

theorem Session.perform_reads {α : Type} (session : Session) (wrap : α → Reply) {plan : Plan α} (hp : plan.Reads) :
    session.server.Spent (session.perform wrap plan).2.server := by
  cases plan with
  | decided answer log => exact (session.perform_decided wrap answer log).1
  | ask query conclude =>
    cases hr : session.reaches query with
    | true =>
      rw [Session.perform_of_reaches conclude wrap hr]
      exact ⟨hp _ _, rfl, List.Sublist.refl _⟩
    | false => exact (Session.perform_of_not_reaches conclude wrap hr).1

def Operation.isRecord : Operation → Bool
  | .recordDepositRequest _ _ _ | .recordMoveTx _ _ _ _ | .recordWithdrawalSig _ _ => true
  | _ => false

theorem Operation.reads {call : Operation} (hc : call.isRecord = false) : call.planned.plan.Reads := by
  cases call with
  | recordDepositRequest | recordMoveTx | recordWithdrawalSig => cases hc
  | depositRequest | moveTx | withdrawalSig => exact Plan.lookup_reads (Query.row?_reads _ _ _ _)
  | depositRequestsFor | depositRequestsSpending | moveTxsFor | moveTxsSpending | withdrawalSigsFor =>
    exact Plan.lookupChecked_reads _ _ fun _ => Query.rows_reads _ _ _ _
  | moveTxWithTxid => exact Plan.lookupChecked_reads _ _ fun _ => Query.row?_reads _ _ _ _
  | counts => exact Plan.lookup_reads countRows_reads

theorem Session.operate_reads (session : Session) {call : Operation} (hc : call.isRecord = false) :
    session.server.Spent (session.operate call).2.server := by
  rw [session.operate_eq]
  exact session.perform_reads _ (Operation.reads hc)

/-! ## Recording -/

inductive Operation.Records : Operation → {ρ : Type} → Collection ρ → (Timestamp → Int → ρ) → Prop
  | depositRequest {utxo recovery evm : String}
      (valid : Plan.checkDeposit utxo recovery evm = .ok (Hex.lowercase evm)) :
      Records (.recordDepositRequest utxo recovery evm) depositRequests fun createdAt id =>
        { id, startUtxo := utxo, recoveryTaprootAddress := recovery, evmAddress := Hex.lowercase evm, createdAt }
  | moveTx {utxo recovery evm txid : String}
      (valid : Plan.checkMove utxo recovery evm txid = .ok (Hex.lowercase evm, Hex.lowercase txid)) :
      Records (.recordMoveTx utxo recovery evm txid) moveTxs fun createdAt id =>
        { id, startUtxo := utxo, recoveryTaprootAddress := recovery, evmAddress := Hex.lowercase evm,
          moveTxid := Hex.lowercase txid, createdAt }
  | withdrawalSig {txid sig : String}
      (valid : Plan.checkWithdrawal txid sig = .ok (Hex.lowercase txid, Hex.lowercase sig)) :
      Records (.recordWithdrawalSig txid sig) withdrawalSigs fun createdAt idx =>
        { idx, bridgeFundTxid := Hex.lowercase txid, sig := Hex.lowercase sig, createdAt }

def Operation.verdict : Operation → Except ServerError Int → Except LedgerError Reply
  | _, .ok key => .ok (.key key)
  | .recordMoveTx _ _ _ txid, .error cause =>
    if cause = .refused .uniqueViolation then .error (.alreadyRecorded (Hex.lowercase txid))
    else .error (.server cause)
  | _, .error cause => .error (.server cause)

theorem Operation.verdict_error (call : Operation) (cause : ServerError) :
    ∃ why, call.verdict (.error cause) = .error why ∧
      ∀ txid, why = .alreadyRecorded txid → cause = .refused .uniqueViolation := by
  cases call with
  | recordMoveTx utxo recovery evm txid =>
    by_cases hunique : cause = .refused .uniqueViolation
    · exact ⟨_, if_pos hunique, fun _ _ => hunique⟩
    · exact ⟨_, if_neg hunique, fun _ h => by cases h⟩
  | _ => exact ⟨_, rfl, fun _ h => by cases h⟩

inductive Plan.Inserts (call : Operation) : Plan Int → Prop
  | rejected (cause : FieldError) (log : List LogLine) : Plan.Inserts call (.decided (.error (.invalid cause)) log)
  | asked {ρ : Type} (c : Collection ρ) (row : Timestamp → Int → ρ) (text : String) (parameters : List Parameter)
      (conclude : Except ServerError Int → Except LedgerError Int × List LogLine) (records : call.Records c row)
      (reports : ∀ outcome, (conclude outcome).1.map .key = call.verdict outcome) :
      Plan.Inserts call (.ask (.insert c text parameters row) conclude)

theorem Plan.recordDepositRequest_inserts (utxo recovery evm : String) :
    (Plan.recordDepositRequest utxo recovery evm).Inserts (.recordDepositRequest utxo recovery evm) := by
  unfold Plan.recordDepositRequest
  cases hcheck : Plan.checkDeposit utxo recovery evm with
  | error cause => exact .rejected cause _
  | ok normal =>
    obtain ⟨_, _, _, rfl⟩ := Plan.checkDeposit_ok_iff.mp hcheck
    refine .asked _ _ _ _ _ (.depositRequest hcheck) ?_
    rintro (_ | _) <;> rfl

theorem Plan.recordMoveTx_inserts (utxo recovery evm txid : String) :
    (Plan.recordMoveTx utxo recovery evm txid).Inserts (.recordMoveTx utxo recovery evm txid) := by
  unfold Plan.recordMoveTx
  cases hcheck : Plan.checkMove utxo recovery evm txid with
  | error cause => exact .rejected cause _
  | ok normal =>
    obtain ⟨_, _, _, _, rfl⟩ := Plan.checkMove_ok_iff.mp hcheck
    refine .asked _ _ _ _ _ (.moveTx hcheck) ?_
    rintro (cause | key)
    · by_cases hunique : cause = .refused .uniqueViolation
      · simp only [Operation.verdict, if_pos hunique]
        rfl
      · simp only [Operation.verdict, if_neg hunique]
        rfl
    · rfl

theorem Plan.recordWithdrawalSig_inserts (txid sig : String) :
    (Plan.recordWithdrawalSig txid sig).Inserts (.recordWithdrawalSig txid sig) := by
  unfold Plan.recordWithdrawalSig
  cases hcheck : Plan.checkWithdrawal txid sig with
  | error cause => exact .rejected cause _
  | ok normal =>
    obtain ⟨_, _, rfl⟩ := Plan.checkWithdrawal_ok_iff.mp hcheck
    refine .asked _ _ _ _ _ (.withdrawalSig hcheck) ?_
    rintro (_ | _) <;> rfl

/-- What a record call can come to: whether its insertion is executed, the answer, and the server afterwards. -/
inductive Session.Outcome (session : Session) (call : Operation) :
    Bool → Except LedgerError Reply → Server → Prop
  /-- Nothing is stored. The failure is called a repetition only if a fault says so. -/
  | failed {cause : LedgerError} {after : Server} (spent : session.server.Spent after)
      (forged : ∀ txid, cause = .alreadyRecorded txid → session.server.MayFail .execute (.refused .uniqueViolation)) :
      Session.Outcome session call false (.error cause) after
  | inserted {ρ : Type} {c : Collection ρ} {row : Timestamp → Int → ρ} {t : Table ρ} (records : call.Records c row)
      (present : c.table session.server.database = some t) :
      Session.Outcome session call true
        (call.verdict ((t.insert c.clash (row session.server.clock)).1.mapError .refused))
        { session.server with
          database := c.withTable session.server.database (t.insert c.clash (row session.server.clock)).2 }

theorem Session.perform_inserts (session : Session) {call : Operation} {plan : Plan Int} (hp : plan.Inserts call) :
    session.Outcome call (session.executesPlan plan) (session.perform .key plan).1.answer
      (session.perform .key plan).2.server := by
  cases hp with
  | rejected cause log =>
    obtain ⟨hspent, hanswer⟩ := session.perform_decided .key (.error (.invalid cause)) log
    rcases hanswer with hanswer | ⟨failure, _, hanswer⟩ <;> rw [hanswer]
    · exact .failed hspent fun _ h => by cases h
    · exact .failed hspent fun _ h => by cases h
  | @asked ρ c row text parameters conclude records reports =>
    have hexecutes : session.executesPlan (.ask (.insert c text parameters row) conclude) =
        session.reaches (.insert c text parameters row) := rfl
    rw [hexecutes]
    cases hr : session.reaches (.insert c text parameters row) with
    | false =>
      obtain ⟨hspent, cause, _, hanswer⟩ := Session.perform_of_not_reaches conclude .key hr
      rcases hanswer with hanswer | ⟨hanswer, hfail⟩
      · rw [hanswer]
        exact .failed hspent fun _ h => by cases h
      · obtain ⟨why, hwhy, hunique⟩ := call.verdict_error cause
        rw [hanswer, reports, hwhy]
        exact .failed hspent fun txid h => hunique txid h ▸ hfail
    | true =>
      obtain ⟨t, ht⟩ := Collection.exists_table (Session.reaches_tables hr)
      rw [Session.perform_of_reaches conclude .key hr, Query.insert_effect ht, reports]
      exact .inserted records ht

theorem Session.operate_record (session : Session) {call : Operation} (hc : call.isRecord = true) :
    session.Outcome call (session.executes call) (session.operate call).1.answer (session.operate call).2.server := by
  cases call with
  | recordDepositRequest utxo recovery evm =>
    exact session.perform_inserts (Plan.recordDepositRequest_inserts utxo recovery evm)
  | recordMoveTx utxo recovery evm txid =>
    exact session.perform_inserts (Plan.recordMoveTx_inserts utxo recovery evm txid)
  | recordWithdrawalSig txid sig => exact session.perform_inserts (Plan.recordWithdrawalSig_inserts txid sig)
  | _ => cases hc

theorem Session.operate_clock (session : Session) (call : Operation) :
    (session.operate call).2.server.clock = session.server.clock := by
  cases hc : call.isRecord with
  | false => exact (session.operate_reads hc).clock
  | true =>
    have houtcome := session.operate_record hc
    generalize session.executes call = executed, (session.operate call).1.answer = answer,
      (session.operate call).2.server = after at houtcome ⊢
    cases houtcome with
    | failed spent _ => exact spent.clock
    | inserted _ _ => rfl

/-! ## One step -/

theorem Session.connect_spent (session : Session) : session.server.Spent session.connect.2.server := by
  have hspent := session.server.accept_spent
  unfold Session.connect
  generalize session.server.accept = accepted at hspent ⊢
  obtain ⟨_ | ⟨⟩, after⟩ := accepted <;> exact hspent

inductive Session.Alters (session : Session) : Step → Database → Prop
  | kept (step : Step) : Session.Alters session step session.server.database
  | provisioned : Session.Alters session .provision session.server.database.provisioned
  | inserted {call : Operation} {ρ : Type} {c : Collection ρ} {row : Timestamp → Int → ρ} {t : Table ρ}
      (records : call.Records c row) (present : c.table session.server.database = some t) :
      Session.Alters session (.operation call)
        (c.withTable session.server.database (t.insert c.clash (row session.server.clock)).2)
  | versions (versions : List Int) :
      Session.Alters session (.intervention (.setVersions versions))
        { session.server.database with versions := some versions }
  | nextKey (table : TableName) (key : Int) :
      Session.Alters session (.intervention (.setNextKey table key)) (session.server.database.setNextKey key table)
  | dropped (table : TableName) :
      Session.Alters session (.intervention (.dropTable table)) (session.server.database.drop table)

theorem Session.step_alters (session : Session) (step : Step) :
    session.Alters step (session.step step).2.server.database := by
  cases step with
  | provision =>
    show session.Alters .provision session.server.provision.2.database
    rcases session.server.provision_cases with ⟨_, _, hspent⟩ | ⟨_, hspent⟩ <;> rw [hspent.database]
    · exact .provisioned
    · exact .kept _
  | connect =>
    show session.Alters .connect session.connect.2.server.database
    rw [session.connect_spent.database]
    exact .kept _
  | operation call =>
    show session.Alters (.operation call) (session.operate call).2.server.database
    cases hc : call.isRecord with
    | false =>
      rw [(session.operate_reads hc).database]
      exact .kept _
    | true =>
      have houtcome := session.operate_record hc
      generalize session.executes call = executed, (session.operate call).1.answer = answer,
        (session.operate call).2.server = after at houtcome ⊢
      cases houtcome with
      | failed spent _ =>
        rw [spent.database]
        exact .kept _
      | inserted records present => exact .inserted records present
  | intervention what =>
    cases what with
    | setClock | prepareFault => exact .kept _
    | setVersions versions => exact .versions versions
    | setNextKey table key => exact .nextKey table key
    | dropTable table => exact .dropped table

theorem Session.step_faults (session : Session) (step : Step) :
    ∀ fault ∈ (session.step step).2.server.faults,
      fault ∈ session.server.faults ∨ step = .intervention (.prepareFault fault) := by
  cases step with
  | provision =>
    have hspent : session.server.faults ⊇ session.server.provision.2.faults := by
      rcases session.server.provision_cases with ⟨_, _, hspent⟩ | ⟨_, hspent⟩
      · exact hspent.faults.subset
      · exact hspent.faults.subset
    exact fun fault hmem => .inl (hspent hmem)
  | connect => exact fun fault hmem => .inl (session.connect_spent.faults.subset hmem)
  | operation call =>
    intro fault hmem
    refine .inl ?_
    cases hc : call.isRecord with
    | false => exact (session.operate_reads hc).faults.subset hmem
    | true =>
      have houtcome := session.operate_record hc
      change fault ∈ (session.operate call).2.server.faults at hmem
      generalize session.executes call = executed, (session.operate call).1.answer = answer,
        (session.operate call).2.server = after at houtcome hmem
      cases houtcome with
      | failed spent _ => exact spent.faults.subset hmem
      | inserted _ _ => exact hmem
  | intervention what =>
    cases what with
    | setClock | setVersions | setNextKey | dropTable => exact fun fault hmem => .inl hmem
    | prepareFault prepared =>
      intro fault hmem
      rcases List.mem_append.mp hmem with hmem | hmem
      · exact .inl hmem
      · rw [List.mem_singleton.mp hmem]
        exact .inr rfl

end BridgeLedger
