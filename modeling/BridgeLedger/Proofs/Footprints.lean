import BridgeLedger.Proofs.Effects

/-!
# The footprint of a call

A record call that is executed finds the keys used up, is refused for a row that stands there already, or stores its
row. Of these the last two leave a trace: a row that is refused has used up a key. A call that is not executed leaves
none, whatever it answers (`Session.operate_footprint`). So a failure does not tell whether the database is as it was;
`Session.Refuses` does: `Session.operate_effect`.
-/

namespace BridgeLedger

/-! ## Refusals -/

/-- The table of the call has a key left for a row, but holds that key already, or the transaction of the call. -/
def Database.Repeats (db : Database) : Operation → Prop
  | .recordDepositRequest _ _ _ =>
    ∃ t, db.depositRequests = some t ∧ t.nextKey ≤ maxKey ∧ ∃ old ∈ t.rows, old.id = t.nextKey
  | .recordMoveTx _ _ _ txid =>
    ∃ t, db.moveTxs = some t ∧ t.nextKey ≤ maxKey ∧
      ∃ old ∈ t.rows, old.id = t.nextKey ∨ old.moveTxid = Hex.lowercase txid
  | .recordWithdrawalSig _ _ =>
    ∃ t, db.withdrawalSigs = some t ∧ t.nextKey ≤ maxKey ∧ ∃ old ∈ t.rows, old.idx = t.nextKey
  | _ => False

def Database.nextKey? (db : Database) : Operation → Option Int
  | .recordDepositRequest _ _ _ => db.depositRequests.map Table.nextKey
  | .recordMoveTx _ _ _ _ => db.moveTxs.map Table.nextKey
  | .recordWithdrawalSig _ _ => db.withdrawalSigs.map Table.nextKey
  | _ => none

def Database.Exhausted (db : Database) (call : Operation) : Prop := ∃ key ∈ db.nextKey? call, maxKey < key

def Session.Refuses (session : Session) (call : Operation) : Prop :=
  session.executes call = true ∧ session.server.database.Repeats call

theorem Session.not_refuses_of_reads (session : Session) {call : Operation} (hc : call.isRecord = false) :
    ¬ session.Refuses call := by
  intro ⟨_, hrepeats⟩
  cases call with
  | recordDepositRequest | recordMoveTx | recordWithdrawalSig => cases hc
  | _ => exact hrepeats

section
variable {call : Operation} {ρ : Type} {c : Collection ρ} {row : Timestamp → Int → ρ} {db : Database} {t : Table ρ}
  (records : call.Records c row) (present : c.table db = some t)
include records

theorem Operation.Records.verdict_ok (key : Int) : call.verdict (.ok key) = .ok (.key key) := by
  cases records <;> rfl

include present

theorem Operation.Records.repeats_iff (now : Timestamp) :
    db.Repeats call ↔ t.nextKey ≤ maxKey ∧ ∃ old ∈ t.rows, c.clash (row now t.nextKey) old = true := by
  simp only [c.clash_comm (row now t.nextKey)]
  cases records with
  | depositRequest | moveTx | withdrawalSig =>
    simp only [depositRequests_table, moveTxs_table, withdrawalSigs_table] at present
    simp [Database.Repeats, present, depositRequests, moveTxs, withdrawalSigs]

theorem Operation.Records.exhausted_iff : db.Exhausted call ↔ maxKey < t.nextKey := by
  cases records with
  | depositRequest | moveTx | withdrawalSig =>
    simp only [depositRequests_table, moveTxs_table, withdrawalSigs_table] at present
    simp [Database.Exhausted, Database.nextKey?, present]

theorem Operation.Records.withTable_present : c.withTable db t = db := by
  cases records with
  | depositRequest | moveTx | withdrawalSig =>
    simp only [depositRequests_table, moveTxs_table, withdrawalSigs_table] at present
    simp [← present]

end

/-! ## Footprints -/

inductive Session.Footprint (session : Session) (call : Operation) : Except LedgerError Reply → Database → Prop
  | read (reads : call.isRecord = false) (answer : Except LedgerError Reply) :
      Session.Footprint session call answer session.server.database
  /-- The failure is called a repetition only if a fault says so. -/
  | failed {cause : LedgerError} (isRecord : call.isRecord = true) (other : ¬ session.Refuses call)
      (unable : session.executes call = true → session.server.database.Exhausted call)
      (forged : ∀ txid, cause = .alreadyRecorded txid → session.server.MayFail .execute (.refused .uniqueViolation)) :
      Session.Footprint session call (.error cause) session.server.database
  | refused {ρ : Type} {c : Collection ρ} {row : Timestamp → Int → ρ} {t : Table ρ} (records : call.Records c row)
      (present : c.table session.server.database = some t) (refuses : session.Refuses call) :
      Session.Footprint session call (call.verdict (.error (.refused .uniqueViolation)))
        (c.withTable session.server.database { t with nextKey := t.nextKey + 1 })
  | stored {ρ : Type} {c : Collection ρ} {row : Timestamp → Int → ρ} {t : Table ρ} (records : call.Records c row)
      (present : c.table session.server.database = some t) (room : t.nextKey ≤ maxKey)
      (other : ¬ session.Refuses call) :
      Session.Footprint session call (.ok (.key t.nextKey))
        (c.withTable session.server.database
          { rows := t.rows ++ [row session.server.clock t.nextKey], nextKey := t.nextKey + 1 })

theorem Session.operate_footprint (session : Session) (call : Operation) :
    session.Footprint call (session.operate call).1.answer (session.operate call).2.server.database := by
  cases hc : call.isRecord with
  | false =>
    rw [(session.operate_reads hc).database]
    exact .read hc _
  | true =>
    have houtcome := session.operate_record hc
    generalize hexecutes : session.executes call = executed, (session.operate call).1.answer = answer,
      (session.operate call).2.server = after at houtcome ⊢
    cases houtcome with
    | failed spent forged =>
      rw [spent.database]
      have hnot : session.executes call ≠ true := by
        rw [hexecutes]
        exact Bool.false_ne_true
      exact .failed hc (fun hrefuses => hnot hrefuses.1) (fun h => absurd h hnot) forged
    | @inserted ρ c row t records present =>
      have hrepeats := records.repeats_iff present session.server.clock
      rcases t.insert_cases c.clash (row session.server.clock) with
        ⟨hfull, h⟩ | ⟨hroom, hold, h⟩ | ⟨hroom, hfree, h⟩ <;> simp only [h]
      · -- the keys are used up, and this is no refusal
        obtain ⟨cause, hcause, hunique⟩ := call.verdict_error (.refused .sequenceExhausted)
        have hanswer : call.verdict (Except.mapError .refused (.error .sequenceExhausted)) = .error cause := hcause
        rw [hanswer, records.withTable_present present]
        refine .failed hc (fun hrefuses => ?_) (fun _ => (records.exhausted_iff present).mpr hfull) fun txid h => ?_
        · have := (hrepeats.mp hrefuses.2).1
          omega
        · exact absurd (hunique txid h) (by decide)
      · exact .refused records present ⟨hexecutes, hrepeats.mpr ⟨hroom, hold⟩⟩
      · have hanswer : call.verdict (Except.mapError .refused (.ok t.nextKey)) = .ok (.key t.nextKey) :=
          records.verdict_ok t.nextKey
        rw [hanswer]
        refine .stored records present hroom fun hrefuses => ?_
        obtain ⟨_, old, hmem, hold⟩ := hrepeats.mp hrefuses.2
        rw [hfree old hmem] at hold
        cases hold

/-! ## Rows stay -/

def Table.Extends {ρ : Type} (before after : Table ρ) : Prop := before.rows <+: after.rows

/-- The same tables are there, and each begins with the rows it had. -/
structure Database.Extends (before after : Database) : Prop where
  versions : after.versions = before.versions
  depositRequests : Option.Rel Table.Extends before.depositRequests after.depositRequests
  moveTxs : Option.Rel Table.Extends before.moveTxs after.moveTxs
  withdrawalSigs : Option.Rel Table.Extends before.withdrawalSigs after.withdrawalSigs

theorem Table.extends_refl {ρ : Type} (t : Option (Table ρ)) : Option.Rel Table.Extends t t := by
  cases t with
  | none => exact .none
  | some t => exact .some (List.prefix_refl t.rows)

theorem Database.Extends.refl (db : Database) : db.Extends db :=
  ⟨rfl, Table.extends_refl _, Table.extends_refl _, Table.extends_refl _⟩

theorem Operation.Records.extends_withTable {call : Operation} {ρ : Type} {c : Collection ρ}
    {row : Timestamp → Int → ρ} {db : Database} {t t' : Table ρ} (records : call.Records c row)
    (present : c.table db = some t) (hrows : t.rows <+: t'.rows) : db.Extends (c.withTable db t') := by
  cases records with
  | depositRequest | moveTx | withdrawalSig =>
    simp only [depositRequests_table, moveTxs_table, withdrawalSigs_table] at present
    constructor <;> first | rfl | exact Table.extends_refl _ | exact present ▸ .some hrows

theorem Session.Footprint.extends {session : Session} {call : Operation} {answer : Except LedgerError Reply}
    {after : Database} (h : session.Footprint call answer after) : session.server.database.Extends after := by
  cases h with
  | read | failed => exact .refl _
  | refused records present _ => exact records.extends_withTable present (List.prefix_refl _)
  | stored records present _ _ => exact records.extends_withTable present (List.prefix_append _ _)

/-! ## The effect of a call -/

inductive Operation.Stores (call : Operation) (now : Timestamp) (db : Database) : Reply → Database → Prop
  | appended {ρ : Type} {c : Collection ρ} {row : Timestamp → Int → ρ} {t : Table ρ} (records : call.Records c row)
      (present : c.table db = some t) (room : t.nextKey ≤ maxKey) :
      Operation.Stores call now db (.key t.nextKey)
        (c.withTable db { rows := t.rows ++ [row now t.nextKey], nextKey := t.nextKey + 1 })

inductive Operation.Skips (call : Operation) (db : Database) : Database → Prop
  | advanced {ρ : Type} {c : Collection ρ} {row : Timestamp → Int → ρ} {t : Table ρ} (records : call.Records c row)
      (present : c.table db = some t) :
      Operation.Skips call db (c.withTable db { t with nextKey := t.nextKey + 1 })

theorem Operation.verdict_ne_ok (call : Operation) (cause : ServerError) (reply : Reply) :
    call.verdict (.error cause) ≠ .ok reply := by
  obtain ⟨why, hwhy, _⟩ := call.verdict_error cause
  rw [hwhy]
  intro h
  cases h

section
variable {session : Session} {call : Operation} {answer : Except LedgerError Reply} {after : Database}
  (hfootprint : session.Footprint call answer after)
include hfootprint

theorem Session.Footprint.of_ok (hc : call.isRecord = true) {reply : Reply} (hok : answer = .ok reply) :
    call.Stores session.server.clock session.server.database reply after := by
  cases hfootprint with
  | read reads _ =>
    rw [hc] at reads
    cases reads
  | failed _ _ _ _ => cases hok
  | refused _ _ _ => exact absurd hok (call.verdict_ne_ok _ reply)
  | stored records present room _ =>
    cases hok
    exact .appended records present room

theorem Session.Footprint.of_refuses (hrefuses : session.Refuses call) :
    answer = call.verdict (.error (.refused .uniqueViolation)) ∧ call.Skips session.server.database after := by
  cases hfootprint with
  | read reads _ => exact absurd hrefuses (session.not_refuses_of_reads reads)
  | failed _ other _ _ => exact absurd hrefuses other
  | refused records present _ => exact ⟨rfl, .advanced records present⟩
  | stored _ _ _ other => exact absurd hrefuses other

theorem Session.Footprint.exists_ok (hc : call.isRecord = true) (hexecutes : session.executes call = true)
    (hroom : ¬ session.server.database.Exhausted call) (hother : ¬ session.Refuses call) :
    ∃ reply, answer = .ok reply := by
  cases hfootprint with
  | read reads _ =>
    rw [hc] at reads
    cases reads
  | failed _ _ unable _ => exact absurd (unable hexecutes) hroom
  | refused _ _ refuses => exact absurd refuses hother
  | stored _ _ _ _ => exact ⟨_, rfl⟩

theorem Session.Footprint.of_error (hother : ¬ session.Refuses call) {cause : LedgerError}
    (herror : answer = .error cause) : after = session.server.database := by
  cases hfootprint with
  | read | failed => rfl
  | refused _ _ refuses => exact absurd refuses hother
  | stored _ _ _ _ => cases herror

end

/-- A record call that succeeds appends its row to its own table and advances the next key of that table by one. One
that is refused for its key or its transaction fails, adds nothing and advances that key alone. Every other failure
leaves the whole database as it was, and so does every other call, whatever it answers. No row ever changes or goes. And
a record call that is executed fails only if it is refused or the keys are used up. -/
theorem Session.operate_effect (session : Session) (call : Operation) :
    (call.isRecord = true → ∀ reply, (session.operate call).1.answer = .ok reply →
        call.Stores session.server.clock session.server.database reply (session.operate call).2.server.database) ∧
      (session.Refuses call →
        (session.operate call).1.answer = call.verdict (.error (.refused .uniqueViolation)) ∧
          (∀ reply, (session.operate call).1.answer ≠ .ok reply) ∧
          call.Skips session.server.database (session.operate call).2.server.database) ∧
      (¬ session.Refuses call → ∀ cause, (session.operate call).1.answer = .error cause →
        (session.operate call).2.server.database = session.server.database) ∧
      (call.isRecord = false → (session.operate call).2.server.database = session.server.database) ∧
      session.server.database.Extends (session.operate call).2.server.database ∧
      (call.isRecord = true → session.executes call = true → ¬ session.server.database.Exhausted call →
        ¬ session.Refuses call → ∃ reply, (session.operate call).1.answer = .ok reply) := by
  have hfootprint := session.operate_footprint call
  refine ⟨?_, ?_, ?_, ?_, hfootprint.extends, ?_⟩
  · intro hc reply hok
    exact hfootprint.of_ok hc hok
  · intro hrefuses
    obtain ⟨hanswer, hskips⟩ := hfootprint.of_refuses hrefuses
    refine ⟨hanswer, fun reply => ?_, hskips⟩
    rw [hanswer]
    exact call.verdict_ne_ok _ reply
  · intro hother cause herror
    exact hfootprint.of_error hother herror
  · intro hc
    exact (session.operate_reads hc).database
  · intro hc hexecutes hroom hother
    exact hfootprint.exists_ok hc hexecutes hroom hother

def firstRequest : DepositRequest := ⟨1, "utxo", "recovery", String.ofList (List.replicate 40 'a'), ⟨0⟩⟩

def requestsServer (nextKey : Int) : Server where
  database := { depositRequests := some ⟨[firstRequest], nextKey⟩ }

def anotherRequest : Operation := .recordDepositRequest "other" "place" (String.ofList (List.replicate 40 'B'))

/-- A refusal that a fault makes up, for a table that could hold the row. -/
def forgedRefusal : Fault := { kind := .execute, code := some .uniqueViolation }

/-- The key of the first request is given out once more, then the next one; and in between, a fault keeps it back. -/
theorem anotherRequest_refused :
    ((Session.mk (requestsServer 1) .live).operate anotherRequest).1.answer =
        .error (.server (.refused .uniqueViolation)) ∧
      ((Session.mk (requestsServer 1) .live).operate anotherRequest).2.server.database = (requestsServer 2).database ∧
      ((Session.mk { requestsServer 2 with faults := [forgedRefusal] } .live).operate
        anotherRequest).2.server.database = (requestsServer 2).database ∧
      ((Session.mk (requestsServer 2) .live).operate anotherRequest).2.server.database =
        { depositRequests := some ⟨[firstRequest,
            ⟨2, "other", "place", Hex.lowercase (String.ofList (List.replicate 40 'B')), ⟨0⟩⟩], 3⟩ } := by
  obtain ⟨_, hrefused, _⟩ := Session.operate_effect ⟨requestsServer 1, .live⟩ anotherRequest
  obtain ⟨_, _, hforged, _⟩ :=
    Session.operate_effect ⟨{ requestsServer 2 with faults := [forgedRefusal] }, .live⟩ anotherRequest
  obtain ⟨hstores, _, _, _, _, hok⟩ := Session.operate_effect ⟨requestsServer 2, .live⟩ anotherRequest
  have hrefuses : (Session.mk (requestsServer 1) .live).Refuses anotherRequest :=
    ⟨by decide +kernel, _, rfl, by decide, firstRequest, List.mem_singleton.mpr rfl, rfl⟩
  obtain ⟨hanswer, _, hskips⟩ := hrefused hrefuses
  refine ⟨hanswer, ?_, ?_, ?_⟩
  · generalize (Session.operate _ anotherRequest).2.server.database = after at hskips ⊢
    cases hskips with
    | advanced records present =>
      cases records
      cases present
      rfl
  · have hspared : ¬ (Session.mk { requestsServer 2 with faults := [forgedRefusal] } .live).Refuses anotherRequest :=
      fun h => absurd h.1 (by decide +kernel)
    have hfails : ((Session.mk { requestsServer 2 with faults := [forgedRefusal] } .live).operate
        anotherRequest).1.answer.toOption = none := by decide +kernel
    cases herror : ((Session.mk { requestsServer 2 with faults := [forgedRefusal] } .live).operate
        anotherRequest).1.answer with
    | error cause => exact hforged hspared cause herror
    | ok reply =>
      rw [herror] at hfails
      cases hfails
  · have hroom : ¬ (requestsServer 2).database.Exhausted anotherRequest := by
      intro ⟨key, hkey, hfull⟩
      cases hkey
      exact absurd hfull (by decide)
    have hnew : ¬ (Session.mk (requestsServer 2) .live).Refuses anotherRequest := by
      intro ⟨_, t, ht, _, old, hmem, hold⟩
      cases ht
      cases List.mem_singleton.mp hmem
      exact absurd hold (by decide)
    obtain ⟨reply, hreply⟩ := hok rfl (by decide +kernel) hroom hnew
    have hadded := hstores rfl reply hreply
    generalize (Session.operate _ anotherRequest).2.server.database = after at hadded ⊢
    cases hadded with
    | appended records present _ =>
      cases records
      cases present
      rfl

end BridgeLedger
