import BridgeLedger.Proofs.Lookups
import BridgeLedger.Proofs.MoveOnce
import BridgeLedger.Proofs.Planning

/-!
# Repetitions and where to find them

A move that is said to repeat another was refused as a violation of uniqueness. Mostly that is because its transaction
is stored, and then a lookup finds it. But the key of a move is unique too. Once the keys have been set back, a move may
clash with a row that has nothing to do with it, and the transaction that it is said to repeat is stored nowhere
(`Session.repetition_not_found`). That is the only exception: `Session.repetition_found`.
-/

namespace BridgeLedger

theorem Hex.lowercase_lowercase (text : String) : Hex.lowercase (Hex.lowercase text) = Hex.lowercase text := by
  unfold Hex.lowercase
  rw [← String.toList_inj, String.toList_map, String.toList_map, List.map_map]
  exact List.map_congr_left fun c _ => Hex.toLower_toLower c

/-! ## The refused call -/

theorem Session.operate_live {session : Session} {call : Operation} (h : session.executes call = true) :
    (session.operate call).2.connection = .live := by
  rw [session.operate_eq]
  unfold Session.executes at h
  generalize call.planned = planned at h ⊢
  obtain ⟨wrap, plan⟩ := planned
  cases plan with
  | decided => cases h
  | ask query conclude => rw [Session.perform_of_reaches conclude wrap h]

/-- The insertion was executed, and refused for a row that has its key or its transaction. -/
structure Session.Repetition (session : Session) (txid : String) (table : Table MoveTx) (after : Session) : Prop where
  present : session.server.database.moveTxs = some table
  clash : ∃ old ∈ table.rows, old.id = table.nextKey ∨ old.moveTxid = txid
  server : after.server = { session.server with
    database := { session.server.database with moveTxs := some { table with nextKey := table.nextKey + 1 } } }
  live : after.connection = .live

theorem Session.repetition {session : Session} (hgenuine : ∀ fault ∈ session.server.faults, ¬ fault.Forges)
    {utxo recovery evm txid t : String}
    (h : (session.operate (.recordMoveTx utxo recovery evm txid)).1.answer = .error (.alreadyRecorded t)) :
    t = Hex.lowercase txid ∧
      ∃ table, session.Repetition t table (session.operate (.recordMoveTx utxo recovery evm txid)).2 := by
  have houtcome := @Session.operate_record session (.recordMoveTx utxo recovery evm txid) rfl
  have hlive := @Session.operate_live session (.recordMoveTx utxo recovery evm txid)
  generalize session.executes (.recordMoveTx utxo recovery evm txid) = executed,
    (session.operate (.recordMoveTx utxo recovery evm txid)).1.answer = answer,
    (session.operate (.recordMoveTx utxo recovery evm txid)).2 = after at h houtcome hlive ⊢
  generalize hserver : after.server = server at houtcome
  cases houtcome with
  | failed _ forged => exact absurd (forged t (Except.error.inj h)) (Server.not_forged hgenuine)
  | @inserted _ _ _ table records present =>
    cases records
    rcases table.insert_cases moveTxs.clash _ with
      ⟨_, hinsert⟩ | ⟨_, ⟨old, hold, hclash⟩, hinsert⟩ | ⟨_, _, hinsert⟩ <;> rw [hinsert] at h hserver
    · cases h
    · obtain rfl : Hex.lowercase txid = t := LedgerError.alreadyRecorded.inj (Except.error.inj h)
      refine ⟨rfl, table, present, ⟨old, hold, ?_⟩, hserver, hlive rfl⟩
      simp only [moveTxs, Bool.or_eq_true, beq_iff_eq] at hclash
      exact hclash.imp Eq.symm Eq.symm
    · cases h

/-! ## The lookup -/

theorem SoundDatabase.renumbered {db : Database} (hs : SoundDatabase db) {table : Table MoveTx}
    (hpresent : db.moveTxs = some table) (key : Int) :
    SoundDatabase { db with moveTxs := some { table with nextKey := key } } := by
  have hrenumbered : { db with moveTxs := some { table with nextKey := key } } = db.setNextKey key .moveTxs := by
    simp only [Database.setNextKey, hpresent, Option.map_some]
  rw [hrenumbered]
  exact hs.setNextKey .moveTxs key

theorem Session.Repetition.lookup {session after : Session} {t : String} {table : Table MoveTx}
    (h : session.Repetition t table after) (hs : SoundDatabase session.server.database)
    (hnormal : Hex.lowercase t = t) (hquiet : after.Undisturbed (Operation.moveTxWithTxid t).planned.plan) :
    ∃ found, (after.operate (.moveTxWithTxid t)).1.answer = .ok (.moveTx found) ∧
      (∀ row, found = some row ↔ row ∈ table.rows ∧ row.moveTxid = t) ∧
      (found = none → ∃ row ∈ table.rows, row.id = table.nextKey) := by
  have hafter : SoundDatabase after.server.database := by
    rw [h.server]
    exact hs.renumbered h.present _
  have hpresent : moveTxs.table after.server.database = some { table with nextKey := table.nextKey + 1 } := by
    rw [h.server, moveTxs_table]
  obtain ⟨hanswers, _⟩ := @Session.operate_lookup _ hafter (.moveTxWithTxid t) _ rfl
  obtain ⟨found, hanswer, hfound⟩ := hanswers hquiet _ hpresent
  simp only [hnormal, beq_iff_eq] at hfound
  rw [after.operate_eq]
  refine ⟨found, hanswer, hfound, ?_⟩
  rintro rfl
  obtain ⟨old, hold, hkey | htxid⟩ := h.clash
  · exact ⟨old, hold, hkey⟩
  · cases (hfound old).mpr ⟨hold, htxid⟩

/-! ## Whole runs -/

section
variable {start : Session} {steps : List Step}

theorem Session.run_genuine
    (hgenuine : ∀ fault, fault ∈ start.server.faults ∨ .intervention (.prepareFault fault) ∈ steps → ¬ fault.Forges) :
    ∀ fault ∈ (start.run steps).2.server.faults, ¬ fault.Forges := by
  refine Session.run_induction (P := fun _ here => ∀ fault ∈ here.server.faults, ¬ fault.Forges) steps
    (fun fault hmem => hgenuine fault (.inl hmem)) fun _ here step hmem hp => Session.step_genuine hp ?_
  rintro fault rfl
  exact hgenuine fault (.inr hmem)

theorem Session.run_moves_fresh (hempty : start.server.database = {})
    (hkeys : ∀ key, .intervention (.setNextKey .moveTxs key) ∉ steps) :
    (start.run steps).2.server.database.moves.Fresh MoveTx.id := by
  refine Session.run_induction (P := fun _ here => here.server.database.moves.Fresh MoveTx.id) steps ?_
    fun _ here step hmem hp => Session.step_moves_fresh hp ?_
  · rw [hempty]
    exact fun old hold => nomatch hold
  · rintro key rfl
    exact hkeys key hmem

end

/-- Where no fault forges a violation of uniqueness, a move that is said to repeat another is found by the lookup for
its transaction, or was refused because a row had its key already. The latter takes a run that sets the keys back. -/
theorem Session.repetition_found (start : Session) (hempty : start.server.database = {}) (steps : List Step)
    (hgenuine : ∀ fault, fault ∈ start.server.faults ∨ .intervention (.prepareFault fault) ∈ steps → ¬ fault.Forges)
    {utxo recovery evm txid t : String}
    (hrepeated : ((start.run steps).2.operate (.recordMoveTx utxo recovery evm txid)).1.answer =
      .error (.alreadyRecorded t))
    (hquiet : ((start.run steps).2.operate (.recordMoveTx utxo recovery evm txid)).2.Undisturbed
      (Operation.moveTxWithTxid t).planned.plan) :
    t = Hex.lowercase txid ∧ ∃ table found, (start.run steps).2.server.database.moveTxs = some table ∧
      (((start.run steps).2.operate (.recordMoveTx utxo recovery evm txid)).2.operate (.moveTxWithTxid t)).1.answer =
        .ok (.moveTx found) ∧
      (∀ row, found = some row ↔ row ∈ table.rows ∧ row.moveTxid = t) ∧
      (found = none → ∃ row ∈ table.rows, row.id = table.nextKey) ∧
      ((∀ key, .intervention (.setNextKey .moveTxs key) ∉ steps) → found ≠ none) := by
  obtain ⟨rfl, table, hrepetition⟩ := Session.repetition (Session.run_genuine hgenuine) hrepeated
  obtain ⟨found, hanswer, hfound, hnone⟩ := hrepetition.lookup (Session.run_sound_of_empty hempty steps)
    (Hex.lowercase_lowercase txid) hquiet
  refine ⟨rfl, table, found, hrepetition.present, hanswer, hfound, hnone, fun hkeys hlost => ?_⟩
  -- keys that were never set back lie below the next one
  obtain ⟨row, hrow, hkey⟩ := hnone hlost
  have hfresh := Session.run_moves_fresh hempty hkeys
  rw [moves_of_table hrepetition.present] at hfresh
  have := hfresh row hrow
  omega

def restoredRun : List Step :=
  [.provision,
    .operation (.recordMoveTx "utxo" "recovery" (String.ofList (List.replicate 40 'e'))
      (String.ofList (List.replicate 64 'b'))),
    .intervention (.setNextKey .moveTxs 1)]

def otherMove : Operation :=
  .recordMoveTx "utxo" "recovery" (String.ofList (List.replicate 40 'e')) (String.ofList (List.replicate 64 'c'))

theorem otherMove_unseen :
    ((Session.run {} restoredRun).2.operate otherMove).1.answer =
        .error (.alreadyRecorded (String.ofList (List.replicate 64 'c'))) ∧
      ((Session.run {} restoredRun).2.operate otherMove).2.connection = .live ∧
      ((Session.run {} restoredRun).2.operate otherMove).2.server.faults = [] ∧
      (((Session.run {} restoredRun).2.operate otherMove).2.operate
        (.moveTxWithTxid (String.ofList (List.replicate 64 'c')))).1.answer = .ok (.moveTx none) := by
  decide +kernel

theorem otherMove_refused :
    (∀ fault, fault ∈ ({} : Session).server.faults ∨ .intervention (.prepareFault fault) ∈ restoredRun →
        ¬ fault.Forges) ∧
      ∃ table, (Session.run {} restoredRun).2.server.database.moveTxs = some table ∧
        ∃ row ∈ table.rows, row.id = table.nextKey := by
  obtain ⟨hrepeated, hlive, hnone, hunseen⟩ := otherMove_unseen
  have hgenuine : ∀ fault, fault ∈ ({} : Session).server.faults ∨
      .intervention (.prepareFault fault) ∈ restoredRun → ¬ fault.Forges := by simp [restoredRun]
  obtain ⟨_, table, found, hpresent, hanswer, _, hclash, _⟩ := Session.repetition_found {} rfl restoredRun hgenuine
    hrepeated (Session.undisturbed_of_no_faults hlive hnone _)
  have hfound := Except.ok.inj (hunseen.symm.trans hanswer)
  exact ⟨hgenuine, table, hpresent, hclash (Reply.moveTx.inj hfound).symm⟩

/-- Without any fault, a move may be said to repeat one that the lookup does not find. -/
theorem Session.repetition_not_found :
    ¬ ∀ (steps : List Step) (utxo recovery evm txid t : String),
      (∀ fault, .intervention (.prepareFault fault) ∈ steps → fault.code ≠ some .uniqueViolation) →
      ((Session.run {} steps).2.operate (.recordMoveTx utxo recovery evm txid)).1.answer =
        .error (.alreadyRecorded t) →
      ((Session.run {} steps).2.operate (.recordMoveTx utxo recovery evm txid)).2.Undisturbed
        (Operation.moveTxWithTxid t).planned.plan →
      ∃ row, (((Session.run {} steps).2.operate (.recordMoveTx utxo recovery evm txid)).2.operate
        (.moveTxWithTxid t)).1.answer = .ok (.moveTx (some row)) ∧ row.moveTxid = t := by
  intro hclaim
  obtain ⟨hrepeated, hlive, hnone, hunseen⟩ := otherMove_unseen
  obtain ⟨row, hrow, _⟩ := hclaim restoredRun _ _ _ _ _ (by simp [restoredRun]) hrepeated
    (Session.undisturbed_of_no_faults hlive hnone _)
  have hfound := Except.ok.inj (hunseen.symm.trans hrow)
  cases Reply.moveTx.inj hfound

end BridgeLedger
