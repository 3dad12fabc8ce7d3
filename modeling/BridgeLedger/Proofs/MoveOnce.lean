import BridgeLedger.Proofs.Runs

/-!
# A move is recorded once

Along a run in which the table of the moves is neither dropped nor renumbered, its rows hold the transactions whose
recording has succeeded, and all of their keys lie below the next one (`MovesKept`). So an insertion that is refused as
a violation of uniqueness repeats one of these transactions, and one that repeats none of them is not refused:
`MovesKept.truthful`.
-/

namespace BridgeLedger

/-! ## What a history says about the moves -/

def Entry.recordedTxid? (entry : Entry) : Option String :=
  match entry.step, entry.answer with
  | .operation (.recordMoveTx _ _ _ txid), .ok _ => some (Hex.lowercase txid)
  | _, _ => none

def recordedTxids (history : List Entry) : List String := history.filterMap Entry.recordedTxid?

def Entry.insertsMove (entry : Entry) : Bool :=
  match entry.step with
  | .operation (.recordMoveTx _ _ _ _) => entry.executed
  | _ => false

def insertedMoves (history : List Entry) : Nat := history.countP Entry.insertsMove

theorem Entry.recordedTxid?_eq_none {entry : Entry}
    (hmove : ∀ utxo recovery evm txid, entry.step ≠ .operation (.recordMoveTx utxo recovery evm txid)) :
    entry.recordedTxid? = none := by
  unfold Entry.recordedTxid?
  split
  next hstep _ => exact absurd hstep (hmove _ _ _ _)
  next => rfl

/-- The fault refuses an execution as a violation of uniqueness that there is none of. -/
def Fault.Forges (fault : Fault) : Prop := fault.kind = .execute ∧ fault.code = some .uniqueViolation

theorem Server.not_forged {server : Server} (hgenuine : ∀ fault ∈ server.faults, ¬ fault.Forges) :
    ¬ server.MayFail .execute (.refused .uniqueViolation) := by
  rintro (hclosed | ⟨fault, hmem, hkind, herror⟩)
  · cases hclosed
  · refine hgenuine fault hmem ⟨hkind, ?_⟩
    unfold Fault.error at herror
    split at herror
    next code hcode => rw [hcode, ServerError.refused.inj herror]
    next => cases herror

theorem Session.step_genuine {session : Session} (hfaults : ∀ fault ∈ session.server.faults, ¬ fault.Forges)
    {step : Step} (hgenuine : ∀ fault, step = .intervention (.prepareFault fault) → ¬ fault.Forges) :
    ∀ fault ∈ (session.step step).2.server.faults, ¬ fault.Forges := by
  intro fault hmem
  rcases session.step_faults step fault hmem with hold | hnew
  · exact hfaults fault hold
  · exact hgenuine fault hnew

/-- If the entry is that of recording a move, its answer tells whether the transaction was recorded in the past: where
the insertion was executed, the call succeeds if not, and calls it a repetition if so; otherwise it never does. -/
def Entry.Truthful (entry : Entry) (past : List Entry) : Prop :=
  ∀ utxo recovery evm txid, entry.step = .operation (.recordMoveTx utxo recovery evm txid) →
    if entry.executed then
      if Hex.lowercase txid ∈ recordedTxids past then entry.answer = .error (.alreadyRecorded (Hex.lowercase txid))
      else ∃ key, entry.answer = .ok (.key key)
    else ∀ other, entry.answer ≠ .error (.alreadyRecorded other)

/-! ## What a step does to the moves -/

/-- The table of the moves. One that is missing counts as new. -/
def Database.moves (db : Database) : Table MoveTx := db.moveTxs.getD {}

theorem moves_of_table {db : Database} {t : Table MoveTx} (ht : moveTxs.table db = some t) : db.moves = t := by
  rw [moveTxs_table] at ht
  rw [Database.moves, ht, Option.getD_some]

theorem Session.step_moves (session : Session) {step : Step}
    (hmove : ∀ utxo recovery evm txid, step ≠ .operation (.recordMoveTx utxo recovery evm txid))
    (hdrop : step ≠ .intervention (.dropTable .moveTxs))
    (hkeys : ∀ key, step ≠ .intervention (.setNextKey .moveTxs key)) :
    (session.step step).2.server.database.moves = session.server.database.moves := by
  have halters := session.step_alters step
  generalize (session.step step).2.server.database = after at halters ⊢
  cases halters with
  | kept | versions | provisioned => rfl
  | inserted hrecords =>
    cases hrecords with
    | depositRequest | withdrawalSig => rfl
    | moveTx => exact absurd rfl (hmove _ _ _ _)
  | nextKey table key =>
    cases table with
    | version | depositRequests | withdrawalSigs => rfl
    | moveTxs => exact absurd rfl (hkeys key)
  | dropped table =>
    cases table with
    | version | depositRequests | withdrawalSigs => rfl
    | moveTxs => exact absurd rfl hdrop

theorem Session.step_moves_fresh {session : Session} (hf : session.server.database.moves.Fresh MoveTx.id) {step : Step}
    (hkeys : ∀ key, step ≠ .intervention (.setNextKey .moveTxs key)) :
    (session.step step).2.server.database.moves.Fresh MoveTx.id := by
  by_cases hdrop : step = .intervention (.dropTable .moveTxs)
  · subst hdrop
    exact fun old hold => nomatch hold
  by_cases hmove : ∃ utxo recovery evm txid, step = .operation (.recordMoveTx utxo recovery evm txid)
  · obtain ⟨utxo, recovery, evm, txid, rfl⟩ := hmove
    have halters := session.step_alters (.operation (.recordMoveTx utxo recovery evm txid))
    generalize (session.step (.operation (.recordMoveTx utxo recovery evm txid))).2.server.database = after at halters ⊢
    cases halters with
    | kept => exact hf
    | @inserted _ _ _ _ t records present =>
      cases records
      obtain rfl := moves_of_table present
      exact Table.insert_fresh hf fun _ => rfl
  · rw [session.step_moves (fun utxo recovery evm txid h => hmove ⟨utxo, recovery, evm, txid, h⟩) hdrop hkeys]
    exact hf

/-! ## The invariant -/

structure MovesKept (past : List Entry) (here : Session) : Prop where
  rows : here.server.database.moves.rows.map MoveTx.moveTxid = recordedTxids past
  fresh : here.server.database.moves.Fresh MoveTx.id
  nextKey : here.server.database.moves.nextKey ≤ insertedMoves past + 1
  nodup : (recordedTxids past).Nodup
  genuine : ∀ fault ∈ here.server.faults, ¬ fault.Forges

theorem recordedTxids_append (past : List Entry) (entry : Entry) :
    recordedTxids (past ++ [entry]) = recordedTxids past ++ entry.recordedTxid?.toList := by
  simp only [recordedTxids, List.filterMap_append]
  cases h : entry.recordedTxid? <;> simp [h]

theorem insertedMoves_append (past : List Entry) (entry : Entry) :
    insertedMoves (past ++ [entry]) = insertedMoves past + if entry.insertsMove then 1 else 0 := by
  simp only [insertedMoves, List.countP_append, List.countP_singleton]

theorem MovesKept.clash_iff {past : List Entry} {here : Session} (hkept : MovesKept past here) {row : MoveTx}
    (hid : row.id = here.server.database.moves.nextKey) :
    (∃ old ∈ here.server.database.moves.rows, moveTxs.clash row old = true) ↔ row.moveTxid ∈ recordedTxids past := by
  rw [← hkept.rows, List.mem_map]
  constructor
  · rintro ⟨old, hold, hclash⟩
    have hfresh := hkept.fresh old hold
    simp only [moveTxs, Bool.or_eq_true, beq_iff_eq] at hclash
    rcases hclash with hsame | hsame
    · omega
    · exact ⟨old, hold, hsame.symm⟩
  · rintro ⟨old, hold, hsame⟩
    exact ⟨old, hold, by simp [moveTxs, hsame]⟩

/-! ## Recording a move -/

/-- What recording a move can come to while keys are left: whether its insertion is executed, the answer, and the table
afterwards. -/
inductive MoveOutcome (t : Table MoveTx) (recorded : List String) (txid : String) :
    Bool → Except LedgerError Reply → Table MoveTx → Prop
  | failed {cause : LedgerError} (other : ∀ txid, cause ≠ .alreadyRecorded txid) :
      MoveOutcome t recorded txid false (.error cause) t
  | repeated (old : txid ∈ recorded) :
      MoveOutcome t recorded txid true (.error (.alreadyRecorded txid)) { t with nextKey := t.nextKey + 1 }
  | added {row : MoveTx} (new : txid ∉ recorded) (id : row.id = t.nextKey) (same : row.moveTxid = txid) :
      MoveOutcome t recorded txid true (.ok (.key t.nextKey))
        { rows := t.rows ++ [row], nextKey := t.nextKey + 1 }

section
variable {past : List Entry} {here : Session} {call : Operation} {utxo recovery evm txid : String}

theorem MovesKept.insert (hkept : MovesKept past here) {row : Int → MoveTx} (hid : ∀ key, (row key).id = key)
    (htxid : ∀ key, (row key).moveTxid = Hex.lowercase txid) (hmax : here.server.database.moves.nextKey ≤ maxKey) :
    MoveOutcome here.server.database.moves (recordedTxids past) (Hex.lowercase txid) true
      ((Operation.recordMoveTx utxo recovery evm txid).verdict
        ((here.server.database.moves.insert moveTxs.clash row).1.mapError .refused))
      (here.server.database.moves.insert moveTxs.clash row).2 := by
  have hclash := hkept.clash_iff (hid here.server.database.moves.nextKey)
  rw [htxid] at hclash
  rcases here.server.database.moves.insert_cases moveTxs.clash row with ⟨hover, _⟩ | ⟨_, hold, h⟩ | ⟨_, hfree, h⟩
  · omega
  · rw [h]
    exact .repeated (hclash.mp hold)
  · rw [h]
    refine .added (fun hrecorded => ?_) (hid _) (htxid _)
    obtain ⟨old, hmem, hold⟩ := hclash.mpr hrecorded
    rw [hfree old hmem] at hold
    cases hold

theorem MovesKept.operate (hkept : MovesKept past here) (hcall : call = .recordMoveTx utxo recovery evm txid)
    (hfew : insertedMoves (past ++ [here.entry (.operation call)]) ≤ maxKey) :
    MoveOutcome here.server.database.moves (recordedTxids past) (Hex.lowercase txid) (here.executes call)
      (here.operate call).1.answer (here.operate call).2.server.database.moves := by
  have hc : call.isRecord = true := by rw [hcall]; rfl
  have hinserts : (here.entry (.operation call)).insertsMove = here.executes call := by rw [hcall]; rfl
  have houtcome := here.operate_record hc
  rw [insertedMoves_append, hinserts] at hfew
  generalize here.executes call = executed, (here.operate call).1.answer = answer,
    (here.operate call).2.server = after at houtcome hfew ⊢
  subst hcall
  cases houtcome with
  | failed spent forged =>
    rw [spent.database]
    exact .failed fun other hcause => Server.not_forged hkept.genuine (forged other hcause)
  | @inserted ρ c row t records present =>
    cases records
    obtain rfl := moves_of_table present
    -- an executed insertion uses up one key, so one is left for this insertion
    have hlast := hkept.nextKey
    refine hkept.insert (fun _ => rfl) (fun _ => rfl) ?_
    rw [if_pos rfl] at hfew
    omega

theorem MovesKept.truthful (hkept : MovesKept past here) {step : Step}
    (hfew : insertedMoves (past ++ [here.entry step]) ≤ maxKey) : (here.entry step).Truthful past := by
  intro utxo recovery evm txid hstep
  obtain rfl : step = .operation (.recordMoveTx utxo recovery evm txid) := hstep
  have houtcome := hkept.operate rfl hfew
  have hexecuted : (here.entry (.operation (.recordMoveTx utxo recovery evm txid))).executed =
      here.executes (.recordMoveTx utxo recovery evm txid) := rfl
  have hanswer : (here.entry (.operation (.recordMoveTx utxo recovery evm txid))).answer =
      (here.operate (.recordMoveTx utxo recovery evm txid)).1.answer := rfl
  rw [hexecuted, hanswer]
  generalize here.executes (.recordMoveTx utxo recovery evm txid) = executed,
    (here.operate (.recordMoveTx utxo recovery evm txid)).1.answer = answer,
    (here.operate (.recordMoveTx utxo recovery evm txid)).2.server.database.moves = after at houtcome ⊢
  cases houtcome with
  | failed other => simpa using other
  | repeated old => simp [old]
  | added new => simp [new]

theorem MovesKept.extend (hkept : MovesKept past here) {entry : Entry} {there : Session}
    (hrows : there.server.database.moves.rows.map MoveTx.moveTxid = recordedTxids past ++ entry.recordedTxid?.toList)
    (hfresh : there.server.database.moves.Fresh MoveTx.id)
    (hnext : there.server.database.moves.nextKey ≤
      here.server.database.moves.nextKey + if entry.insertsMove then 1 else 0)
    (hnew : ∀ txid ∈ entry.recordedTxid?, txid ∉ recordedTxids past)
    (hgenuine : ∀ fault ∈ there.server.faults, ¬ fault.Forges) : MovesKept (past ++ [entry]) there where
  rows := hrows.trans (recordedTxids_append past entry).symm
  fresh := hfresh
  nextKey := by
    have hlast := hkept.nextKey
    have hcast : ((if entry.insertsMove then 1 else 0 : Nat) : Int) = if entry.insertsMove then 1 else 0 := by
      split <;> rfl
    rw [insertedMoves_append, Int.natCast_add, hcast]
    omega
  nodup := by
    rw [recordedTxids_append, List.nodup_append]
    refine ⟨hkept.nodup, ?_, ?_⟩
    · cases entry.recordedTxid? <;> simp
    · intro old hold txid htxid hsame
      exact hnew txid (Option.mem_toList.mp htxid) (hsame ▸ hold)
  genuine := hgenuine

theorem MovesKept.stay (hkept : MovesKept past here) {entry : Entry} {there : Session}
    (hmoves : there.server.database.moves = here.server.database.moves) (hnone : entry.recordedTxid? = none)
    (hgenuine : ∀ fault ∈ there.server.faults, ¬ fault.Forges) : MovesKept (past ++ [entry]) there := by
  refine hkept.extend ?_ ?_ ?_ ?_ hgenuine
  · rw [hmoves, hnone, hkept.rows]
    exact (List.append_nil _).symm
  · rw [hmoves]
    exact hkept.fresh
  · rw [hmoves]
    exact Int.le_add_of_nonneg_right (by split <;> decide)
  · rw [hnone]
    exact fun txid htxid => nomatch htxid

theorem MovesKept.step (hkept : MovesKept past here) {step : Step}
    (hdrop : step ≠ .intervention (.dropTable .moveTxs))
    (hkeys : ∀ key, step ≠ .intervention (.setNextKey .moveTxs key))
    (hgenuine : ∀ fault, step = .intervention (.prepareFault fault) → ¬ fault.Forges)
    (hfew : insertedMoves (past ++ [here.entry step]) ≤ maxKey) :
    MovesKept (past ++ [here.entry step]) (here.step step).2 := by
  have hfaults := Session.step_genuine hkept.genuine hgenuine
  by_cases hmove : ∃ utxo recovery evm txid, step = .operation (.recordMoveTx utxo recovery evm txid)
  · have hfresh := Session.step_moves_fresh hkept.fresh hkeys
    obtain ⟨utxo, recovery, evm, txid, rfl⟩ := hmove
    have houtcome := hkept.operate rfl hfew
    have hentry : here.entry (.operation (.recordMoveTx utxo recovery evm txid)) =
        ⟨.operation (.recordMoveTx utxo recovery evm txid),
          (here.operate (.recordMoveTx utxo recovery evm txid)).1.answer,
          here.executes (.recordMoveTx utxo recovery evm txid)⟩ := rfl
    have hstep : here.step (.operation (.recordMoveTx utxo recovery evm txid)) =
        here.operate (.recordMoveTx utxo recovery evm txid) := rfl
    rw [hstep] at hfaults hfresh
    rw [hentry, hstep]
    generalize here.executes (.recordMoveTx utxo recovery evm txid) = executed,
      (here.operate (.recordMoveTx utxo recovery evm txid)).1.answer = answer,
      (here.operate (.recordMoveTx utxo recovery evm txid)).2 = there at houtcome hfaults hfresh ⊢
    generalize hmoves : there.server.database.moves = after at houtcome
    cases houtcome with
    | failed _ => exact hkept.stay hmoves rfl hfaults
    | repeated _ =>
      refine hkept.extend ?_ hfresh ?_ ?_ hfaults
      · rw [hmoves]
        exact hkept.rows.trans (List.append_nil _).symm
      · rw [hmoves]
        exact Int.le_refl _
      · exact fun _ hother => nomatch hother
    | @added row hnew hid hsame =>
      refine hkept.extend ?_ hfresh ?_ ?_ hfaults
      · rw [hmoves, List.map_append, hkept.rows, List.map_singleton, hsame]
        rfl
      · rw [hmoves]
        exact Int.le_refl _
      · intro other hother
        cases hother
        exact hnew
  · have hother : ∀ utxo recovery evm txid, step ≠ .operation (.recordMoveTx utxo recovery evm txid) :=
      fun utxo recovery evm txid h => hmove ⟨utxo, recovery, evm, txid, h⟩
    exact hkept.stay (here.step_moves hother hdrop hkeys) (Entry.recordedTxid?_eq_none hother) hfaults

end

/-! ## Whole runs -/

theorem Session.run_movesKept {session : Session} (hempty : session.server.database = {}) {steps : List Step}
    (hdrop : .intervention (.dropTable .moveTxs) ∉ steps)
    (hkeys : ∀ key, .intervention (.setNextKey .moveTxs key) ∉ steps)
    (hgenuine : ∀ fault, fault ∈ session.server.faults ∨ .intervention (.prepareFault fault) ∈ steps → ¬ fault.Forges)
    (hfew : insertedMoves (session.history steps) ≤ maxKey) :
    MovesKept (session.history steps) (session.run steps).2 := by
  refine Session.run_induction steps
    (P := fun past here => insertedMoves past ≤ maxKey → MovesKept past here) ?_ ?_ hfew
  · intro _
    have hmoves : session.server.database.moves = {} := by rw [hempty]; rfl
    refine ⟨by rw [hmoves]; rfl, ?_, by rw [hmoves]; exact Int.le_refl 1, List.nodup_nil, ?_⟩
    · rw [hmoves]
      exact fun old hold => nomatch hold
    · exact fun fault hmem => hgenuine fault (.inl hmem)
  · intro past here step hmem hp hlast
    have hbefore : insertedMoves past ≤ maxKey := by
      rw [insertedMoves_append] at hlast
      omega
    refine (hp hbefore).step ?_ ?_ ?_ hlast
    · rintro rfl
      exact hdrop hmem
    · rintro key rfl
      exact hkeys key hmem
    · rintro fault rfl
      exact hgenuine fault (.inr hmem)

/-- From a server without tables, in a run in which the table of the moves is neither dropped nor renumbered, no fault
forges a repetition and the keys do not run out, every answer about a move is truthful; so no transaction, however it
is written, is recorded twice. -/
theorem Session.move_recorded_once (session : Session) (hempty : session.server.database = {}) (steps : List Step)
    (hdrop : .intervention (.dropTable .moveTxs) ∉ steps)
    (hkeys : ∀ key, .intervention (.setNextKey .moveTxs key) ∉ steps)
    (hgenuine : ∀ fault, fault ∈ session.server.faults ∨ .intervention (.prepareFault fault) ∈ steps → ¬ fault.Forges)
    (hfew : insertedMoves (session.history steps) ≤ maxKey) :
    (∀ past entry rest, session.history steps = past ++ entry :: rest → entry.Truthful past) ∧
      (recordedTxids (session.history steps)).Nodup := by
  refine ⟨?_, (Session.run_movesKept hempty hdrop hkeys hgenuine hfew).nodup⟩
  intro past entry rest hsplit
  obtain ⟨before, step, after, rfl, rfl, rfl⟩ := Session.history_split hsplit
  -- what bounds the whole history bounds each part of it
  have hentry : insertedMoves (session.history before ++ [(session.run before).2.entry step]) ≤ maxKey := by
    rw [hsplit, List.append_cons] at hfew
    have : insertedMoves (session.history before ++ [(session.run before).2.entry step]) ≤
        insertedMoves (session.history before ++ [(session.run before).2.entry step] ++ rest) :=
      List.Sublist.countP_le (List.sublist_append_left ..)
    omega
  have hbefore : insertedMoves (session.history before) ≤ maxKey := by
    rw [insertedMoves_append] at hentry
    omega
  refine (Session.run_movesKept hempty ?_ ?_ ?_ hbefore).truthful hentry
  · exact fun hmem => hdrop (List.mem_append_left _ hmem)
  · exact fun key hmem => hkeys key (List.mem_append_left _ hmem)
  · exact fun fault hfault => hgenuine fault (hfault.imp_right (List.mem_append_left _))

def repeatedMove : List Step :=
  [.provision,
    .operation (.recordMoveTx "utxo" "recovery" (String.ofList (List.replicate 40 'e'))
      (String.ofList (List.replicate 64 'A'))),
    .operation (.recordMoveTx "other" "place" (String.ofList (List.replicate 40 'f'))
      (String.ofList (List.replicate 64 'a')))]

theorem repeatedMove_refused :
    .intervention (.dropTable .moveTxs) ∉ repeatedMove ∧
      (∀ key, .intervention (.setNextKey .moveTxs key) ∉ repeatedMove) ∧
      (∀ fault, fault ∈ ({} : Server).faults ∨ .intervention (.prepareFault fault) ∈ repeatedMove → ¬ fault.Forges) ∧
      insertedMoves (Session.history {} repeatedMove) ≤ maxKey ∧
      ∃ first second key, (Session.history {} repeatedMove).drop 1 = [first, second] ∧ first.answer = .ok (.key key) ∧
        second.answer = .error (.alreadyRecorded (String.ofList (List.replicate 64 'a'))) := by
  have hdrop : .intervention (.dropTable .moveTxs) ∉ repeatedMove := by simp [repeatedMove]
  have hkeys : ∀ key, .intervention (.setNextKey .moveTxs key) ∉ repeatedMove := by simp [repeatedMove]
  have hgenuine : ∀ fault, fault ∈ ({} : Server).faults ∨ .intervention (.prepareFault fault) ∈ repeatedMove →
      ¬ fault.Forges := by simp [repeatedMove]
  have hfew : insertedMoves (Session.history {} repeatedMove) ≤ maxKey := by
    have hlength : insertedMoves (Session.history {} repeatedMove) ≤ 3 := List.countP_le_length
    exact Int.le_trans (Int.ofNat_le.mpr hlength) (by decide)
  obtain ⟨htruth, _⟩ := Session.move_recorded_once {} rfl repeatedMove hdrop hkeys hgenuine hfew
  have hexecuted : (Session.history {} repeatedMove).map Entry.executed = [false, true, true] := by decide +kernel
  have hupper : Hex.lowercase (String.ofList (List.replicate 64 'A')) = String.ofList (List.replicate 64 'a') := by
    decide +kernel
  have hlower : Hex.lowercase (String.ofList (List.replicate 64 'a')) = String.ofList (List.replicate 64 'a') := by
    decide +kernel
  obtain ⟨start, first, second, hhistory⟩ : ∃ start first second, Session.history {} repeatedMove =
      [start, first, second] := ⟨_, _, _, rfl⟩
  have hsteps := Session.history_steps {} repeatedMove
  simp only [hhistory, List.map_cons, List.map_nil, List.cons.injEq, and_true] at hexecuted hsteps
  obtain ⟨hstart, hfirst, hsecond⟩ : start.step = .provision ∧ first.step = _ ∧ second.step = _ := by
    simpa only [repeatedMove, List.cons.injEq, and_true] using hsteps
  have hnone : start.recordedTxid? = none := Entry.recordedTxid?_eq_none (by simp [hstart])
  have hrecorded := htruth [start] first [second] hhistory _ _ _ _ hfirst
  rw [if_pos hexecuted.2.1, if_neg (by simp [recordedTxids, hnone])] at hrecorded
  obtain ⟨key, hkey⟩ := hrecorded
  have htxid : first.recordedTxid? = some (String.ofList (List.replicate 64 'a')) := by
    simp only [Entry.recordedTxid?, hfirst, hkey, hupper]
  have hrefused := htruth [start, first] second [] hhistory _ _ _ _ hsecond
  rw [if_pos hexecuted.2.2, hlower, if_pos (by simp [recordedTxids, hnone, htxid])] at hrefused
  exact ⟨hdrop, hkeys, hgenuine, hfew, first, second, key, by rw [hhistory]; rfl, hkey, hrefused⟩

end BridgeLedger
