import BridgeLedger.Proofs.Footprints
import BridgeLedger.Proofs.Journal
import BridgeLedger.Proofs.Lookups
import BridgeLedger.Proofs.MoveOnce

/-!
# Keys tell the history

While no table is dropped or renumbered, a table has given out the keys from one up to some number, and its rows have
some of these in the order of their insertion (`Table.Numbered`). That number is the number of rows, but for the moves,
where a refused repetition uses up a key as well; a failure of any other kind uses up none (`takenKeys`). As the order
of the keys is then that of the journal, the lookups that answer in the order of keys answer in the order of the
calls, which is that of the clock unless it was set back: `Session.keys_tell_history`.
-/

namespace BridgeLedger

/-! ## Keys that a table gave out -/

/-- The table gave out the keys from one to `taken`, and its rows have theirs in order. -/
structure Table.Numbered {ρ : Type} (t : Table ρ) (key : ρ → Int) (taken : Nat) : Prop where
  nextKey : t.nextKey = taken + 1
  fresh : t.Fresh key
  ordered : t.rows.Pairwise fun a b => key a < key b

section
variable {ρ : Type} {t : Table ρ} {key : ρ → Int} {taken : Nat}

theorem Table.new_numbered (key : ρ → Int) : ({} : Table ρ).Numbered key 0 :=
  ⟨rfl, fun _ hrow => (nomatch hrow), List.Pairwise.nil⟩

theorem Table.Numbered.skip (hn : t.Numbered key taken) :
    Table.Numbered { t with nextKey := t.nextKey + 1 } key (taken + 1) where
  nextKey := by rw [hn.nextKey]; rfl
  fresh := hn.fresh.skip
  ordered := hn.ordered

theorem Table.Numbered.append (hn : t.Numbered key taken) {row : ρ} (hrow : key row = t.nextKey) :
    Table.Numbered { rows := t.rows ++ [row], nextKey := t.nextKey + 1 } key (taken + 1) where
  nextKey := by rw [hn.nextKey]; rfl
  fresh := hn.fresh.append hrow
  ordered := by
    refine List.pairwise_append.mpr ⟨hn.ordered, List.pairwise_singleton .., ?_⟩
    intro old hold new hnew
    rw [List.mem_singleton.mp hnew, hrow]
    exact hn.fresh old hold

theorem Table.select_of_ordered (hordered : t.rows.Pairwise fun a b => key a < key b) (p : ρ → Bool) :
    t.select key p = t.rows.filter p := by
  unfold Table.select
  apply List.mergeSort_of_pairwise
  refine (hordered.filter p).imp fun {a b} hlt => ?_
  exact decide_eq_true (Int.le_of_lt hlt)

end

theorem Table.Numbered.ordered_of {ρ : Type} {before : Option (Table ρ)} {key : ρ → Int} {taken : Nat}
    (hn : (before.getD {}).Numbered key taken) (t : Table ρ) (ht : before = some t) :
    t.rows.Pairwise fun a b => key a < key b := by
  rw [ht] at hn
  exact hn.ordered

/-! ## What a history says about the keys -/

def repetitions (history : List Entry) : Nat :=
  history.countP fun
    | ⟨.operation (.recordMoveTx _ _ _ _), .error (.alreadyRecorded _), _⟩ => true
    | _ => false

/-- How many keys of each table the calls have used up. -/
def takenKeys (history : List Entry) : Counts :=
  { okCalls history with moveTxs := (okCalls history).moveTxs + repetitions history }

def Counts.plus (a b : Counts) : Counts where
  depositRequests := a.depositRequests + b.depositRequests
  moveTxs := a.moveTxs + b.moveTxs
  withdrawalSigs := a.withdrawalSigs + b.withdrawalSigs

theorem takenKeys_append (past : List Entry) (entry : Entry) :
    takenKeys (past ++ [entry]) = (takenKeys past).plus (takenKeys [entry]) := by
  simp only [takenKeys, Counts.plus, okCalls_append, repetitions, List.countP_append, Counts.mk.injEq, true_and,
    and_true]
  omega

theorem takenKeys_of_not_record {call : Operation} (hc : call.isRecord = false) (answer : Except LedgerError Reply)
    (executed : Bool) : takenKeys [⟨.operation call, answer, executed⟩] = ⟨0, 0, 0⟩ := by
  cases call with
  | recordDepositRequest | recordMoveTx | recordWithdrawalSig => cases hc
  | _ => rfl

theorem takenKeys_of_failure (call : Operation) {cause : LedgerError} (hother : ∀ txid, cause ≠ .alreadyRecorded txid)
    (executed : Bool) : takenKeys [⟨.operation call, .error cause, executed⟩] = ⟨0, 0, 0⟩ := by
  cases cause with
  | alreadyRecorded txid => exact absurd rfl (hother txid)
  | server | invalid | wrongVersion => cases call <;> rfl

/-! ## Each step, and each run -/

/-- The three tables gave out that many keys each. A table that is missing counts as new. -/
structure Database.Numbered (db : Database) (taken : Counts) : Prop where
  depositRequests : (db.depositRequests.getD {}).Numbered DepositRequest.id taken.depositRequests
  moveTxs : (db.moveTxs.getD {}).Numbered MoveTx.id taken.moveTxs
  withdrawalSigs : (db.withdrawalSigs.getD {}).Numbered WithdrawalSig.idx taken.withdrawalSigs

theorem Database.empty_numbered : Database.Numbered {} ⟨0, 0, 0⟩ :=
  ⟨Table.new_numbered _, Table.new_numbered _, Table.new_numbered _⟩

section
variable {session : Session} {taken : Counts} (hn : session.server.database.Numbered taken)
include hn

/-- A key that was not given out is in no row, so that only a repeated transaction is ever refused. -/
theorem Session.refuses_move {call : Operation} (hrefuses : session.Refuses call) :
    ∃ utxo recovery evm txid, call = .recordMoveTx utxo recovery evm txid := by
  obtain ⟨_, hrepeats⟩ := hrefuses
  cases call with
  | recordMoveTx utxo recovery evm txid => exact ⟨_, _, _, _, rfl⟩
  | recordDepositRequest =>
    obtain ⟨t, ht, _, old, hmem, hold⟩ := hrepeats
    have hfresh := hn.depositRequests.fresh
    rw [ht] at hfresh
    exact absurd hold (Int.ne_of_lt (hfresh old hmem))
  | recordWithdrawalSig =>
    obtain ⟨t, ht, _, old, hmem, hold⟩ := hrepeats
    have hfresh := hn.withdrawalSigs.fresh
    rw [ht] at hfresh
    exact absurd hold (Int.ne_of_lt (hfresh old hmem))
  | _ => cases hrepeats

theorem Session.operate_numbered (hgenuine : ∀ fault ∈ session.server.faults, ¬ fault.Forges) (call : Operation) :
    (session.operate call).2.server.database.Numbered
      (taken.plus (takenKeys [session.entry (.operation call)])) := by
  have hentry : session.entry (.operation call) =
      ⟨.operation call, (session.operate call).1.answer, session.executes call⟩ := rfl
  have hfootprint := session.operate_footprint call
  rw [hentry]
  generalize session.executes call = executed
  generalize (session.operate call).1.answer = answer, (session.operate call).2.server.database = after
    at hfootprint ⊢
  cases hfootprint with
  | read reads answer =>
    rw [takenKeys_of_not_record reads]
    exact hn
  | failed _ _ _ forged =>
    rw [takenKeys_of_failure call fun txid h => Server.not_forged hgenuine (forged txid h)]
    exact hn
  | refused records present refuses =>
    obtain ⟨utxo, recovery, evm, txid, rfl⟩ := Session.refuses_move hn refuses
    cases records
    have hmoves := hn.moveTxs
    rw [show session.server.database.moveTxs = some _ from present] at hmoves
    exact ⟨hn.depositRequests, hmoves.skip, hn.withdrawalSigs⟩
  | stored records present _ _ =>
    cases records with
    | depositRequest =>
      have hrequests := hn.depositRequests
      rw [show session.server.database.depositRequests = some _ from present] at hrequests
      exact ⟨hrequests.append rfl, hn.moveTxs, hn.withdrawalSigs⟩
    | moveTx =>
      have hmoves := hn.moveTxs
      rw [show session.server.database.moveTxs = some _ from present] at hmoves
      exact ⟨hn.depositRequests, hmoves.append rfl, hn.withdrawalSigs⟩
    | withdrawalSig =>
      have hsigs := hn.withdrawalSigs
      rw [show session.server.database.withdrawalSigs = some _ from present] at hsigs
      exact ⟨hn.depositRequests, hn.moveTxs, hsigs.append rfl⟩

theorem Session.step_numbered (hgenuine : ∀ fault ∈ session.server.faults, ¬ fault.Forges) {step : Step}
    (hkeep : ∀ name, step ≠ .intervention (.dropTable name))
    (hkeys : ∀ name key, step ≠ .intervention (.setNextKey name key)) :
    (session.step step).2.server.database.Numbered (taken.plus (takenKeys [session.entry step])) := by
  by_cases hcall : ∃ call, step = .operation call
  · obtain ⟨call, rfl⟩ := hcall
    exact Session.operate_numbered hn hgenuine call
  · have hnone : takenKeys [session.entry step] = ⟨0, 0, 0⟩ := by
      cases step with
      | operation call => exact absurd ⟨call, rfl⟩ hcall
      | provision | connect | intervention => rfl
    rw [hnone]
    have halters := session.step_alters step
    generalize (session.step step).2.server.database = after at halters ⊢
    cases halters with
    | kept | provisioned | versions => exact ⟨hn.depositRequests, hn.moveTxs, hn.withdrawalSigs⟩
    | inserted => exact absurd ⟨_, rfl⟩ hcall
    | nextKey name key => exact absurd rfl (hkeys name key)
    | dropped name => exact absurd rfl (hkeep name)

end

theorem Session.run_numbered {session : Session} (hempty : session.server.database = {}) {steps : List Step}
    (hkeep : ∀ name, .intervention (.dropTable name) ∉ steps)
    (hkeys : ∀ name key, .intervention (.setNextKey name key) ∉ steps)
    (hgenuine : ∀ fault, fault ∈ session.server.faults ∨ .intervention (.prepareFault fault) ∈ steps → ¬ fault.Forges) :
    (session.run steps).2.server.database.Numbered (takenKeys (session.history steps)) := by
  refine (Session.run_induction steps (P := fun past here => here.server.database.Numbered (takenKeys past) ∧
    ∀ fault ∈ here.server.faults, ¬ fault.Forges) ?_ ?_).1
  · rw [hempty]
    exact ⟨Database.empty_numbered, fun fault hmem => hgenuine fault (.inl hmem)⟩
  · intro past here step hmem ⟨hn, hfaults⟩
    rw [takenKeys_append]
    refine ⟨Session.step_numbered hn hfaults ?_ ?_, Session.step_genuine hfaults ?_⟩
    · intro name h
      exact hkeep name (h ▸ hmem)
    · intro name key h
      exact hkeys name key (h ▸ hmem)
    · intro fault h
      exact hgenuine fault (.inr (h ▸ hmem))

/-! ## Lists -/

def Collection.rows {ρ : Type} (c : Collection ρ) (db : Database) : List ρ := ((c.table db).map Table.rows).getD []

def Ledger.list? (ledger : Ledger) : Operation → Option Reply
  | .depositRequestsFor evm =>
    some (.depositRequests (ledger.depositRequests.filter (·.evmAddress == Hex.lowercase evm)))
  | .depositRequestsSpending utxo => some (.depositRequests (ledger.depositRequests.filter (·.startUtxo == utxo)))
  | .moveTxsFor evm => some (.moveTxs (ledger.moveTxs.filter (·.evmAddress == Hex.lowercase evm)))
  | .moveTxsSpending utxo => some (.moveTxs (ledger.moveTxs.filter (·.startUtxo == utxo)))
  | .withdrawalSigsFor txid =>
    some (.withdrawalSigs (ledger.withdrawalSigs.filter (·.bridgeFundTxid == Hex.lowercase txid)))
  | _ => none

/-- A call that succeeds answers that list, and over an open connection to complete tables, with no fault that fits what
it sends, it succeeds. -/
def Session.Lists {α : Type} (session : Session) (wrap : α → Reply) (plan : Plan α) (listed : Reply) : Prop :=
  (∀ reply, (session.perform wrap plan).1.answer = .ok reply → reply = listed) ∧
    (session.Undisturbed plan → (∀ name, session.server.database.has name = true) →
      (session.perform wrap plan).1.answer = .ok listed)

theorem Plan.lookupChecked_decided {α κ : Type} {key : Except FieldError κ} {nothing : α} {query : κ → Query α}
    {answer : Except LedgerError α} {log : List LogLine}
    (h : Plan.lookupChecked key nothing query = .decided answer log) : answer = .ok nothing := by
  cases key with
  | error _ =>
    cases h
    rfl
  | ok _ => cases h

theorem Session.lists {session : Session} {ρ : Type} {c : Collection ρ} {p : ρ → Bool} {text : String}
    {parameter : Parameter} {plan : Plan (List ρ)}
    (hordered : ∀ t, c.table session.server.database = some t → t.rows.Pairwise fun a b => c.key a < c.key b)
    (hplan : plan.Shortens (.rows c text parameter p) session.server.database)
    (hnothing : ∀ answer log, plan = .decided answer log → answer = .ok []) (wrap : List ρ → Reply) :
    session.Lists wrap plan (wrap ((c.rows session.server.database).filter p)) := by
  have heffect : ∀ t, c.table session.server.database = some t → ∀ now,
      ((Query.rows c text parameter p).effect now session.server.database).1 =
        .ok ((c.rows session.server.database).filter p) := by
    intro t ht now
    rw [Query.rows_effect ht, Table.select_of_ordered (hordered t ht), Collection.rows, ht]
    rfl
  constructor
  · intro reply hok
    cases hplan with
    | asked =>
      obtain ⟨found, hr, hfound, hreply⟩ := Session.lookup_ok hok
      obtain ⟨t, ht⟩ := Collection.exists_table (Session.reaches_tables hr)
      rw [heffect t ht] at hfound
      cases hfound
      exact hreply
    | decided nothing agrees =>
      have hempty : (c.rows session.server.database).filter p = nothing := by
        cases ht : c.table session.server.database with
        | none =>
          cases hnothing _ _ rfl
          rw [Collection.rows, ht]
          rfl
        | some t =>
          have htables : (Query.rows c text parameter p).tables.all session.server.database.has = true := by
            simp [Query.rows, c.has_name, ht]
          have hagrees := agrees htables session.server.clock
          rw [heffect t ht] at hagrees
          exact Except.ok.inj hagrees
      obtain ⟨_, hanswer⟩ := session.perform_decided wrap (.ok nothing) []
      rcases hanswer with hanswer | ⟨cause, _, hanswer⟩ <;> rw [hanswer] at hok <;> cases hok
      rw [hempty]
  · intro hquiet hcomplete
    have htables : (Query.rows c text parameter p).tables.all session.server.database.has = true := by
      simp [Query.rows, hcomplete]
    obtain ⟨t, ht⟩ := Collection.exists_table htables
    rw [Session.perform_shortened wrap hplan htables hquiet, heffect t ht]
    rfl

theorem Database.Numbered.lists {session : Session} {taken : Counts} (hn : session.server.database.Numbered taken)
    (hs : SoundDatabase session.server.database) {call : Operation} {listed : Reply}
    (hlist : session.server.database.ledger.list? call = some listed) :
    session.Lists call.planned.wrap call.planned.plan listed := by
  have hrequests := fun t => hn.depositRequests.ordered_of t
  have hmoves := fun t => hn.moveTxs.ordered_of t
  have hsigs := fun t => hn.withdrawalSigs.ordered_of t
  cases call with
  | depositRequestsFor evm =>
    cases hlist
    exact Session.lists hrequests (Plan.depositRequestsFor_shortens hs evm)
      (fun _ _ h => Plan.lookupChecked_decided h) .depositRequests
  | depositRequestsSpending utxo =>
    cases hlist
    exact Session.lists hrequests (Plan.depositRequestsSpending_shortens hs utxo)
      (fun _ _ h => Plan.lookupChecked_decided h) .depositRequests
  | moveTxsFor evm =>
    cases hlist
    exact Session.lists hmoves (Plan.moveTxsFor_shortens hs evm) (fun _ _ h => Plan.lookupChecked_decided h) .moveTxs
  | moveTxsSpending utxo =>
    cases hlist
    exact Session.lists hmoves (Plan.moveTxsSpending_shortens hs utxo)
      (fun _ _ h => Plan.lookupChecked_decided h) .moveTxs
  | withdrawalSigsFor txid =>
    cases hlist
    exact Session.lists hsigs (Plan.withdrawalSigsFor_shortens hs txid)
      (fun _ _ h => Plan.lookupChecked_decided h) .withdrawalSigs
  | _ => cases hlist

/-! ## The clock -/

def Step.clock? : Step → Option Timestamp
  | .intervention (.setClock now) => some now
  | _ => none

def clockReadings (start : Timestamp) (steps : List Step) : List Timestamp := start :: steps.filterMap Step.clock?

def Forward (instants : List Timestamp) : Prop := instants.Pairwise fun a b => a.micros ≤ b.micros

def Reply.Chronological : Reply → Prop
  | .depositRequests rows => Forward (rows.map DepositRequest.createdAt)
  | .moveTxs rows => Forward (rows.map MoveTx.createdAt)
  | .withdrawalSigs rows => Forward (rows.map WithdrawalSig.createdAt)
  | _ => True

theorem Forward.snoc {instants : List Timestamp} {now later : Timestamp} (hf : Forward (instants ++ [now]))
    (hlater : now.micros ≤ later.micros) : Forward (instants ++ [now] ++ [later]) := by
  refine List.pairwise_append.mpr ⟨hf, List.pairwise_singleton .., ?_⟩
  intro old hold last hlast
  rw [List.mem_singleton.mp hlast]
  rcases List.mem_append.mp hold with hold | hold
  · exact Int.le_trans ((List.pairwise_append.mp hf).2.2 old hold now (List.mem_singleton_self now)) hlater
  · rw [List.mem_singleton.mp hold]
    exact hlater

theorem Forward.skip {instants : List Timestamp} {now later : Timestamp} (hf : Forward (instants ++ [now] ++ [later])) :
    Forward (instants ++ [later]) :=
  hf.sublist (List.Sublist.append_right (List.sublist_append_left _ _) _)

/-- The rows of each table were written one after the other, and before now. -/
structure Journal.Dated (journal : Journal) : Prop where
  depositRequests : Forward (journal.ledger.depositRequests.map DepositRequest.createdAt ++ [journal.now])
  moveTxs : Forward (journal.ledger.moveTxs.map MoveTx.createdAt ++ [journal.now])
  withdrawalSigs : Forward (journal.ledger.withdrawalSigs.map WithdrawalSig.createdAt ++ [journal.now])

section
variable {journal : Journal} (hd : journal.Dated)
include hd

theorem Journal.Dated.setClock {later : Timestamp} (hlater : journal.now.micros ≤ later.micros) :
    Journal.Dated { journal with now := later } :=
  ⟨(hd.depositRequests.snoc hlater).skip, (hd.moveTxs.snoc hlater).skip, (hd.withdrawalSigs.snoc hlater).skip⟩

theorem Journal.Dated.add (key : Int) (call : Operation) :
    Journal.Dated { journal with ledger := journal.ledger.add journal.now key call } := by
  have hnow : journal.now.micros ≤ journal.now.micros := Int.le_refl _
  cases call with
  | recordDepositRequest =>
    refine ⟨?_, hd.moveTxs, hd.withdrawalSigs⟩
    simpa [Ledger.add] using hd.depositRequests.snoc hnow
  | recordMoveTx =>
    refine ⟨hd.depositRequests, ?_, hd.withdrawalSigs⟩
    simpa [Ledger.add] using hd.moveTxs.snoc hnow
  | recordWithdrawalSig =>
    refine ⟨hd.depositRequests, hd.moveTxs, ?_⟩
    simpa [Ledger.add] using hd.withdrawalSigs.snoc hnow
  | _ => exact hd

theorem Journal.Dated.note (entry : Entry)
    (hlater : ∀ later, entry.step.clock? = some later → journal.now.micros ≤ later.micros) :
    (journal.note entry).Dated := by
  unfold Journal.note
  split
  next _ _ later hstep => exact hd.setClock (hlater later (by rw [hstep]; rfl))
  next call key _ _ => exact hd.add key call
  next => exact hd

theorem Journal.Dated.list? {call : Operation} {listed : Reply} (hlist : journal.ledger.list? call = some listed) :
    listed.Chronological := by
  have hrequests := (List.pairwise_append.mp hd.depositRequests).1
  have hmoves := (List.pairwise_append.mp hd.moveTxs).1
  have hsigs := (List.pairwise_append.mp hd.withdrawalSigs).1
  cases call <;> cases hlist
  case depositRequestsFor | depositRequestsSpending => exact hrequests.sublist (List.filter_sublist.map _)
  case moveTxsFor | moveTxsSpending => exact hmoves.sublist (List.filter_sublist.map _)
  case withdrawalSigsFor => exact hsigs.sublist (List.filter_sublist.map _)

end

theorem Journal.note_now (journal : Journal) (entry : Entry) :
    (journal.note entry).now = entry.step.clock?.getD journal.now := by
  obtain ⟨step, answer, executed⟩ := entry
  cases step with
  | provision | connect => rfl
  | operation call =>
    cases answer with
    | error cause => rfl
    | ok reply => cases reply <;> rfl
  | intervention what => cases what <;> rfl

theorem clockReadings_append (start : Timestamp) (steps : List Step) (step : Step) :
    clockReadings start (steps ++ [step]) = clockReadings start steps ++ step.clock?.toList := by
  simp only [clockReadings, List.filterMap_append]
  cases h : step.clock? <;> simp [h]

theorem Session.history_dated (session : Session) (start : Timestamp) (steps : List Step)
    (hforward : Forward (clockReadings start steps)) : (Journal.tell start (session.history steps)).Dated := by
  rw [← session.history_steps steps] at hforward
  -- the clock of the journal shows one of the readings, so that whatever it is set to next is no earlier
  refine (Session.run_induction steps (P := fun past _ => Forward (clockReadings start (past.map Entry.step)) →
    (Journal.tell start past).now ∈ clockReadings start (past.map Entry.step) ∧ (Journal.tell start past).Dated) ?_ ?_
    hforward).2
  · intro _
    exact ⟨List.mem_cons_self .., List.pairwise_singleton .., List.pairwise_singleton .., List.pairwise_singleton ..⟩
  · intro past here step _ hp hnext
    have hstep : (here.entry step).step = step := rfl
    rw [List.map_append, List.map_singleton, hstep, clockReadings_append] at hnext ⊢
    obtain ⟨hbefore, _, hbetween⟩ := List.pairwise_append.mp hnext
    obtain ⟨hnow, hdated⟩ := hp hbefore
    rw [Journal.tell_append, Journal.note_now, hstep]
    refine ⟨?_, hdated.note _ fun later hlater => ?_⟩
    · cases step.clock? with
      | none => exact List.mem_append_left _ hnow
      | some later => exact List.mem_append_right _ (List.mem_singleton_self later)
    · exact hbetween _ hnow later (Option.mem_toList.mpr hlater)

/-! ## The whole history -/

def Counts.key? (taken : Counts) : Operation → Option Int
  | .recordDepositRequest _ _ _ => some (taken.depositRequests + 1)
  | .recordMoveTx _ _ _ _ => some (taken.moveTxs + 1)
  | .recordWithdrawalSig _ _ => some (taken.withdrawalSigs + 1)
  | _ => none

theorem Database.Numbered.key {db : Database} {taken : Counts} (hn : db.Numbered taken) {call : Operation} {key : Int}
    (hkey : taken.key? call = some key) {now : Timestamp} {reply : Reply} {after : Database}
    (hstores : call.Stores now db reply after) : reply = .key key ∧ 1 ≤ key ∧ key ≤ maxKey := by
  cases hstores with
  | @appended _ _ _ t records present room =>
    have hnext : t.nextKey = key := by
      cases records with
      | depositRequest =>
        have hrequests := hn.depositRequests.nextKey
        rw [show db.depositRequests = some t from present] at hrequests
        exact hrequests.trans (Option.some.inj hkey)
      | moveTx =>
        have hmoves := hn.moveTxs.nextKey
        rw [show db.moveTxs = some t from present] at hmoves
        exact hmoves.trans (Option.some.inj hkey)
      | withdrawalSig =>
        have hsigs := hn.withdrawalSigs.nextKey
        rw [show db.withdrawalSigs = some t from present] at hsigs
        exact hsigs.trans (Option.some.inj hkey)
    have hpositive : 1 ≤ key := by
      cases call <;> cases hkey <;> omega
    subst hnext
    exact ⟨rfl, hpositive, room⟩

/-- After any run from a server without tables in which no table is dropped or renumbered and no fault forges a
repetition, a record call that succeeds answers one more than the number of keys taken before: one for each call of
its kind that succeeded, and for a move one for each repetition too. A lookup for a list answers, if it does, what the
calls have recorded, in the order of the calls, and that is the order of time unless the clock went backwards. -/
theorem Session.keys_tell_history (session : Session) (hempty : session.server.database = {}) (steps : List Step)
    (hkeep : ∀ name, .intervention (.dropTable name) ∉ steps)
    (hkeys : ∀ name key, .intervention (.setNextKey name key) ∉ steps)
    (hgenuine : ∀ fault, fault ∈ session.server.faults ∨ .intervention (.prepareFault fault) ∈ steps → ¬ fault.Forges)
    (call : Operation) :
    (∀ key, (takenKeys (session.history steps)).key? call = some key →
        ∀ reply, ((session.run steps).2.operate call).1.answer = .ok reply →
          reply = .key key ∧ 1 ≤ key ∧ key ≤ 2147483647) ∧
      ∀ listed, (Journal.tell session.server.clock (session.history steps)).ledger.list? call = some listed →
        (∀ reply, ((session.run steps).2.operate call).1.answer = .ok reply → reply = listed) ∧
          ((session.run steps).2.Undisturbed call.planned.plan →
            (∀ name, (session.run steps).2.server.database.has name = true) →
              ((session.run steps).2.operate call).1.answer = .ok listed) ∧
          (Forward (clockReadings session.server.clock steps) → listed.Chronological) := by
  have hnumbered := Session.run_numbered hempty hkeep hkeys hgenuine
  have hsound := Session.run_sound_of_empty hempty steps
  have hjournal := congrArg Journal.ledger (Session.run_journal hempty hkeep)
  constructor
  · intro key hkey reply hok
    have hc : call.isRecord = true := by
      cases call with
      | recordDepositRequest | recordMoveTx | recordWithdrawalSig => rfl
      | _ => cases hkey
    exact hnumbered.key hkey (((session.run steps).2.operate_footprint call).of_ok hc hok)
  · intro listed hlist
    have hlists : (session.run steps).2.Lists call.planned.wrap call.planned.plan listed := by
      refine hnumbered.lists hsound ?_
      rw [← hlist, ← hjournal]
      rfl
    rw [Session.operate_eq]
    exact ⟨hlists.1, hlists.2, fun hforward => (session.history_dated _ steps hforward).list? hlist⟩

def moveFrom (utxo : String) (digit : Char) : Operation :=
  .recordMoveTx utxo "recovery" (String.ofList (List.replicate 40 'E')) (String.ofList (List.replicate 64 digit))

/-- The second move repeats the first, and a lookup is refused before the third. -/
def gappedMoves : List Step :=
  [.provision, .intervention (.setClock ⟨5⟩), .operation (moveFrom "first" 'A')] ++
    [.operation (moveFrom "second" 'a'), .intervention (.setClock ⟨9⟩),
      .intervention (.prepareFault { kind := .prepare, code := some .uniqueViolation }), .operation (.moveTx 2)] ++
    [.operation (moveFrom "third" 'b')]

def movesServer (rows : List MoveTx) (nextKey : Int) (clock : Timestamp) : Server where
  database :=
    { versions := some [1], depositRequests := some {}, moveTxs := some ⟨rows, nextKey⟩, withdrawalSigs := some {} }
  clock

def firstMove : MoveTx :=
  ⟨1, "first", "recovery", String.ofList (List.replicate 40 'e'), String.ofList (List.replicate 64 'a'), ⟨5⟩⟩

def thirdMove : MoveTx :=
  ⟨3, "third", "recovery", String.ofList (List.replicate 40 'e'), String.ofList (List.replicate 64 'b'), ⟨9⟩⟩

theorem gappedMoves_run : (Session.run {} gappedMoves).2 = ⟨movesServer [firstMove, thirdMove] 4 ⟨9⟩, .live⟩ := by
  have hfirst : (Session.run {} [.provision, .intervention (.setClock ⟨5⟩), .operation (moveFrom "first" 'A')]).2 =
      ⟨movesServer [firstMove] 2 ⟨5⟩, .live⟩ := by decide +kernel
  have hsecond : (Session.run ⟨movesServer [firstMove] 2 ⟨5⟩, .live⟩
      [.operation (moveFrom "second" 'a'), .intervention (.setClock ⟨9⟩),
        .intervention (.prepareFault { kind := .prepare, code := some .uniqueViolation }), .operation (.moveTx 2)]).2 =
      ⟨movesServer [firstMove] 3 ⟨9⟩, .live⟩ := by decide +kernel
  rw [gappedMoves, Session.run_append, Session.run_append, hfirst, hsecond]
  decide +kernel

theorem gappedMoves_ordered :
    (∀ name, .intervention (.dropTable name) ∉ gappedMoves) ∧
      (∀ name key, .intervention (.setNextKey name key) ∉ gappedMoves) ∧
      (∀ fault, fault ∈ ({} : Server).faults ∨ .intervention (.prepareFault fault) ∈ gappedMoves → ¬ fault.Forges) ∧
      ((Session.run {} gappedMoves).2.operate (moveFrom "fourth" 'c')).1.answer = .ok (.key 4) ∧
      ((Session.run {} gappedMoves).2.operate (.moveTxsFor (String.ofList (List.replicate 40 'E')))).1.answer =
        .ok (.moveTxs [firstMove, thirdMove]) ∧
      Forward [firstMove.createdAt, thirdMove.createdAt] := by
  have hkeep : ∀ name, .intervention (.dropTable name) ∉ gappedMoves := by simp [gappedMoves]
  have hkeys : ∀ name key, .intervention (.setNextKey name key) ∉ gappedMoves := by simp [gappedMoves]
  have hgenuine : ∀ fault, fault ∈ ({} : Server).faults ∨ .intervention (.prepareFault fault) ∈ gappedMoves →
      ¬ fault.Forges := by simp [gappedMoves, Fault.Forges]
  have hnumbered := @Session.run_numbered {} rfl gappedMoves hkeep hkeys hgenuine
  have hjournal := @Session.run_journal {} rfl gappedMoves hkeep
  rw [gappedMoves_run] at hnumbered hjournal
  refine ⟨hkeep, hkeys, hgenuine, ?_, ?_⟩
  · obtain ⟨hkey, _⟩ := Session.keys_tell_history {} rfl gappedMoves hkeep hkeys hgenuine (moveFrom "fourth" 'c')
    rw [gappedMoves_run] at hkey ⊢
    have hok : (Session.operate ⟨movesServer [firstMove, thirdMove] 4 ⟨9⟩, .live⟩
        (moveFrom "fourth" 'c')).1.answer.toOption.isSome = true := by decide +kernel
    have hnext : 4 = ((takenKeys (Session.history {} gappedMoves)).moveTxs : Int) + 1 := hnumbered.moveTxs.nextKey
    cases hanswer : (Session.operate ⟨movesServer [firstMove, thirdMove] 4 ⟨9⟩, .live⟩
        (moveFrom "fourth" 'c')).1.answer with
    | error cause =>
      rw [hanswer] at hok
      cases hok
    | ok reply => rw [(hkey 4 (congrArg some hnext.symm) reply hanswer).1]
  · obtain ⟨_, hlist⟩ := Session.keys_tell_history {} rfl gappedMoves hkeep hkeys hgenuine
      (.moveTxsFor (String.ofList (List.replicate 40 'E')))
    rw [← hjournal, gappedMoves_run] at hlist
    have hfound : (Session.journal ⟨movesServer [firstMove, thirdMove] 4 ⟨9⟩, .live⟩).ledger.list?
        (.moveTxsFor (String.ofList (List.replicate 40 'E'))) = some (.moveTxs [firstMove, thirdMove]) := by
      decide +kernel
    obtain ⟨_, hanswer, hforward⟩ := hlist _ hfound
    refine ⟨?_, ?_⟩
    · rw [gappedMoves_run]
      refine hanswer (Session.undisturbed_of_no_faults rfl rfl _) fun name => ?_
      cases name <;> rfl
    · refine hforward ?_
      have hreadings : clockReadings ({} : Session).server.clock gappedMoves = [⟨0⟩, ⟨5⟩, ⟨9⟩] := rfl
      simp [hreadings, Forward]

end BridgeLedger
