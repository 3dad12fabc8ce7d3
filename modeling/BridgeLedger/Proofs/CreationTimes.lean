import BridgeLedger.Proofs.Independence
import BridgeLedger.Proofs.InstantTexts
import BridgeLedger.Proofs.KeyOrder
import Mathlib.Data.List.Induction
import Mathlib.Data.List.Pairwise

/-!
# Creation times

A row stands in its table if and only if a call inserted it and the table was not dropped since, and it keeps the
instant of that call (`Session.run_times`). A lookup that answers the row shows the text of that instant
(`Session.shows_time`). So for any two rows, the texts that are shown tell whether they were inserted at one instant,
and in the years 0 to 9999 which was inserted first: `Session.creation_times_tell`.
-/

namespace BridgeLedger

/-! ## In the tables -/

def Ledger.times (ledger : Ledger) : TableName → List (Int × Timestamp)
  | .version => []
  | .depositRequests => ledger.depositRequests.map fun row => (row.id, row.createdAt)
  | .moveTxs => ledger.moveTxs.map fun row => (row.id, row.createdAt)
  | .withdrawalSigs => ledger.withdrawalSigs.map fun row => (row.idx, row.createdAt)

theorem Ledger.mem_times_add {ledger : Ledger} {now t : Timestamp} {key added : Int} {call : Operation}
    {name : TableName} : (key, t) ∈ (ledger.add now added call).times name ↔
      (key, t) ∈ ledger.times name ∨
        call.isRecord = true ∧ call.table? = some name ∧ added = key ∧ now = t := by
  cases call <;> cases name <;> simp [Ledger.add, Ledger.times, Operation.isRecord, Operation.table?, eq_comm]

theorem Database.mem_times_drop {db : Database} {entry : Int × Timestamp} {name dropped : TableName} :
    entry ∈ (db.drop dropped).ledger.times name ↔ entry ∈ db.ledger.times name ∧ dropped ≠ name := by
  cases name <;> cases dropped <;> simp [Database.drop, Database.ledger, Ledger.times]

/-! ## Along a run -/

def Session.Inserts (session : Session) (step : Step) (name : TableName) (key : Int) (t : Timestamp) : Prop :=
  ∃ call, step = .operation call ∧ call.isRecord = true ∧ call.table? = some name ∧
    (session.operate call).1.answer = .ok (.key key) ∧ session.server.clock = t

/-- A step of the run inserts the row, and the table is not dropped after that. -/
def Session.Inserted (start : Session) (steps : List Step) (name : TableName) (key : Int) (t : Timestamp) : Prop :=
  ∃ before step after, steps = before ++ step :: after ∧ (start.run before).2.Inserts step name key t ∧
    .intervention (.dropTable name) ∉ after

section
variable {name : TableName} {key : Int} {t : Timestamp}

theorem Session.step_times (session : Session) (step : Step) :
    (key, t) ∈ (session.step step).2.server.database.ledger.times name ↔
      (key, t) ∈ session.server.database.ledger.times name ∧ step ≠ .intervention (.dropTable name) ∨
        session.Inserts step name key t := by
  by_cases hdrop : ∃ dropped, step = .intervention (.dropTable dropped)
  · obtain ⟨dropped, rfl⟩ := hdrop
    show (key, t) ∈ (session.server.database.drop dropped).ledger.times name ↔ _
    rw [Database.mem_times_drop]
    simp [Session.Inserts]
  · have hledger : (session.step step).2.server.database.ledger = (session.journal.note (session.entry step)).ledger :=
      congrArg Journal.ledger (session.step_journal fun dropped h => hdrop ⟨dropped, h⟩)
    have hkeep : step ≠ .intervention (.dropTable name) := fun h => hdrop ⟨name, h⟩
    rw [hledger]
    by_cases hcall : ∃ call, step = .operation call
    · obtain ⟨call, rfl⟩ := hcall
      have hinserts : session.Inserts (.operation call) name key t ↔ call.isRecord = true ∧ call.table? = some name ∧
          (session.operate call).1.answer = .ok (.key key) ∧ session.server.clock = t := by
        simp [Session.Inserts]
      have hentry : session.entry (.operation call) =
          ⟨.operation call, (session.operate call).1.answer, session.executes call⟩ := rfl
      rw [hentry, hinserts]
      cases (session.operate call).1.answer with
      | error cause => simp [Journal.note_failed, Session.journal]
      | ok reply =>
        cases reply with
        | key added => simp [Journal.note_key, Session.journal, Ledger.mem_times_add]
        | _ => simp [Journal.note, Session.journal]
    · have hinserts : ¬ session.Inserts step name key t := by
        intro hinserts
        obtain ⟨call, hstep, _⟩ := hinserts
        exact hcall ⟨call, hstep⟩
      have hnote : (session.journal.note (session.entry step)).ledger = session.server.database.ledger := by
        cases step with
        | operation call => exact absurd ⟨call, rfl⟩ hcall
        | provision | connect => rfl
        | intervention what => cases what <;> rfl
      simp [hnote, hkeep, hinserts]

theorem Session.inserted_concat (start : Session) (steps : List Step) (last : Step) :
    start.Inserted (steps ++ [last]) name key t ↔
      start.Inserted steps name key t ∧ last ≠ .intervention (.dropTable name) ∨
        (start.run steps).2.Inserts last name key t := by
  constructor
  · rintro ⟨before, step, after, hsteps, hinserts, hkeep⟩
    rcases after.eq_nil_or_concat' with rfl | ⟨after, final, rfl⟩
    · obtain ⟨rfl, hlast⟩ := List.append_inj' hsteps rfl
      cases hlast
      exact .inr hinserts
    · rw [← List.cons_append, ← List.append_assoc] at hsteps
      obtain ⟨rfl, hlast⟩ := List.append_inj' hsteps rfl
      cases hlast
      simp only [List.mem_append, List.mem_singleton, not_or] at hkeep
      exact .inl ⟨⟨before, step, after, rfl, hinserts, hkeep.1⟩, Ne.symm hkeep.2⟩
  · rintro (⟨⟨before, step, after, rfl, hinserts, hkeep⟩, hlast⟩ | hinserts)
    · refine ⟨before, step, after ++ [last], by simp, hinserts, ?_⟩
      simp [hkeep, hlast.symm]
    · exact ⟨steps, last, [], rfl, hinserts, by simp⟩

theorem Session.run_times {start : Session} (hempty : start.server.database = {}) (steps : List Step) :
    (key, t) ∈ (start.run steps).2.server.database.ledger.times name ↔ start.Inserted steps name key t := by
  induction steps using List.reverseRecOn with
  | nil =>
    have hnone : ¬ start.Inserted [] name key t := by simp [Session.Inserted]
    rw [Session.run_nil, hempty]
    cases name <;> simp [Database.ledger, Ledger.times, hnone]
  | append_singleton steps last ih =>
    rw [start.inserted_concat, ← ih, Session.run_append]
    exact Session.step_times _ last

end

/-! ## In the answers -/

structure ShownTime where
  table : TableName
  key : Int
  text : String
deriving DecidableEq, Repr

def Reply.shownTimes : Reply → List ShownTime
  | .depositRequest row => row.toList.map fun row => ⟨.depositRequests, row.id, row.createdAt.text⟩
  | .depositRequests rows => rows.map fun row => ⟨.depositRequests, row.id, row.createdAt.text⟩
  | .moveTx row => row.toList.map fun row => ⟨.moveTxs, row.id, row.createdAt.text⟩
  | .moveTxs rows => rows.map fun row => ⟨.moveTxs, row.id, row.createdAt.text⟩
  | .withdrawalSig row => row.toList.map fun row => ⟨.withdrawalSigs, row.idx, row.createdAt.text⟩
  | .withdrawalSigs rows => rows.map fun row => ⟨.withdrawalSigs, row.idx, row.createdAt.text⟩
  | .done | .key _ | .counts _ => []

/-- Every time that the reply shows is the text of the instant that the row carries. -/
def Reply.Faithful (reply : Reply) (db : Database) : Prop :=
  ∀ shown ∈ reply.shownTimes, ∃ t, (shown.key, t) ∈ db.ledger.times shown.table ∧ shown.text = t.text

section
variable {ρ : Type} {c : Collection ρ} {db : Database} {createdAt : ρ → Timestamp}

theorem Reply.faithful_of_rows {reply : Reply} {rows : List ρ}
    (htimes : db.ledger.times c.name = (c.rows db).map fun row => (c.key row, createdAt row))
    (hshown : reply.shownTimes = rows.map fun row => ⟨c.name, c.key row, (createdAt row).text⟩)
    (hrows : ∀ row ∈ rows, row ∈ c.rows db) : reply.Faithful db := by
  intro shown hmem
  rw [hshown] at hmem
  obtain ⟨row, hrow, rfl⟩ := List.mem_map.mp hmem
  refine ⟨createdAt row, ?_, rfl⟩
  rw [htimes]
  exact List.mem_map.mpr ⟨row, hrows row hrow, rfl⟩

theorem Query.rows_found {text : String} {parameter : Parameter} {p : ρ → Bool} {now : Timestamp} {rows : List ρ}
    (h : ((Query.rows c text parameter p).effect now db).1 = .ok rows) : ∀ row ∈ rows, row ∈ c.rows db := by
  intro row hrow
  unfold Query.rows at h
  unfold Collection.rows
  cases ht : c.table db with
  | none => simp [ht] at h
  | some t =>
    simp only [ht] at h
    cases h
    exact (Table.mem_select.mp hrow).1

theorem Query.row?_found {text : String} {parameter : Parameter} {p : ρ → Bool} {now : Timestamp} {found : Option ρ}
    (h : ((Query.row? c text parameter p).effect now db).1 = .ok found) : ∀ row ∈ found.toList, row ∈ c.rows db := by
  intro row hrow
  unfold Query.row? at h
  unfold Collection.rows
  cases ht : c.table db with
  | none => simp [ht] at h
  | some t =>
    simp only [ht] at h
    split at h
    · cases h
      cases hrow
    · next row' hfilter =>
      cases h
      have hmem : row' ∈ t.rows.filter p := by simp [hfilter]
      simp only [Option.toList_some, List.mem_singleton] at hrow
      exact hrow ▸ (List.mem_filter.mp hmem).1
    · cases h

end

section
variable {session : Session} {reply : Reply}

theorem Session.lookupChecked_ok {α κ : Type} {wrap : α → Reply} {key : Except FieldError κ} {nothing : α}
    {query : κ → Query α} (h : (session.perform wrap (.lookupChecked key nothing query)).1.answer = .ok reply) :
    ∃ found, reply = wrap found ∧ (found = nothing ∨
      ∃ k, ((query k).effect session.server.clock session.server.database).1 = .ok found) := by
  cases key with
  | error cause =>
    obtain ⟨_, hanswer⟩ := session.perform_decided wrap (.ok nothing) []
    rcases hanswer with hanswer | ⟨failure, _, hanswer⟩
    · cases hanswer.symm.trans h
      exact ⟨nothing, rfl, .inl rfl⟩
    · cases hanswer.symm.trans h
  | ok k =>
    obtain ⟨found, _, hfound, hreply⟩ := Session.lookup_ok h
    exact ⟨found, hreply, .inr ⟨k, hfound⟩⟩

section
variable {ρ κ : Type} {c : Collection ρ} {p : κ → ρ → Bool} {text : String} {parameter : κ → Parameter}
  {key : Except FieldError κ}

theorem Session.rows_ok {wrap : List ρ → Reply}
    (h : (session.perform wrap
      (.lookupChecked key [] fun k => .rows c text (parameter k) (p k))).1.answer = .ok reply) :
    ∃ rows, reply = wrap rows ∧ ∀ row ∈ rows, row ∈ c.rows session.server.database := by
  obtain ⟨rows, hreply, rfl | ⟨k, hfound⟩⟩ := Session.lookupChecked_ok h
  · exact ⟨[], hreply, fun row hrow => nomatch hrow⟩
  · exact ⟨rows, hreply, Query.rows_found hfound⟩

end

theorem Session.operate_faithful {call : Operation} (h : (session.operate call).1.answer = .ok reply) :
    reply.Faithful session.server.database := by
  cases call with
  | recordDepositRequest | recordMoveTx | recordWithdrawalSig =>
    obtain ⟨key, rfl⟩ := session.operate_record_ok rfl h
    exact fun shown hmem => nomatch hmem
  | counts =>
    obtain ⟨found, _, _, rfl⟩ := Session.lookup_ok h
    exact fun shown hmem => nomatch hmem
  | depositRequest =>
    obtain ⟨found, _, hfound, rfl⟩ := Session.lookup_ok h
    exact Reply.faithful_of_rows rfl rfl (Query.row?_found hfound)
  | moveTx =>
    obtain ⟨found, _, hfound, rfl⟩ := Session.lookup_ok h
    exact Reply.faithful_of_rows rfl rfl (Query.row?_found hfound)
  | withdrawalSig =>
    obtain ⟨found, _, hfound, rfl⟩ := Session.lookup_ok h
    exact Reply.faithful_of_rows rfl rfl (Query.row?_found hfound)
  | depositRequestsFor | depositRequestsSpending =>
    obtain ⟨rows, rfl, hrows⟩ := Session.rows_ok h
    exact Reply.faithful_of_rows rfl rfl hrows
  | moveTxWithTxid =>
    obtain ⟨found, rfl, rfl | ⟨txid, hfound⟩⟩ := Session.lookupChecked_ok h
    · exact fun shown hmem => nomatch hmem
    · exact Reply.faithful_of_rows rfl rfl (Query.row?_found hfound)
  | moveTxsFor | moveTxsSpending =>
    obtain ⟨rows, rfl, hrows⟩ := Session.rows_ok h
    exact Reply.faithful_of_rows rfl rfl hrows
  | withdrawalSigsFor =>
    obtain ⟨rows, rfl, hrows⟩ := Session.rows_ok h
    exact Reply.faithful_of_rows rfl rfl hrows

end

/-! ## Rows and their times -/

section
variable {ρ : Type} {c : Collection ρ} {db : Database} {createdAt : ρ → Timestamp} {key : Int} {t : Timestamp}
  (htimes : db.ledger.times c.name = (c.rows db).map fun row => (c.key row, createdAt row))
include htimes

theorem Database.exists_row (h : (key, t) ∈ db.ledger.times c.name) :
    ∃ table row, c.table db = some table ∧ row ∈ table.rows ∧ c.key row = key ∧ createdAt row = t := by
  rw [htimes, List.mem_map] at h
  obtain ⟨row, hrow, hentry⟩ := h
  unfold Collection.rows at hrow
  cases htable : c.table db with
  | none => simp [htable] at hrow
  | some table =>
    simp only [htable, Option.map_some, Option.getD_some] at hrow
    exact ⟨table, row, rfl, hrow, congrArg Prod.fst hentry, congrArg Prod.snd hentry⟩

theorem Database.time_unique (hdistinct : ∀ table, c.table db = some table → table.Distinct c.clash) {t' : Timestamp}
    (h : (key, t) ∈ db.ledger.times c.name) (h' : (key, t') ∈ db.ledger.times c.name) : t = t' := by
  obtain ⟨table, row, htable, hrow, hkey, rfl⟩ := Database.exists_row htimes h
  obtain ⟨_, row', htable', hrow', hkey', rfl⟩ := Database.exists_row htimes h'
  cases htable.symm.trans htable'
  by_cases hsame : row = row'
  · rw [hsame]
  · have : Std.Symm fun a b : ρ => c.key a ≠ c.key b := ⟨fun _ _ hne => hne.symm⟩
    exact absurd (hkey.trans hkey'.symm) ((Collection.keys_ne (hdistinct table htable)).forall hrow hrow' hsame)

theorem Lookup.Answers.shows {answer : Except LedgerError Reply} {wrap : Option ρ → Reply}
    (hanswers : (Lookup.one c (fun row => c.key row == key) wrap).Answers db answer)
    (hshown : ∀ row, (wrap (some row)).shownTimes = [⟨c.name, c.key row, (createdAt row).text⟩])
    (h : (key, t) ∈ db.ledger.times c.name) :
    ∃ reply, answer = .ok reply ∧ reply.shownTimes = [⟨c.name, key, t.text⟩] := by
  obtain ⟨table, row, htable, hrow, rfl, rfl⟩ := Database.exists_row htimes h
  obtain ⟨found, hanswer, hfound⟩ := hanswers table htable
  obtain rfl := (hfound row).mpr ⟨hrow, beq_self_eq_true _⟩
  exact ⟨wrap (some row), hanswer, hshown row⟩

end

def TableName.lookup? (key : Int) : TableName → Option Operation
  | .version => none
  | .depositRequests => some (.depositRequest key)
  | .moveTxs => some (.moveTx key)
  | .withdrawalSigs => some (.withdrawalSig key)

/-- Every lookup that answers the row shows that text for its creation time, and over an open connection that no pending
fault disturbs, the lookup for its key answers it. -/
structure Session.Shows (session : Session) (name : TableName) (key : Int) (text : String) : Prop where
  always : ∀ call reply, (session.operate call).1.answer = .ok reply →
    ∀ shown ∈ reply.shownTimes, shown.table = name → shown.key = key → shown.text = text
  answered : ∀ call, name.lookup? key = some call → session.Undisturbed call.planned.plan →
    ∃ reply, (session.operate call).1.answer = .ok reply ∧ reply.shownTimes = [⟨name, key, text⟩]

section
variable {session : Session} (hs : SoundDatabase session.server.database) {name : TableName} {key : Int} {t : Timestamp}
include hs

theorem SoundDatabase.time_unique {t' : Timestamp} (h : (key, t) ∈ session.server.database.ledger.times name)
    (h' : (key, t') ∈ session.server.database.ledger.times name) : t = t' := by
  cases name with
  | version => cases h
  | depositRequests => exact Database.time_unique rfl (fun table htable => (hs.deposits table htable).distinct) h h'
  | moveTxs => exact Database.time_unique rfl (fun table htable => (hs.moves table htable).distinct) h h'
  | withdrawalSigs => exact Database.time_unique rfl (fun table htable => (hs.withdrawals table htable).distinct) h h'

theorem Session.shows_time (h : (key, t) ∈ session.server.database.ledger.times name) :
    session.Shows name key t.text where
  always call reply hreply shown hmem htable hkey := by
    obtain ⟨t', ht', htext⟩ := Session.operate_faithful hreply shown hmem
    rw [htable, hkey] at ht'
    rw [htext, hs.time_unique h ht']
  answered call hcall hquiet := by
    have hanswers : ∀ look, call.lookup? = some look →
        look.Answers session.server.database (session.operate call).1.answer := by
      intro look hlook
      rw [session.operate_eq]
      exact (Session.operate_lookup hs hlook).1 hquiet
    cases name with
    | version => cases hcall
    | depositRequests =>
      cases hcall
      exact Lookup.Answers.shows rfl (hanswers _ rfl) (fun _ => rfl) h
    | moveTxs =>
      cases hcall
      exact Lookup.Answers.shows rfl (hanswers _ rfl) (fun _ => rfl) h
    | withdrawalSigs =>
      cases hcall
      exact Lookup.Answers.shows rfl (hanswers _ rfl) (fun _ => rfl) h

end

/-- In a run from a server without tables, whatever times the lookups show are those of rows that calls inserted and
that have not been dropped. For any two such rows, each at any point of the run, the texts that are shown are the same
if and only if the clock showed the same instant when the rows were inserted; and where both instants lie in the years 0
to 9999, the texts, compared code point by code point, stand in the order of the instants. -/
theorem Session.creation_times_tell (start : Session) (hempty : start.server.database = {}) (steps : List Step)
    (n m : Nat) :
    (∀ call reply, ((start.run (steps.take n)).2.operate call).1.answer = .ok reply →
        ∀ shown ∈ reply.shownTimes, ∃ t, start.Inserted (steps.take n) shown.table shown.key t) ∧
      ∀ name name' key key' t t', start.Inserted (steps.take n) name key t →
        start.Inserted (steps.take m) name' key' t' →
          ∃ text text', (start.run (steps.take n)).2.Shows name key text ∧
            (start.run (steps.take m)).2.Shows name' key' text' ∧ (text = text' ↔ t = t') ∧
            (t.HasPlainYear → t'.HasPlainYear → (Precedes text.toList text'.toList ↔ t.micros < t'.micros)) := by
  have hsound := fun n => Session.run_sound_of_empty hempty (steps.take n)
  constructor
  · intro call reply hreply shown hmem
    obtain ⟨t, ht, _⟩ := Session.operate_faithful hreply shown hmem
    exact ⟨t, (Session.run_times hempty _).mp ht⟩
  · intro name name' key key' t t' hinserted hinserted'
    refine ⟨t.text, t'.text, ?_, ?_, Timestamp.text_eq_iff, Timestamp.text_precedes_iff⟩
    · exact Session.shows_time (hsound n) ((Session.run_times hempty _).mpr hinserted)
    · exact Session.shows_time (hsound m) ((Session.run_times hempty _).mpr hinserted')

def newYearRun : List Step :=
  [.provision, .intervention (.setClock ⟨-1⟩),
    .operation (.recordDepositRequest "first" "recovery" (String.ofList (List.replicate 40 'e'))),
    .intervention (.setClock ⟨500000⟩), .operation (moveFrom "first" 'a')]

def newYearServer : Server where
  database :=
    { versions := some [1]
      depositRequests := some ⟨[⟨1, "first", "recovery", String.ofList (List.replicate 40 'e'), ⟨-1⟩⟩], 2⟩
      moveTxs := some ⟨[{ firstMove with createdAt := ⟨500000⟩ }], 2⟩
      withdrawalSigs := some {} }
  clock := ⟨500000⟩

theorem newYearRun_told :
    Session.Inserted {} (newYearRun.take 5) .depositRequests 1 ⟨-1⟩ ∧
      Session.Inserted {} (newYearRun.take 5) .moveTxs 1 ⟨500000⟩ ∧
      (Session.run {} (newYearRun.take 5)).2.Shows .depositRequests 1 "1999-12-31T23:59:59.999999" ∧
      (Session.run {} (newYearRun.take 5)).2.Shows .moveTxs 1 "2000-01-01T00:00:00.500" ∧
      Precedes "1999-12-31T23:59:59.999999".toList "2000-01-01T00:00:00.500".toList := by
  have hsession : (Session.run {} (newYearRun.take 5)).2 = ⟨newYearServer, .live⟩ := by decide +kernel
  have hrequest : Session.Inserted {} (newYearRun.take 5) .depositRequests 1 ⟨-1⟩ :=
    ⟨newYearRun.take 2, _, newYearRun.drop 3, rfl, ⟨_, rfl, rfl, rfl, by decide +kernel, rfl⟩, by simp [newYearRun]⟩
  have hmove : Session.Inserted {} (newYearRun.take 5) .moveTxs 1 ⟨500000⟩ :=
    ⟨newYearRun.take 4, _, [], rfl, ⟨_, rfl, rfl, rfl, by decide +kernel, rfl⟩, by simp⟩
  obtain ⟨_, htell⟩ := Session.creation_times_tell {} rfl newYearRun 5 5
  obtain ⟨text, text', hshows, hshows', _, horder⟩ := htell _ _ _ _ _ _ hrequest hmove
  rw [hsession] at hshows hshows' ⊢
  obtain ⟨reply, hreply, hshown⟩ := hshows.answered _ rfl (Session.undisturbed_of_no_faults rfl rfl _)
  obtain ⟨reply', hreply', hshown'⟩ := hshows'.answered _ rfl (Session.undisturbed_of_no_faults rfl rfl _)
  have htimes : ((Session.mk newYearServer .live).operate (.depositRequest 1)).1.answer.map Reply.shownTimes =
      .ok [⟨.depositRequests, 1, "1999-12-31T23:59:59.999999"⟩] := by decide +kernel
  have htimes' : ((Session.mk newYearServer .live).operate (.moveTx 1)).1.answer.map Reply.shownTimes =
      .ok [⟨.moveTxs, 1, "2000-01-01T00:00:00.500"⟩] := by decide +kernel
  rw [hreply] at htimes
  rw [hreply'] at htimes'
  obtain rfl : text = "1999-12-31T23:59:59.999999" := by simpa using hshown.symm.trans (Except.ok.inj htimes)
  obtain rfl : text' = "2000-01-01T00:00:00.500" := by simpa using hshown'.symm.trans (Except.ok.inj htimes')
  exact ⟨hrequest, hmove, hshows, hshows', (horder ⟨by decide, by decide⟩ ⟨by decide, by decide⟩).mpr (by decide)⟩

end BridgeLedger
