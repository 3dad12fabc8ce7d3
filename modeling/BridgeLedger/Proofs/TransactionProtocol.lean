import BridgeLedger.Proofs.SchemaTransaction

/-!
# The protocol of the transaction

The transaction that creates the tables is a fixed list of statements, the last of which commits (`transaction`). A
statement is sent once all before it have passed (`Line.follow_sent`); the first that does not pass ends the list, and
then the transaction is rolled back, if it was not the commit and the connection is still there
(`Line.createTables_of_passes`, `Line.createTables_of_stopped`). So what is sent is a beginning of the list, followed
by a rollback or by nothing: `Server.provision_protocol`.
-/

namespace BridgeLedger

/-! ## The statements -/

def commit : Sent := .simple "COMMIT"

def rollback : Sent := .simple "ROLLBACK"

def transactionMessages : List Sent :=
  [.simple "START TRANSACTION",
    .prepare "SELECT pg_advisory_xact_lock($1)",
    .execute "SELECT pg_advisory_xact_lock($1)" [.int 7234312000420541555],
    .simple schemaText,
    .prepare "INSERT INTO version (version) SELECT $1::INTEGER WHERE NOT EXISTS (SELECT 1 FROM version)",
    .execute "INSERT INTO version (version) SELECT $1::INTEGER WHERE NOT EXISTS (SELECT 1 FROM version)" [.int 1],
    .prepare "SELECT version FROM version",
    .execute "SELECT version FROM version" [],
    commit]

def transaction (now : Timestamp) : List Stage := schemaStages now ++ [.simple "COMMIT" id]

theorem transaction_messages (now : Timestamp) : (transaction now).map Stage.message = transactionMessages := rfl

/-! ## Statements that pass -/

/-- The statements pass one after the other: each is answered without an error, and what it does on the copy of the
database succeeds. -/
inductive Line.Passes : Line → List Stage → Line → Prop
  | nil (line : Line) : Line.Passes line [] line
  | cons {line delivered last : Line} {stage : Stage} {rest : List Stage} {copy : Database}
      (answered : line.deliver stage.message = (.ok (), delivered))
      (effect : stage.effect delivered.server.database = .ok copy)
      (onward : Line.Passes (delivered.withDatabase copy) rest last) : Line.Passes line (stage :: rest) last

theorem Line.resume_of_effect {line : Line} {stage : Stage} {rest : List Stage} {copy : Database}
    (h : stage.effect line.server.database = .ok copy) :
    line.resume stage rest = (line.withDatabase copy).follow rest := by
  simp only [Line.resume, h]

theorem Line.resume_of_failure {line : Line} {stage : Stage} {rest : List Stage} {cause : LedgerError}
    (h : stage.effect line.server.database = .error cause) : line.resume stage rest = (.error cause, line) := by
  simp only [Line.resume, h]

theorem Line.passes_cons {line last : Line} {stage : Stage} {rest : List Stage} :
    line.Passes (stage :: rest) last ↔ ∃ delivered copy, line.deliver stage.message = (.ok (), delivered) ∧
      stage.effect delivered.server.database = .ok copy ∧ (delivered.withDatabase copy).Passes rest last := by
  constructor
  · intro h
    cases h with
    | cons answered effect onward => exact ⟨_, _, answered, effect, onward⟩
  · rintro ⟨delivered, copy, answered, effect, onward⟩
    exact .cons answered effect onward

theorem Line.passes_cons_of {line delivered last : Line} {stage : Stage} {rest : List Stage} {copy : Database}
    (answered : line.deliver stage.message = (.ok (), delivered))
    (effect : stage.effect delivered.server.database = .ok copy) :
    line.Passes (stage :: rest) last ↔ (delivered.withDatabase copy).Passes rest last := by
  constructor
  · intro h
    obtain ⟨_, _, answered', effect', onward⟩ := Line.passes_cons.mp h
    cases answered.symm.trans answered'
    cases effect.symm.trans effect'
    exact onward
  · exact .cons answered effect

theorem Line.follow_cons_cases (line : Line) (stage : Stage) (rest : List Stage) :
    (∃ delivered copy, line.deliver stage.message = (.ok (), delivered) ∧
        stage.effect delivered.server.database = .ok copy ∧
        line.follow (stage :: rest) = (delivered.withDatabase copy).follow rest) ∨
      ((∃ cause, line.follow (stage :: rest) = (.error cause, (line.deliver stage.message).2)) ∧
        ∀ others last, ¬ line.Passes (stage :: others) last) := by
  rcases hdeliver : line.deliver stage.message with ⟨cause | ⟨⟩, delivered⟩
  · refine .inr ⟨⟨_, Line.follow_cons_error hdeliver⟩, fun others last h => ?_⟩
    obtain ⟨_, _, answered, _⟩ := Line.passes_cons.mp h
    cases hdeliver.symm.trans answered
  · cases heffect : stage.effect delivered.server.database with
    | ok copy =>
      exact .inl ⟨_, copy, rfl, heffect, (Line.follow_cons_ok hdeliver).trans (Line.resume_of_effect heffect)⟩
    | error cause =>
      refine .inr ⟨⟨cause, (Line.follow_cons_ok hdeliver).trans (Line.resume_of_failure heffect)⟩,
        fun others last h => ?_⟩
      obtain ⟨_, _, answered, effect, _⟩ := Line.passes_cons.mp h
      cases hdeliver.symm.trans answered
      cases heffect.symm.trans effect

theorem Line.passes_iff {line last : Line} {stages : List Stage} :
    line.Passes stages last ↔ line.follow stages = (.ok (), last) := by
  induction stages generalizing line with
  | nil =>
    constructor
    · rintro ⟨⟩
      rfl
    · rintro ⟨⟩
      exact .nil _
  | cons stage rest ih =>
    rcases line.follow_cons_cases stage rest with
      ⟨delivered, copy, answered, effect, hfollow⟩ | ⟨⟨cause, hfollow⟩, hnot⟩
    · rw [hfollow, ← ih]
      exact Line.passes_cons_of answered effect
    · rw [hfollow]
      exact iff_of_false (hnot rest last) (fun h => nomatch h)

theorem Line.follow_append (first second : List Stage) (line : Line) :
    line.follow (first ++ second) =
      match line.follow first with
      | (.ok (), after) => after.follow second
      | (.error cause, after) => (.error cause, after) := by
  induction first generalizing line with
  | nil => rfl
  | cons stage rest ih =>
    simp only [List.cons_append, Line.follow]
    rcases line.deliver stage.message with ⟨cause | ⟨⟩, delivered⟩
    · rfl
    · simp only
      cases stage.effect delivered.server.database with
      | error cause => rfl
      | ok copy => exact ih _

theorem Line.passes_append {line last : Line} {first second : List Stage} :
    line.Passes (first ++ second) last ↔ ∃ middle, line.Passes first middle ∧ middle.Passes second last := by
  simp only [Line.passes_iff, Line.follow_append]
  rcases line.follow first with ⟨cause | ⟨⟩, middle⟩ <;> simp

/-! ## What is sent -/

/-- What is sent is a beginning of the list, and a statement is part of it exactly if all before it have passed. -/
theorem Line.follow_sent (stages : List Stage) {line : Line} (hopen : line.isOpen = true) :
    ∃ n, (line.follow stages).2.sent = line.sent ++ (stages.map Stage.message).take n ∧
      ∀ i < stages.length, i < n ↔ ∃ middle, line.Passes (stages.take i) middle := by
  induction stages generalizing line with
  | nil => exact ⟨0, by simp [Line.follow], fun i hi => absurd hi (Nat.not_lt_zero i)⟩
  | cons stage rest ih =>
    rcases line.follow_cons_cases stage rest with
      ⟨delivered, copy, answered, effect, hfollow⟩ | ⟨⟨cause, hfollow⟩, hnot⟩
    · have hstill : delivered.isOpen = true := Line.open_of_delivered answered
      obtain ⟨n, hsent, hpasses⟩ := ih (show (delivered.withDatabase copy).isOpen = true from hstill)
      have hdelivered : (delivered.withDatabase copy).sent = line.sent ++ [stage.message] := by
        rw [← Line.deliver_sent hopen stage.message, answered]
        rfl
      refine ⟨n + 1, ?_, fun i hi => ?_⟩
      · rw [hfollow, hsent, hdelivered]
        simp
      · cases i with
        | zero => exact iff_of_true (Nat.succ_pos n) ⟨line, .nil line⟩
        | succ i =>
          rw [Nat.succ_lt_succ_iff, hpasses i (Nat.lt_of_succ_lt_succ hi)]
          exact exists_congr fun middle => (Line.passes_cons_of answered effect).symm
    · -- the statement does not pass, and is the last one that is sent
      refine ⟨1, ?_, fun i _ => ?_⟩
      · rw [hfollow]
        exact Line.deliver_sent hopen stage.message
      · cases i with
        | zero => exact iff_of_true Nat.one_pos ⟨line, .nil line⟩
        | succ i =>
          refine iff_of_false (by omega) ?_
          rintro ⟨middle, h⟩
          exact hnot _ _ h

/-! ## How the transaction ends -/

section
variable {line : Line}

theorem Line.createTables_of_passes {middle : Line} (hpasses : line.Passes (schemaStages line.server.clock) middle) :
    (line.createTables.1 = .ok () ↔ ∃ last, line.Passes (transaction line.server.clock) last) ∧
      line.createTables.2.sent = (line.follow (transaction line.server.clock)).2.sent := by
  have hfollow := Line.passes_iff.mp hpasses
  simp only [Line.passes_iff, Line.createTables_eq, transaction, Line.follow_append, hfollow, Line.conclude]
  rcases hdeliver : middle.deliver (.simple "COMMIT") with ⟨cause | ⟨⟩, after⟩ <;>
    simp [Line.follow, Stage.simple, hdeliver, Line.withDatabase]

theorem Line.createTables_of_stopped (hstops : ∀ middle, ¬ line.Passes (schemaStages line.server.clock) middle) :
    line.createTables.1 ≠ .ok () ∧
      ∃ rolledBack, (line.createTables.2.isOpen = true → rolledBack = true) ∧
        line.createTables.2.sent =
          (line.follow (transaction line.server.clock)).2.sent ++ (if rolledBack then [rollback] else []) := by
  simp only [Line.passes_iff] at hstops
  simp only [Line.createTables_eq, transaction, Line.follow_append]
  rcases hfollow : line.follow (schemaStages line.server.clock) with ⟨cause | ⟨⟩, after⟩
  · refine ⟨fun h => (nomatch h), after.isOpen, ?_, ?_⟩
    · cases hopen : after.isOpen with
      | true => exact fun _ => rfl
      | false => simp [Line.conclude, Line.deliver_of_closed hopen, Line.withDatabase, hopen]
    · cases hopen : after.isOpen with
      | true => exact Line.deliver_sent hopen rollback
      | false => simp [Line.conclude, Line.deliver_of_closed hopen, Line.withDatabase]
  · exact absurd hfollow (hstops after)

end

theorem Stage.execute_effect_ok {α : Type} {query : Query α} {now : Timestamp} {judge : α → Except LedgerError Unit}
    {stage : Stage} {db copy : Database} (hstage : (Stage.query query now judge).getLast? = some stage)
    (h : stage.effect db = .ok copy) : ∃ answer, query.effect now db = (.ok answer, copy) ∧ judge answer = .ok () := by
  simp only [Stage.query, List.getLast?_cons_cons, List.getLast?_singleton, Option.some.injEq] at hstage
  subst hstage
  dsimp only at h
  split at h
  · rename_i answer after heffect
    cases hjudge : judge answer with
    | error cause => simp [hjudge, Except.map] at h
    | ok _ =>
      simp only [hjudge, Except.map, Except.ok.injEq] at h
      exact ⟨answer, by rw [heffect, h], hjudge⟩
  · cases h

theorem versions_of_read {now : Timestamp} {db copy : Database} {found : Int}
    (h : readVersion.effect now db = (.ok found, copy)) : db.versions = some [found] := by
  obtain ⟨versions, requests, txs, sigs⟩ := db
  rcases versions with _ | (_ | ⟨version, _ | ⟨other, rest⟩⟩) <;> cases h
  rfl

theorem eq_of_judgeVersion {found : Int} (h : judgeVersion found = .ok ()) : found = 1 := by
  unfold judgeVersion at h
  split at h
  · assumption
  · cases h

theorem Line.Passes.version {line last : Line} {now : Timestamp} (h : line.Passes (schemaStages now) last) :
    ∃ middle, line.Passes ((transaction now).take 7) middle ∧ middle.server.database.versions = some [1] ∧
      (middle.execute readVersion).1 = .ok 1 := by
  have hsplit : schemaStages now = (transaction now).take 7 ++ (Stage.query readVersion now judgeVersion).drop 1 := rfl
  rw [hsplit, Line.passes_append] at h
  obtain ⟨middle, hbefore, hread⟩ := h
  obtain ⟨delivered, copy, answered, effect, _⟩ := Line.passes_cons.mp hread
  have hversions : delivered.server.database.versions = some [1] := by
    obtain ⟨found, hfound, hjudge⟩ := Stage.execute_effect_ok rfl effect
    rw [versions_of_read hfound, eq_of_judgeVersion hjudge]
  have hdeliver : middle.deliver (.execute readVersion.text readVersion.parameters) = (.ok (), delivered) := answered
  have hserver : delivered.server = middle.server := by rw [(Line.deliver_ok hdeliver).2]
  refine ⟨middle, hbefore, hserver ▸ hversions, ?_⟩
  simp only [Line.execute, hdeliver]
  simp only [readVersion, hversions]

/-! ## The whole exchange -/

/-- The first `n` messages of the transaction, sent over a new connection, all pass. -/
def Server.passes (server : Server) (n : Nat) : Prop :=
  ∃ last, Line.Passes { server } ((transaction server.clock).take n) last

/-- There is no connection; or all messages of the transaction are sent; or some, and then perhaps a rollback. -/
theorem Server.provision_sent_cases (server : Server) :
    (server.accept.1 ≠ .ok () ∧ server.provision.1.sent = [] ∧ server.provision.1.answer ≠ .ok ()) ∨
      (server.accept.1 = .ok () ∧ (∀ i < 9, server.passes i) ∧ server.provision.1.sent = transactionMessages ∧
        (server.provision.1.answer = .ok () ↔ server.passes 9)) ∨
      (server.accept.1 = .ok () ∧ ¬ server.passes 8 ∧ server.provision.1.answer ≠ .ok () ∧
        ∃ n ≤ 8, ∃ rolledBack : Bool, ((Line.createTables { server }).2.isOpen = true → rolledBack = true) ∧
          server.provision.1.sent = transactionMessages.take n ++ (if rolledBack then [rollback] else []) ∧
          ∀ i < 9, i < n ↔ server.passes i) := by
  rcases server.accept_cases with ⟨_, haccept⟩ | ⟨_, cause, after, haccept, _⟩
  · have hprovision : server.provision = server.createTables := by simp only [Server.provision, haccept]
    have hopen : ({ server } : Line).isOpen = true := rfl
    obtain ⟨n, hsent, hpasses⟩ := Line.follow_sent (transaction server.clock) hopen
    have hlast : 8 < (transaction server.clock).length := Nat.le_refl 9
    rw [transaction_messages, List.nil_append] at hsent
    rw [haccept, hprovision]
    by_cases hall : server.passes 8
    · obtain ⟨middle, hmiddle⟩ := hall
      obtain ⟨hok, hsame⟩ := Line.createTables_of_passes hmiddle
      have hn : 8 < n := (hpasses 8 hlast).mpr ⟨middle, hmiddle⟩
      refine .inr (.inl ⟨rfl, fun i hi => (hpasses i hi).mp (Nat.lt_of_lt_of_le hi hn), ?_, hok⟩)
      show (Line.createTables { server }).2.sent = transactionMessages
      rw [hsame, hsent]
      exact List.take_of_length_le hn
    · obtain ⟨hfails, rolledBack, hback, hsame⟩ :=
        Line.createTables_of_stopped fun middle h => hall ⟨middle, h⟩
      have hn : n ≤ 8 := Nat.not_lt.mp fun h => hall ((hpasses 8 hlast).mp h)
      exact .inr (.inr ⟨rfl, hall, hfails, n, hn, rolledBack, hback, hsame.trans (by rw [hsent]), hpasses⟩)
  · simp [Server.provision, haccept]

section
variable {n : Nat} (hn : n ≤ 8)
include hn

theorem transactionMessages_before_commit :
    ∀ message ∈ transactionMessages.take n, message ≠ commit ∧ message ≠ rollback := by
  have hbody : ∀ message ∈ transactionMessages.take 8, message ≠ commit ∧ message ≠ rollback := by decide +kernel
  exact fun message hmem => hbody message (List.take_subset_take_left _ hn hmem)

theorem commit_not_mem (rolledBack : Bool) :
    commit ∉ transactionMessages.take n ++ (if rolledBack then [rollback] else []) := by
  intro hmem
  rcases List.mem_append.mp hmem with hmem | hmem
  · exact (transactionMessages_before_commit hn commit hmem).1 rfl
  · cases rolledBack with
    | false => cases hmem
    | true => exact absurd (List.mem_singleton.mp hmem) (by decide)

/-- Where at most one message follows a beginning of the transaction, only that one can be a commit or a rollback. -/
theorem last_of_ends {ending : List Sent} (hending : ending.length ≤ 1) {i : Nat}
    (hi : (transactionMessages.take n ++ ending)[i]? = some commit ∨
      (transactionMessages.take n ++ ending)[i]? = some rollback) :
    i + 1 = (transactionMessages.take n ++ ending).length := by
  have hbody := transactionMessages_before_commit hn
  generalize transactionMessages.take n = body at hi hbody ⊢
  have hlt : i < (body ++ ending).length := by
    rcases hi with hi | hi <;> exact (List.getElem?_eq_some_iff.mp hi).1
  have hge : body.length ≤ i := by
    apply Nat.le_of_not_lt
    intro hinside
    rw [List.getElem?_append_left hinside] at hi
    rcases hi with hi | hi
    · exact (hbody _ (List.mem_of_getElem? hi)).1 rfl
    · exact (hbody _ (List.mem_of_getElem? hi)).2 rfl
  rw [List.length_append] at hlt ⊢
  omega

end

/-- The messages that create the tables are a beginning of the transaction's, and perhaps a rollback. A message of the
transaction is sent exactly if the connection was opened and all before it have passed; the commit only if the one
version that was read is 1. Nothing follows a commit or a rollback, and as long as the connection lasts, one of them
comes last. The answer is a success exactly if the commit was sent and passed. -/
theorem Server.provision_protocol (server : Server) :
    let sent := server.provision.1.sent
    let connected := server.accept.1 = .ok ()
    (∃ n, ∃ rolledBack : Bool, sent = transactionMessages.take n ++ (if rolledBack then [rollback] else []) ∧
        ∀ i < transactionMessages.length, i < n ↔ connected ∧ server.passes i) ∧
      (commit ∈ sent → ∃ last, Line.Passes { server } ((transaction server.clock).take 7) last ∧
        last.server.database.versions = some [1] ∧ (last.execute readVersion).1 = .ok 1) ∧
      ((commit ∈ sent → rollback ∉ sent) ∧
        ∀ i, sent[i]? = some commit ∨ sent[i]? = some rollback → i + 1 = sent.length) ∧
      (connected → (Line.createTables { server }).2.isOpen = true →
        sent.getLast? = some commit ∨ sent.getLast? = some rollback) ∧
      (server.provision.1.answer = .ok () ↔ commit ∈ sent ∧ server.passes transactionMessages.length) := by
  intro sent connected
  rcases server.provision_sent_cases with
    ⟨hnot, hsent, hfails⟩ | ⟨hconnected, hpasses, hsent, hok⟩ |
      ⟨hconnected, hstops, hfails, n, hn, rolledBack, hback, hsent, hpasses⟩
  · have hnone : sent = [] := hsent
    rw [hnone]
    exact ⟨⟨0, false, rfl, fun i _ => iff_of_false (Nat.not_lt_zero i) fun h => hnot h.1⟩, by simp, by simp,
      fun h => absurd h hnot, by simp [hfails]⟩
  · have hall : sent = transactionMessages.take 8 ++ [commit] := hsent
    rw [hall]
    have hcommit : commit ∈ transactionMessages.take 8 ++ [commit] :=
      List.mem_append_right _ (List.mem_singleton_self _)
    refine ⟨⟨9, false, rfl, fun i hi => iff_of_true hi ⟨hconnected, hpasses i hi⟩⟩, ?_, ⟨?_, ?_⟩, ?_, ?_⟩
    · intro _
      obtain ⟨last, hlast⟩ := hpasses 8 (by decide)
      exact hlast.version
    · intro _
      decide +kernel
    · have hending : [commit].length ≤ 1 := Nat.le_refl 1
      exact fun i hi => last_of_ends (Nat.le_refl 8) hending hi
    · exact fun _ _ => .inl rfl
    · rw [hok]
      exact ⟨fun h => ⟨hcommit, h⟩, fun h => h.2⟩
  · have hstopped : sent = transactionMessages.take n ++ (if rolledBack then [rollback] else []) := hsent
    rw [hstopped]
    have hcommit := commit_not_mem hn rolledBack
    refine ⟨⟨n, rolledBack, rfl, fun i hi => ?_⟩, fun h => absurd h hcommit, ⟨fun h => absurd h hcommit, ?_⟩, ?_, ?_⟩
    · rw [hpasses i hi]
      exact ⟨fun h => ⟨hconnected, h⟩, fun h => h.2⟩
    · refine fun i hi => last_of_ends hn ?_ hi
      cases rolledBack <;> simp
    · intro _ hopen
      rw [hback hopen]
      exact .inr (by simp)
    · exact iff_of_false hfails fun h => hcommit h.1

/-- A server without tables that will refuse to record the version. -/
def reluctantServer : Server where
  faults := [{ kind := .execute, code := some "40001", pattern := "INSERT INTO version" }]

theorem reluctantServer_rolled_back :
    reluctantServer.accept.1 = .ok () ∧ (Line.createTables { server := reluctantServer }).2.isOpen = true ∧
      reluctantServer.provision.1.sent.length = 7 ∧ reluctantServer.provision.1.sent.getLast? = some rollback := by
  have hconnected : reluctantServer.accept.1 = .ok () := rfl
  have hopen : (Line.createTables { server := reluctantServer }).2.isOpen = true := by decide +kernel
  have hlength : reluctantServer.provision.1.sent.length = 7 := by decide +kernel
  have hlast : reluctantServer.provision.1.sent.getLast? ≠ some commit := by decide +kernel
  obtain ⟨_, _, _, hends, _⟩ := Server.provision_protocol reluctantServer
  exact ⟨hconnected, hopen, hlength, (hends hconnected hopen).resolve_left hlast⟩

end BridgeLedger
