import BridgeLedger.Proofs.Planning

/-!
# What a call sends

A call has one statement, which it has prepared once, and executed once if that succeeds; it tries nothing twice. It
keeps silent if its arguments or the connection do not let it speak (`Session.Transcript`). Whether it comes to the
execution, the checks of its arguments and the way to the server decide (`Session.executes_iff`). Only a record call
inserts, and what it inserts has passed the checks of its columns: `Session.statement_discipline`.
-/

namespace BridgeLedger

/-! ## Preparing and executing -/

def Plan.Prepared {α : Type} (server : Server) : Plan α → Prop
  | .decided _ _ => False
  | .ask query _ => ∃ prepared, Line.prepare { server } query = (.ok (), prepared)

/-- The server prepares the query of the plan, and its execution ends without an error, such as too many rows. -/
def Plan.Succeeds {α : Type} (server : Server) : Plan α → Prop
  | .decided _ _ => False
  | .ask query _ => ∃ prepared executed found, Line.prepare { server } query = (.ok (), prepared) ∧
      prepared.execute query = (.ok found, executed)

section
variable {α : Type} {server : Server} {query : Query α}
  {conclude : Except ServerError α → Except LedgerError α × List LogLine}

theorem Line.prepare_eq (h : server.prepares query = true) :
    Line.prepare { server } query = (.ok (), { server, sent := [.prepare query.text] }) := by
  rw [Server.prepares, Bool.and_eq_true] at h
  have hclear : Line.clear { server } (.prepare query.text) = true := h.1
  simp only [Line.prepare, Line.deliver_of_clear hclear, h.2, ite_true, List.nil_append]

theorem Line.execute_eq {line : Line} (h : line.clear (.execute query.text query.parameters) = true) :
    line.execute query = ((query.effect line.server.clock line.server.database).1,
      Line.withDatabase { line with sent := line.sent ++ [.execute query.text query.parameters] }
        (query.effect line.server.clock line.server.database).2) := by
  simp only [Line.execute, Line.deliver_of_clear h]

theorem Plan.prepared_iff : (Plan.ask query conclude).Prepared server ↔ server.prepares query = true := by
  refine ⟨fun ⟨prepared, h⟩ => ?_, fun h => ⟨_, Line.prepare_eq h⟩⟩
  rcases hdeliver : Line.deliver { server } (.prepare query.text) with ⟨cause | ⟨⟩, after⟩
  · simp only [Line.prepare, hdeliver] at h
    cases h
  · obtain ⟨hclear, rfl⟩ := Line.deliver_ok hdeliver
    have hquiet : server.quiet .prepare query.text = true := hclear
    simp only [Line.prepare, hdeliver, Prod.mk.injEq] at h
    rw [Server.prepares, hquiet, Bool.true_and]
    by_contra hmissing
    simp [hmissing] at h

theorem Plan.Succeeds.prepared {plan : Plan α} (h : plan.Succeeds server) : plan.Prepared server := by
  cases plan with
  | decided => exact h
  | ask =>
    obtain ⟨prepared, _, _, hprepare, _⟩ := h
    exact ⟨prepared, hprepare⟩

theorem Plan.succeeds_iff : (Plan.ask query conclude).Succeeds server ↔ server.prepares query = true ∧
    server.quiet .execute query.text = true ∧ ∃ found, (query.effect server.clock server.database).1 = .ok found := by
  constructor
  · rintro ⟨prepared, executed, found, hprepare, hexecute⟩
    have hprepares := (@Plan.prepared_iff _ server query conclude).mp ⟨prepared, hprepare⟩
    rw [Line.prepare_eq hprepares, Prod.mk.injEq] at hprepare
    obtain ⟨_, rfl⟩ := hprepare
    rcases hdeliver : Line.deliver { server, sent := [.prepare query.text] }
      (.execute query.text query.parameters) with ⟨cause | ⟨⟩, after⟩
    · simp only [Line.execute, hdeliver] at hexecute
      cases hexecute
    · obtain ⟨hclear, rfl⟩ := Line.deliver_ok hdeliver
      simp only [Line.execute, hdeliver, Prod.mk.injEq] at hexecute
      exact ⟨hprepares, hclear, found, hexecute.1⟩
  · rintro ⟨hprepares, hquiet, found, hfound⟩
    have hclear : Line.clear { server, sent := [.prepare query.text] } (.execute query.text query.parameters) = true :=
      hquiet
    exact ⟨_, _, found, Line.prepare_eq hprepares, (Line.execute_eq hclear).trans (Prod.ext hfound rfl)⟩

end

/-! ## One call -/

theorem Session.connect_error_iff {session : Session} :
    (∃ cause, session.connect.1 = .error cause) ↔ session.server.quiet .connect "" = false := by
  rcases session.server.accept_cases with ⟨hquiet, haccept⟩ | ⟨hquiet, cause, after, haccept, _⟩
  · simp [Session.connect, haccept, hquiet]
  · simp [Session.connect, haccept, hquiet]

theorem Session.offline_iff {session : Session} : session.online = false ↔
    session.connection = .lost ∨ session.connection = .absent ∧ ∃ cause, session.connect.1 = .error cause := by
  rw [Session.connect_error_iff]
  cases hc : session.connection <;> simp [Session.online, hc]

theorem Session.executes_iff {session : Session} {call : Operation} : session.executes call = true ↔
    (∀ cause, ¬ FirstRefusal call.fields cause) ∧ session.online = true ∧
      call.planned.plan.Prepared session.server ∧ session.server.quiet .execute call.statement = true := by
  have hplanning := call.planning
  unfold Session.executes
  generalize call.planned = planned at hplanning ⊢
  cases hplanning with
  | rejected _ first | nothing _ first => exact iff_of_false Bool.false_ne_true fun h => h.1 _ first
  | @asks _ _ query conclude passes text =>
    rw [and_iff_right passes, Plan.prepared_iff, ← text]
    show session.reaches query = true ↔ _
    rw [session.reaches_eq, Bool.and_eq_true, Bool.and_eq_true]

/-- A record is executed only if the columns of its table can hold it and their checks let it pass. -/
theorem Session.executes_record_iff {session : Session} {call : Operation} {table : TableName} {arguments : List String}
    (hrecord : call.record? = some (table, arguments)) : session.executes call = true ↔
      ((∀ value ∈ arguments, '\x00' ∉ value.toList) ∧ table.Admits arguments) ∧ session.online = true ∧
        call.planned.plan.Prepared session.server ∧ session.server.quiet .execute call.statement = true := by
  rw [Session.executes_iff, Operation.passes_iff hrecord, TableName.stores_iff]

/-- What a call sends and whether it answers, by how far it gets. -/
inductive Session.Transcript (session : Session) (call : Operation) : Report Reply → Prop
  | silent {report : Report Reply} (why : (∃ cause, FirstRefusal call.fields cause) ∨ session.online = false)
      (sent : report.sent = []) : Session.Transcript session call report
  | unprepared {report : Report Reply} (passes : ∀ cause, ¬ FirstRefusal call.fields cause)
      (online : session.online = true) (unprepared : ¬ call.planned.plan.Prepared session.server)
      (sent : report.sent = [.prepare call.statement]) (failed : ∃ cause, report.answer = .error cause) :
      Session.Transcript session call report
  | executed {report : Report Reply} (passes : ∀ cause, ¬ FirstRefusal call.fields cause)
      (online : session.online = true) (prepared : call.planned.plan.Prepared session.server)
      (sent : report.sent = [.prepare call.statement, .execute call.statement call.parameters])
      (answers : (∃ reply, report.answer = .ok reply) ↔ call.planned.plan.Succeeds session.server) :
      Session.Transcript session call report

theorem Operation.Concludes.ok_iff {α : Type} {call : Operation} {outcome : Except ServerError α}
    {answer : Except LedgerError α} (h : call.Concludes outcome answer) (wrap : α → Reply) :
    (∃ reply, answer.map wrap = .ok reply) ↔ ∃ found, outcome = .ok found := by
  cases h with
  | answered found => exact iff_of_true ⟨_, rfl⟩ ⟨found, rfl⟩
  | failed | repeated => exact iff_of_false nofun nofun

theorem Session.operate_transcript (session : Session) (call : Operation) :
    session.Transcript call (session.operate call).1 := by
  have hplanning := call.planning
  rw [session.operate_eq]
  generalize hplanned : call.planned = planned at hplanning ⊢
  cases hplanning with
  | @rejected wrap cause _ first =>
    refine .silent (.inl ⟨cause, first⟩) ?_
    rcases session.perform_decided_report wrap (.error (.invalid cause)) (call.trail (.error (.invalid cause))) with
      hreport | ⟨_, hreport⟩ <;> rw [hreport]
  | @nothing _ wrap found cause _ first =>
    refine .silent (.inl ⟨cause, first⟩) ?_
    rcases session.perform_decided_report wrap (.ok found) [] with hreport | ⟨_, hreport⟩ <;> rw [hreport]
  | @asks _ wrap query conclude passes text parameters _ concludes _ =>
    have hprepared : call.planned.plan.Prepared session.server ↔ session.server.prepares query = true := by
      rw [hplanned]
      exact Plan.prepared_iff
    have hsucceeds : call.planned.plan.Succeeds session.server ↔ session.server.prepares query = true ∧
        session.server.quiet .execute query.text = true ∧
        ∃ found, (query.effect session.server.clock session.server.database).1 = .ok found := by
      rw [hplanned]
      exact Plan.succeeds_iff
    have hcourse := session.perform_course wrap query conclude
    generalize (session.perform wrap (.ask query conclude)).1 = report at hcourse ⊢
    cases hcourse with
    | offline offline => exact .silent (.inr offline) rfl
    | unprepared _ online unprepared =>
      refine .unprepared passes online ?_ (by rw [text]) ⟨_, rfl⟩
      rw [hprepared, unprepared]
      exact Bool.false_ne_true
    | unexecuted _ online prepared struck =>
      refine .executed passes online (hprepared.mpr prepared) (by rw [text, parameters]) ?_
      rw [hsucceeds, struck]
      refine iff_of_false (fun hok => ?_) fun h => Bool.false_ne_true h.2.1
      obtain ⟨found, hfound⟩ := ((concludes _).ok_iff wrap).mp hok
      cases hfound
    | executed online prepared quiet =>
      refine .executed passes online (hprepared.mpr prepared) (by rw [text, parameters]) ?_
      rw [hsucceeds, and_iff_right prepared, and_iff_right quiet]
      exact (concludes _).ok_iff wrap

/-! ## What is in the messages -/

def Sent.inserts (message : Sent) : Bool := opensWith "INSERT" message.text

theorem TableName.insertion_inserts (table : TableName) : opensWith "INSERT" table.insertion = true := by
  unfold TableName.insertion
  simp only [String.append_assoc]
  exact opensWith_append (by decide) _

theorem TableName.selection_inserts (table : TableName) (column : String) :
    opensWith "INSERT" (table.selection column) = false := by
  unfold TableName.selection
  simp only [String.append_assoc]
  exact opensWith_append (by decide) _

theorem TableName.selectionInOrder_inserts (table : TableName) (column : String) :
    opensWith "INSERT" (table.selectionInOrder column) = false := by
  unfold TableName.selectionInOrder TableName.selection
  simp only [String.append_assoc]
  exact opensWith_append (by decide) _

theorem Operation.statement_inserts (call : Operation) : opensWith "INSERT" call.statement = call.isRecord := by
  cases call with
  | recordDepositRequest | recordMoveTx | recordWithdrawalSig => exact TableName.insertion_inserts _
  | depositRequest | moveTx | withdrawalSig | moveTxWithTxid => exact TableName.selection_inserts _ _
  | depositRequestsFor | depositRequestsSpending | moveTxsFor | moveTxsSpending | withdrawalSigsFor =>
    exact TableName.selectionInOrder_inserts _ _
  | counts => exact opensWith_append (by decide) _

theorem Operation.text_parameter {call : Operation} {value : String} (h : .text value ∈ call.parameters) :
    ∃ field ∈ call.fields, value = field.1.check.normal field.2 := by
  have hfields : ∀ fields : List (Column × String),
      Parameter.text value ∈ fields.map (fun field => .text (field.1.check.normal field.2)) →
        ∃ field ∈ fields, value = field.1.check.normal field.2 := by
    intro fields hmem
    obtain ⟨field, hfield, hvalue⟩ := List.mem_map.mp hmem
    exact ⟨field, hfield, (Parameter.text.inj hvalue).symm⟩
  cases call with
  | depositRequest | moveTx | withdrawalSig => simp [Operation.parameters] at h
  | _ => exact hfields _ h

theorem Operation.parameters_storable {call : Operation} (hpasses : ∀ cause, ¬ FirstRefusal call.fields cause)
    {value : String} (h : .text value ∈ call.parameters) : '\x00' ∉ value.toList := by
  obtain ⟨⟨column, argument⟩, hfield, rfl⟩ := Operation.text_parameter h
  have hstores : column.check.Stores argument := by
    rw [Column.stores_iff]
    intro cause hrefuses
    obtain ⟨first, hfirst⟩ := exists_firstRefusal.mpr ⟨_, hfield, cause, hrefuses⟩
    exact hpasses first hfirst
  exact hstores.normal_stores.1

section
variable {session : Session} {call : Operation} {report : Report Reply} (h : session.Transcript call report)
include h

theorem Session.Transcript.shape : report.sent = [] ∨ report.sent = [.prepare call.statement] ∨
    report.sent = [.prepare call.statement, .execute call.statement call.parameters] := by
  cases h with
  | silent _ sent => exact .inl sent
  | unprepared _ _ _ sent _ => exact .inr (.inl sent)
  | executed _ _ _ sent _ => exact .inr (.inr sent)

theorem Session.Transcript.silent_iff :
    report.sent = [] ↔ (∃ cause, FirstRefusal call.fields cause) ∨ session.online = false := by
  cases h with
  | silent why sent => exact iff_of_true sent why
  | unprepared passes online _ sent _ | executed passes online _ sent _ => simp [sent, passes, online]

theorem Session.Transcript.spoken : report.sent = [] ∨
    ((report.sent = [.prepare call.statement, .execute call.statement call.parameters] ↔
        call.planned.plan.Prepared session.server) ∧
      ((∃ reply, report.answer = .ok reply) ↔ call.planned.plan.Succeeds session.server)) := by
  cases h with
  | silent _ sent => exact .inl sent
  | unprepared _ _ unprepared sent failed =>
    obtain ⟨cause, failed⟩ := failed
    refine .inr ⟨iff_of_false (by simp [sent]) unprepared, iff_of_false (by simp [failed]) fun hsucceeds => ?_⟩
    exact unprepared hsucceeds.prepared
  | executed _ _ prepared sent answers => exact .inr ⟨iff_of_true sent prepared, answers⟩

theorem Session.Transcript.storable {parameters : List Parameter}
    (hexecute : .execute call.statement parameters ∈ report.sent) :
    ∀ value, .text value ∈ parameters → '\x00' ∉ value.toList := by
  cases h with
  | silent _ sent | unprepared _ _ _ sent _ => simp [sent] at hexecute
  | executed passes _ _ sent _ =>
    obtain rfl : parameters = call.parameters := by simpa [sent] using hexecute
    exact fun value => Operation.parameters_storable passes

theorem Session.Transcript.text {message : Sent} (hmessage : message ∈ report.sent) :
    message.text = call.statement := by
  rcases h.shape with sent | sent | sent <;> rw [sent] at hmessage
  · cases hmessage
  · rw [List.mem_singleton.mp hmessage]
    rfl
  · rcases List.mem_pair.mp hmessage with rfl | rfl <;> rfl

theorem Session.Transcript.executions_le_one : (report.sent.countP fun message => message.kind == .execute) ≤ 1 := by
  rcases h.shape with sent | sent | sent <;> rw [sent]
  · exact Nat.zero_le 1
  · exact Nat.zero_le 1
  · exact Nat.le_refl 1

end

/-- Whatever the server holds and whichever faults are pending, a call sends nothing, or has its own statement prepared,
or has it prepared and then executed with its own parameters. -/
theorem Session.statement_discipline (session : Session) (call : Operation) :
    ((session.operate call).1.sent = [] ∨ (session.operate call).1.sent = [.prepare call.statement] ∨
        (session.operate call).1.sent = [.prepare call.statement, .execute call.statement call.parameters]) ∧
      ((session.operate call).1.sent = [] ↔
        (∃ field ∈ call.fields, ∃ cause, field.1.Refuses field.2 cause) ∨
          session.connection = .lost ∨ session.connection = .absent ∧ ∃ cause, session.connect.1 = .error cause) ∧
      ((session.operate call).1.sent = [] ∨
        (((session.operate call).1.sent = [.prepare call.statement, .execute call.statement call.parameters] ↔
            call.planned.plan.Prepared session.server) ∧
          ((∃ reply, (session.operate call).1.answer = .ok reply) ↔ call.planned.plan.Succeeds session.server))) ∧
      (∀ parameters, .execute call.statement parameters ∈ (session.operate call).1.sent →
        ∀ value, .text value ∈ parameters → '\x00' ∉ value.toList) ∧
      (∀ message ∈ (session.operate call).1.sent, message.inserts = call.isRecord) ∧
      ((session.operate call).1.sent.countP fun message => message.kind == .execute) ≤ 1 := by
  have htranscript := session.operate_transcript call
  rw [← exists_firstRefusal, ← Session.offline_iff]
  refine ⟨htranscript.shape, htranscript.silent_iff, htranscript.spoken, fun _ => htranscript.storable, ?_,
    htranscript.executions_le_one⟩
  intro message hmessage
  rw [Sent.inserts, htranscript.text hmessage, call.statement_inserts]

def struckSession : Session :=
  ⟨{ database := Database.createMissing {}, faults := [{ kind := .execute, code := some .uniqueViolation }] }, .live⟩

def capitalSignature : Operation :=
  .recordWithdrawalSig (String.ofList (List.replicate 64 'A')) (String.ofList (List.replicate 128 'B'))

theorem capitalSignature_struck :
    (struckSession.operate capitalSignature).1.sent =
        [.prepare capitalSignature.statement, .execute capitalSignature.statement capitalSignature.parameters] ∧
      ¬ capitalSignature.planned.plan.Succeeds struckSession.server := by
  have hlength : (struckSession.operate capitalSignature).1.sent.length = 2 := by decide +kernel
  have hanswer : (struckSession.operate capitalSignature).1.answer = .error (.server (.refused .uniqueViolation)) := by
    decide +kernel
  obtain ⟨hshape, _, hspoken, _⟩ := Session.statement_discipline struckSession capitalSignature
  rw [hanswer] at hspoken
  rcases hshape with hsent | hsent | hsent <;> rw [hsent] at hlength hspoken
  · cases hlength
  · cases hlength
  · rcases hspoken with hsilent | ⟨_, hanswers⟩
    · cases hsilent
    · exact ⟨hsent, mt hanswers.mpr (by simp)⟩

end BridgeLedger
