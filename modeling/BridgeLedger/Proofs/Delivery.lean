import BridgeLedger.Session

/-!
# What can happen to a statement

A statement reaches the execution of the server only over an open line, past every pending fault, and once all its
tables exist (`Session.reaches`). Then the call is exactly the effect of its query on the database
(`perform_of_reaches`). In every other case nothing is stored: the server has lost at most some of its pending
faults (`Server.Spent`), and the outcome is a failure that the query did not choose (`perform_of_not_reaches`). How far
the query gets also settles what is sent and what is logged (`Session.perform_course`).
-/

namespace BridgeLedger

/-! ## Pending faults -/

def Server.quiet (server : Server) (kind : EventKind) (text : String) : Bool :=
  server.faults.all fun fault => !fault.fits kind text

theorem Server.quiet_of_faultless {server : Server} (hfaultless : server.faults = []) (kind : EventKind)
    (text : String) : server.quiet kind text = true := by
  rw [Server.quiet, hfaultless]
  rfl

/-- The later server differs from the earlier in the faults that struck meanwhile, and in nothing else. -/
structure Server.Spent (before after : Server) : Prop where
  database : after.database = before.database
  clock : after.clock = before.clock
  faults : after.faults.Sublist before.faults

theorem Server.Spent.refl (server : Server) : server.Spent server :=
  ⟨rfl, rfl, List.Sublist.refl _⟩

theorem Server.Spent.trans {a b c : Server} (hab : a.Spent b) (hbc : b.Spent c) : a.Spent c :=
  ⟨hbc.database.trans hab.database, hbc.clock.trans hab.clock, hbc.faults.trans hab.faults⟩

theorem Server.strike_spent (server : Server) (kind : EventKind) (text : String) :
    server.Spent (server.strike kind text).2 :=
  ⟨rfl, rfl, List.eraseP_sublist⟩

theorem Server.strike_of_quiet {server : Server} {kind : EventKind} {text : String} (hq : server.quiet kind text) :
    server.strike kind text = (none, server) := by
  have hnone : ∀ fault ∈ server.faults, ¬ fault.fits kind text = true := by simpa [Server.quiet] using hq
  simp only [Server.strike, List.find?_eq_none.mpr hnone, List.eraseP_of_forall_not hnone]

theorem Server.strike_of_not_quiet {server : Server} {kind : EventKind} {text : String}
    (hq : server.quiet kind text = false) :
    ∃ fault ∈ server.faults, fault.kind = kind ∧ (server.strike kind text).1 = some fault := by
  have hsome : (server.faults.find? (Fault.fits kind text)).isSome := by
    rw [List.find?_isSome]
    simpa [Server.quiet] using hq
  obtain ⟨fault, hfind⟩ := Option.isSome_iff_exists.mp hsome
  have hfits := List.find?_some hfind
  simp only [Fault.fits, Bool.and_eq_true, beq_iff_eq] at hfits
  exact ⟨fault, List.mem_of_find?_eq_some hfind, hfits.1, hfind⟩

/-! ## Failures from outside -/

def Server.MayFail (server : Server) (kind : EventKind) (cause : ServerError) : Prop :=
  cause = .closed ∨ ∃ fault ∈ server.faults, fault.kind = kind ∧ cause = fault.error

theorem Server.MayFail.ne_rowCount {server : Server} {kind : EventKind} {cause : ServerError}
    (hf : server.MayFail kind cause) : cause ≠ .rowCount := by
  rcases hf with rfl | ⟨fault, _, _, rfl⟩
  · simp
  · unfold Fault.error
    split <;> simp

theorem Server.accept_cases (server : Server) :
    (server.quiet .connect "" = true ∧ server.accept = (.ok (), server)) ∨
      (server.quiet .connect "" = false ∧ ∃ cause after, server.accept = (.error cause, after) ∧
        server.Spent after ∧ server.MayFail .connect cause) := by
  cases hq : server.quiet .connect "" with
  | true => exact .inl ⟨rfl, by simp only [Server.accept, Server.strike_of_quiet hq]⟩
  | false =>
    obtain ⟨fault, hmem, hkind, hstrike⟩ := Server.strike_of_not_quiet hq
    refine .inr ⟨rfl, fault.error, (server.strike .connect "").2, ?_, server.strike_spent _ _, ?_⟩
    · unfold Server.accept
      rw [show server.strike .connect "" = (some fault, (server.strike .connect "").2) from Prod.ext hstrike rfl]
    · exact .inr ⟨fault, hmem, hkind, rfl⟩

theorem Server.accept_spent (server : Server) : server.Spent server.accept.2 := by
  rcases server.accept_cases with ⟨_, haccept⟩ | ⟨_, _, _, haccept, hspent, _⟩ <;> rw [haccept]
  · exact .refl server
  · exact hspent

/-! ## One statement -/

def Line.clear (line : Line) (message : Sent) : Bool :=
  line.isOpen && line.server.quiet message.kind message.text

theorem Line.deliver_of_clear {line : Line} {message : Sent} (hc : line.clear message) :
    line.deliver message = (.ok (), { line with sent := line.sent ++ [message] }) := by
  simp only [Line.clear, Bool.and_eq_true] at hc
  simp only [Line.deliver, hc.1, ite_true, Server.strike_of_quiet hc.2]

theorem Line.deliver_of_not_clear {line : Line} {message : Sent} (hc : line.clear message = false) :
    ∃ cause after, line.deliver message = (.error cause, after) ∧ line.server.Spent after.server ∧
      line.server.MayFail message.kind cause := by
  cases hopen : line.isOpen with
  | false =>
    refine ⟨.closed, line, ?_, Server.Spent.refl _, .inl rfl⟩
    simp only [Line.deliver, hopen, Bool.false_eq_true, ite_false]
  | true =>
    have hq : line.server.quiet message.kind message.text = false := by simpa [Line.clear, hopen] using hc
    obtain ⟨fault, hmem, hkind, hstrike⟩ := Server.strike_of_not_quiet hq
    have hpair : line.server.strike message.kind message.text =
        (some fault, (line.server.strike message.kind message.text).2) := Prod.ext hstrike rfl
    refine ⟨fault.error, ⟨(line.server.strike message.kind message.text).2, fault.code.isSome, line.sent ++ [message]⟩,
      ?_, line.server.strike_spent message.kind message.text, .inr ⟨fault, hmem, hkind, rfl⟩⟩
    simp only [Line.deliver, hopen, ite_true]
    rw [hpair]

theorem Line.deliver_cases (line : Line) (message : Sent) :
    (line.clear message = true ∧ line.deliver message = (.ok (), { line with sent := line.sent ++ [message] })) ∨
      (line.clear message = false ∧ ∃ cause after, line.deliver message = (.error cause, after) ∧
        line.server.Spent after.server ∧ line.server.MayFail message.kind cause) := by
  cases hc : line.clear message with
  | true => exact .inl ⟨rfl, Line.deliver_of_clear hc⟩
  | false => exact .inr ⟨rfl, Line.deliver_of_not_clear hc⟩

section
variable {line after : Line} {message : Sent}

theorem Line.deliver_ok (h : line.deliver message = (.ok (), after)) :
    line.clear message = true ∧ after = { line with sent := line.sent ++ [message] } := by
  rcases line.deliver_cases message with ⟨hclear, hdeliver⟩ | ⟨_, _, _, hdeliver, _⟩
  · cases hdeliver.symm.trans h
    exact ⟨hclear, rfl⟩
  · cases hdeliver.symm.trans h

theorem Line.open_of_delivered (h : line.deliver message = (.ok (), after)) : after.isOpen = true := by
  obtain ⟨hclear, rfl⟩ := Line.deliver_ok h
  rw [Line.clear, Bool.and_eq_true] at hclear
  exact hclear.1

theorem Line.deliver_of_closed (hclosed : line.isOpen = false) (message : Sent) :
    line.deliver message = (.error .closed, line) := by
  simp only [Line.deliver, hclosed, Bool.false_eq_true, ite_false]

theorem Line.deliver_sent (hopen : line.isOpen = true) (message : Sent) :
    (line.deliver message).2.sent = line.sent ++ [message] := by
  simp only [Line.deliver, hopen, ite_true]
  rcases line.server.strike message.kind message.text with ⟨struck, left⟩
  cases struck <;> rfl

theorem Line.deliver_error {cause : ServerError} (h : line.deliver message = (.error cause, after)) :
    line.clear message = false ∧ line.server.Spent after.server ∧ line.server.MayFail message.kind cause ∧
      (line.isOpen = true → after.sent = line.sent ++ [message]) := by
  rcases line.deliver_cases message with ⟨_, hdeliver⟩ | ⟨hnot, _, _, hdeliver, hspent, hfail⟩
  · cases hdeliver.symm.trans h
  · cases hdeliver.symm.trans h
    refine ⟨hnot, hspent, hfail, fun hopen => ?_⟩
    rw [← Line.deliver_sent hopen message, h]

end

section
variable (server : Server) (text : String)

theorem Server.send_cases :
    (server.quiet .simple text = true ∧ server.send text = ((.ok (), [.simple text]), server)) ∨
      (server.quiet .simple text = false ∧ ∃ cause sent after, server.send text = ((.error cause, sent), after) ∧
        server.Spent after) := by
  have hclear : Line.clear { server } (.simple text) = server.quiet .simple text := Bool.true_and _
  rcases Line.deliver_cases { server } (.simple text) with
    ⟨hquiet, hdeliver⟩ | ⟨hquiet, cause, after, hdeliver, hspent, -⟩
  · exact .inl ⟨hclear ▸ hquiet, by simp only [Server.send, hdeliver, List.nil_append]⟩
  · exact .inr ⟨hclear ▸ hquiet, cause, after.sent, after.server, by simp only [Server.send, hdeliver], hspent⟩

theorem Server.send_spent : server.Spent (server.send text).2 := by
  rcases server.send_cases text with ⟨_, hsend⟩ | ⟨_, _, _, _, hsend, hspent⟩ <;> rw [hsend]
  · exact .refl server
  · exact hspent

end

/-! ## A query -/

/-- The query is prepared and executed: the line is open, the tables exist, and no fault fits either message. -/
def Line.reaches {α : Type} (line : Line) (query : Query α) : Bool :=
  line.isOpen && line.server.quiet .prepare query.text && query.tables.all line.server.database.has &&
    line.server.quiet .execute query.text

section
variable {α : Type} {query : Query α} (conclude : Except ServerError α → Except LedgerError α × List LogLine)

theorem Plan.carryOut_of_reaches {line : Line} (hr : line.reaches query) :
    (Plan.ask query conclude).carryOut line =
      ({ answer := (conclude (query.effect line.server.clock line.server.database).1).1
         log := (conclude (query.effect line.server.clock line.server.database).1).2
         sent := [.prepare query.text, .execute query.text query.parameters] },
       { server := { line.server with database := (query.effect line.server.clock line.server.database).2 }
         isOpen := true
         sent := [.prepare query.text, .execute query.text query.parameters] }) := by
  obtain ⟨server, isOpen, sent⟩ := line
  simp only [Line.reaches, Bool.and_eq_true] at hr
  obtain ⟨⟨⟨rfl, hprepare⟩, htables⟩, hexecute⟩ := hr
  have hp : Line.clear ⟨server, true, []⟩ (.prepare query.text) := by
    simp [Line.clear, Sent.kind, Sent.text, hprepare]
  have he : Line.clear ⟨server, true, [.prepare query.text]⟩ (.execute query.text query.parameters) := by
    simp [Line.clear, Sent.kind, Sent.text, hexecute]
  simp only [Plan.carryOut, Plan.askOver, Line.prepare, Line.execute, Line.deliver_of_clear hp, List.nil_append,
    htables, ite_true, Line.deliver_of_clear he, Line.withDatabase]
  rfl

/-- How the query fares over the line: the message that it fails at, or the end of its execution. -/
inductive Plan.Asked (query : Query α) (conclude : Except ServerError α → Except LedgerError α × List LogLine)
    (line : Line) : Except LedgerError α × List LogLine × Line → Prop
  | unprepared {cause : ServerError} {after : Line}
      (failed : line.deliver (.prepare query.text) = (.error cause, after)) :
      Plan.Asked query conclude line (.error (.server cause), [], after)
  | unknown {prepared : Line} (delivered : line.deliver (.prepare query.text) = (.ok (), prepared))
      (missing : query.tables.all line.server.database.has = false) :
      Plan.Asked query conclude line (.error (.server (.refused .undefinedTable)), [], prepared)
  | unexecuted {prepared after : Line} {cause : ServerError}
      (delivered : line.deliver (.prepare query.text) = (.ok (), prepared))
      (known : query.tables.all line.server.database.has = true)
      (failed : prepared.deliver (.execute query.text query.parameters) = (.error cause, after)) :
      Plan.Asked query conclude line ((conclude (.error cause)).1, (conclude (.error cause)).2, after)
  | executed {prepared executed : Line} (delivered : line.deliver (.prepare query.text) = (.ok (), prepared))
      (known : query.tables.all line.server.database.has = true)
      (passed : prepared.deliver (.execute query.text query.parameters) = (.ok (), executed)) :
      Plan.Asked query conclude line
        ((conclude (query.effect line.server.clock line.server.database).1).1,
          (conclude (query.effect line.server.clock line.server.database).1).2,
          executed.withDatabase (query.effect line.server.clock line.server.database).2)

theorem Plan.askOver_asked (line : Line) : Plan.Asked query conclude line (Plan.askOver query conclude line) := by
  rcases hprepare : line.deliver (.prepare query.text) with ⟨cause | ⟨⟩, prepared⟩
  · simp only [Plan.askOver, Line.prepare, hprepare]
    exact .unprepared hprepare
  · have hserver : prepared.server = line.server := by rw [(Line.deliver_ok hprepare).2]
    cases htables : query.tables.all line.server.database.has with
    | false =>
      simp only [Plan.askOver, Line.prepare, hprepare, hserver, htables, Bool.false_eq_true, ite_false]
      exact .unknown hprepare htables
    | true =>
      rcases hexecute : prepared.deliver (.execute query.text query.parameters) with ⟨cause | ⟨⟩, executed⟩
      · simp only [Plan.askOver, Line.prepare, Line.execute, hprepare, hserver, htables, ite_true, hexecute]
        exact .unexecuted hprepare htables hexecute
      · have hsame : executed.server = line.server := by rw [(Line.deliver_ok hexecute).2, hserver]
        simp only [Plan.askOver, Line.prepare, Line.execute, hprepare, hserver, htables, ite_true, hexecute, hsame]
        exact .executed hprepare htables hexecute

theorem Plan.carryOut_of_not_reaches {line : Line} (hr : line.reaches query = false) :
    line.server.Spent ((Plan.ask query conclude).carryOut line).2.server ∧
      ∃ cause, cause ≠ .rowCount ∧
        (((Plan.ask query conclude).carryOut line).1.answer = .error (.server cause) ∨
          (((Plan.ask query conclude).carryOut line).1.answer = (conclude (.error cause)).1 ∧
            line.server.MayFail .execute cause)) := by
  have hasked : Plan.Asked query conclude _ _ := Plan.askOver_asked conclude { line with sent := [] }
  simp only [Plan.carryOut]
  generalize Plan.askOver query conclude { line with sent := [] } = asked at hasked ⊢
  cases hasked with
  | unprepared failed =>
    obtain ⟨_, hspent, hfail, _⟩ := Line.deliver_error failed
    exact ⟨hspent, _, hfail.ne_rowCount, .inl rfl⟩
  | unknown delivered _ =>
    obtain ⟨_, rfl⟩ := Line.deliver_ok delivered
    exact ⟨.refl _, .refused .undefinedTable, by simp, .inl rfl⟩
  | unexecuted delivered _ failed =>
    obtain ⟨_, rfl⟩ := Line.deliver_ok delivered
    obtain ⟨_, hspent, hfail, _⟩ := Line.deliver_error failed
    exact ⟨hspent, _, hfail.ne_rowCount, .inr ⟨rfl, hfail⟩⟩
  | executed delivered known passed =>
    obtain ⟨hprepare, rfl⟩ := Line.deliver_ok delivered
    obtain ⟨hexecute, _⟩ := Line.deliver_ok passed
    simp only [Line.clear, Sent.kind, Sent.text, Bool.and_eq_true] at hprepare hexecute
    simp only [Line.reaches, hprepare.1, hprepare.2, known, hexecute.2, Bool.and_self, Bool.true_eq_false] at hr

end

/-! ## A call of the user -/

def Session.reaches {α : Type} (session : Session) (query : Query α) : Bool :=
  match session.connection with
  | .absent => session.server.quiet .connect "" && Line.reaches { server := session.server } query
  | .live => Line.reaches { server := session.server } query
  | .lost => false

theorem Session.reaches_tables {α : Type} {session : Session} {query : Query α} (hr : session.reaches query) :
    query.tables.all session.server.database.has = true := by
  have hline : Line.reaches { server := session.server } query = true := by
    cases hc : session.connection <;> simp_all [Session.reaches]
  simp only [Line.reaches, Bool.and_eq_true] at hline
  exact hline.1.2

/-- Before it carries out a plan, a call opens the connection if there is none. That may fail, and then the call ends
there; otherwise the plan meets the same server as before. -/
theorem Session.perform_cases {α : Type} (session : Session) (wrap : α → Reply) (plan : Plan α) :
    (∃ isOpen, (isOpen = true ↔ session.connection ≠ .lost) ∧
      (session.connection = .absent → session.server.quiet .connect "" = true) ∧
      (session.perform wrap plan).1 = (plan.carryOut { server := session.server, isOpen }).1.map wrap ∧
      (session.perform wrap plan).2 =
        ⟨(plan.carryOut { server := session.server, isOpen }).2.server,
          if (plan.carryOut { server := session.server, isOpen }).2.isOpen then .live else .lost⟩) ∨
      (session.connection = .absent ∧ session.server.quiet .connect "" = false ∧
        ∃ cause, session.server.MayFail .connect cause ∧
          (session.perform wrap plan).1 = { answer := .error (.server cause) } ∧
          session.server.Spent (session.perform wrap plan).2.server ∧
          (session.perform wrap plan).2.connection = .absent) := by
  obtain ⟨server, connection⟩ := session
  cases connection with
  | absent =>
    rcases server.accept_cases with ⟨hq, haccept⟩ | ⟨hq, cause, after, haccept, hspent, hfail⟩
    · refine .inl ⟨true, by simp, fun _ => hq, ?_, ?_⟩ <;> simp only [Session.perform, Session.connect, haccept] <;> rfl
    · have hconnect : Session.connect ⟨server, .absent⟩ = (.error cause, ⟨after, .absent⟩) := by
        simp only [Session.connect, haccept]
      refine .inr ⟨rfl, hq, cause, hfail, ?_, ?_, ?_⟩ <;> simp only [Session.perform, hconnect]
      exact hspent
  | live => exact .inl ⟨true, by simp, by simp, rfl, rfl⟩
  | lost => exact .inl ⟨false, by simp, by simp, rfl, rfl⟩

theorem Session.perform_decided {α : Type} (session : Session) (wrap : α → Reply) (answer : Except LedgerError α)
    (log : List LogLine) :
    session.server.Spent (session.perform wrap (.decided answer log)).2.server ∧
      ((session.perform wrap (.decided answer log)).1.answer = answer.map wrap ∨
        ∃ cause, session.server.MayFail .connect cause ∧
          (session.perform wrap (.decided answer log)).1.answer = .error (.server cause)) := by
  rcases session.perform_cases wrap (.decided answer log) with
    ⟨isOpen, _, _, hreport, hafter⟩ | ⟨_, _, cause, hfail, hreport, hspent, _⟩
  · rw [hreport, hafter]
    exact ⟨Server.Spent.refl _, .inl rfl⟩
  · rw [hreport]
    exact ⟨hspent, .inr ⟨cause, hfail, rfl⟩⟩

section
variable {α : Type} {query : Query α} (conclude : Except ServerError α → Except LedgerError α × List LogLine)

theorem Session.perform_of_reaches {session : Session} (wrap : α → Reply) (hr : session.reaches query) :
    session.perform wrap (.ask query conclude) =
      ({ answer := (conclude (query.effect session.server.clock session.server.database).1).1.map wrap
         log := (conclude (query.effect session.server.clock session.server.database).1).2
         sent := [.prepare query.text, .execute query.text query.parameters] },
       { server :=
          { session.server with database := (query.effect session.server.clock session.server.database).2 }
         connection := .live }) := by
  obtain ⟨server, connection⟩ := session
  have hline : Line.reaches { server } query = true := by
    cases connection <;> simp_all [Session.reaches]
  have hcarry := Plan.carryOut_of_reaches conclude hline
  rcases Session.perform_cases ⟨server, connection⟩ wrap (.ask query conclude) with
    ⟨isOpen, hopen, _, hreport, hafter⟩ | ⟨rfl, hq, _⟩
  · have htrue : isOpen = true := by
      refine hopen.mpr ?_
      rintro rfl
      simp [Session.reaches] at hr
    subst htrue
    rw [hcarry] at hreport hafter
    exact Prod.ext hreport hafter
  · simp [Session.reaches, hq] at hr

theorem Session.perform_of_not_reaches {session : Session} (wrap : α → Reply) (hr : session.reaches query = false) :
    session.server.Spent (session.perform wrap (.ask query conclude)).2.server ∧
      ∃ cause, cause ≠ .rowCount ∧
        ((session.perform wrap (.ask query conclude)).1.answer = .error (.server cause) ∨
          ((session.perform wrap (.ask query conclude)).1.answer = (conclude (.error cause)).1.map wrap ∧
            session.server.MayFail .execute cause)) := by
  rcases session.perform_cases wrap (.ask query conclude) with
    ⟨isOpen, hopen, hquiet, hreport, hafter⟩ | ⟨_, _, cause, hfail, hreport, hspent, _⟩
  · have hline : Line.reaches { server := session.server, isOpen } query = false := by
      cases hc : session.connection with
      | absent =>
        have htrue : isOpen = true := hopen.mpr (by simp [hc])
        simpa [Session.reaches, hc, hquiet hc, htrue] using hr
      | live =>
        have htrue : isOpen = true := hopen.mpr (by simp [hc])
        simpa [Session.reaches, hc, htrue] using hr
      | lost =>
        have hfalse : isOpen = false := by simpa [hc] using hopen
        simp [Line.reaches, hfalse]
    obtain ⟨hspent, cause, hne, hanswer⟩ := Plan.carryOut_of_not_reaches conclude hline
    rw [hreport, hafter]
    refine ⟨hspent, cause, hne, ?_⟩
    rcases hanswer with hanswer | ⟨hanswer, hfail⟩
    · exact .inl (by simp only [Report.map, hanswer]; rfl)
    · exact .inr ⟨by simp only [Report.map, hanswer], hfail⟩
  · rw [hreport]
    exact ⟨hspent, cause, hfail.ne_rowCount, .inl rfl⟩

end

theorem Session.lookup_ok {α : Type} {session : Session} {query : Query α} {wrap : α → Reply} {reply : Reply}
    (h : (session.perform wrap (.lookup query)).1.answer = .ok reply) :
    ∃ found, session.reaches query = true ∧
      (query.effect session.server.clock session.server.database).1 = .ok found ∧ reply = wrap found := by
  rw [Plan.lookup] at h
  cases hr : session.reaches query with
  | false =>
    obtain ⟨_, cause, _, hanswer⟩ := Session.perform_of_not_reaches
      (fun outcome : Except ServerError α => (outcome.mapError .server, ([] : List LogLine))) wrap hr
    rcases hanswer with hanswer | ⟨hanswer, _⟩ <;> rw [hanswer] at h <;> cases h
  | true =>
    rw [Session.perform_of_reaches _ wrap hr] at h
    cases hfound : (query.effect session.server.clock session.server.database).1 with
    | error cause =>
      simp only [hfound] at h
      cases h
    | ok found =>
      simp only [hfound] at h
      cases h
      exact ⟨found, rfl, rfl, rfl⟩

/-! ## What a call sends and logs -/

def Session.online (session : Session) : Bool :=
  match session.connection with
  | .absent => session.server.quiet .connect ""
  | .live => true
  | .lost => false

theorem Session.perform_decided_report {α : Type} (session : Session) (wrap : α → Reply) (answer : Except LedgerError α)
    (log : List LogLine) :
    (session.perform wrap (.decided answer log)).1 = { answer := answer.map wrap, log } ∨
      ∃ cause, (session.perform wrap (.decided answer log)).1 = { answer := .error (.server cause) } := by
  rcases session.perform_cases wrap (.decided answer log) with
    ⟨_, _, _, hreport, _⟩ | ⟨_, _, cause, _, hreport, _⟩
  · exact .inl hreport
  · exact .inr ⟨cause, hreport⟩

def Server.prepares {α : Type} (server : Server) (query : Query α) : Bool :=
  server.quiet .prepare query.text && query.tables.all server.database.has

theorem Session.reaches_eq {α : Type} (session : Session) (query : Query α) : session.reaches query =
    (session.online && (session.server.prepares query && session.server.quiet .execute query.text)) := by
  cases hc : session.connection <;> simp [Session.reaches, Session.online, Server.prepares, Line.reaches, hc]

section
variable {α : Type} (wrap : α → Reply) (query : Query α)
  (conclude : Except ServerError α → Except LedgerError α × List LogLine)

/-- What a call that asks a query reports. If the server closes the connection meanwhile, the log opens with that. -/
inductive Session.Course (session : Session) : Report Reply → Prop
  | offline {cause : ServerError} (offline : session.online = false) :
      Session.Course session { answer := .error (.server cause) }
  | unprepared {cause : ServerError} (lost : Bool) (online : session.online = true)
      (unprepared : session.server.prepares query = false) :
      Session.Course session
        { answer := .error (.server cause)
          log := if lost then [connectionLost] else []
          sent := [.prepare query.text] }
  | unexecuted {cause : ServerError} (lost : Bool) (online : session.online = true)
      (prepared : session.server.prepares query = true) (struck : session.server.quiet .execute query.text = false) :
      Session.Course session
        { answer := (conclude (.error cause)).1.map wrap
          log := (if lost then [connectionLost] else []) ++ (conclude (.error cause)).2
          sent := [.prepare query.text, .execute query.text query.parameters] }
  | executed (online : session.online = true) (prepared : session.server.prepares query = true)
      (quiet : session.server.quiet .execute query.text = true) :
      Session.Course session
        { answer := (conclude (query.effect session.server.clock session.server.database).1).1.map wrap
          log := (conclude (query.effect session.server.clock session.server.database).1).2
          sent := [.prepare query.text, .execute query.text query.parameters] }

theorem Session.perform_course (session : Session) :
    session.Course wrap query conclude (session.perform wrap (.ask query conclude)).1 := by
  rcases session.perform_cases wrap (.ask query conclude) with
    ⟨isOpen, hopen, hquiet, hreport, _⟩ | ⟨habsent, hquiet, cause, _, hreport, _⟩
  · rw [hreport]
    cases isOpen with
    | false =>
      have hlost : session.connection = .lost := by simpa using hopen
      exact .offline (by simp only [Session.online, hlost])
    | true =>
      have honline : session.online = true := by
        have hne := hopen.mp rfl
        cases hc : session.connection with
        | absent => simp only [Session.online, hc, hquiet hc]
        | live => simp only [Session.online, hc]
        | lost => exact absurd hc hne
      have hasked : Plan.Asked query conclude _ _ := Plan.askOver_asked conclude { server := session.server }
      simp only [Plan.carryOut, Bool.true_and]
      generalize Plan.askOver query conclude { server := session.server } = asked at hasked ⊢
      cases hasked with
      | @unprepared cause after failed =>
        obtain ⟨hstruck, _, _, hsent⟩ := Line.deliver_error failed
        have hnot : session.server.prepares query = false := by
          rw [Server.prepares, Bool.and_eq_false_iff]
          exact .inl hstruck
        simp only [Report.map, Except.map, List.append_nil, hsent]
        exact .unprepared (!after.isOpen) honline hnot
      | unknown delivered missing =>
        obtain ⟨_, rfl⟩ := Line.deliver_ok delivered
        have hnot : session.server.prepares query = false := by rw [Server.prepares, missing, Bool.and_false]
        exact .unprepared false honline hnot
      | @unexecuted prepared after cause delivered known failed =>
        obtain ⟨hclear, rfl⟩ := Line.deliver_ok delivered
        obtain ⟨hstruck, _, _, hsent⟩ := Line.deliver_error failed
        have hprepares : session.server.prepares query = true := by
          rw [Server.prepares, known, Bool.and_true]
          exact hclear
        simp only [Report.map, hsent]
        exact .unexecuted (!after.isOpen) honline hprepares hstruck
      | executed delivered known passed =>
        obtain ⟨hclear, rfl⟩ := Line.deliver_ok delivered
        obtain ⟨hquiet, rfl⟩ := Line.deliver_ok passed
        have hprepares : session.server.prepares query = true := by
          rw [Server.prepares, known, Bool.and_true]
          exact hclear
        exact .executed honline hprepares hquiet
  · rw [hreport]
    exact .offline (by simp only [Session.online, habsent, hquiet])

end

end BridgeLedger
